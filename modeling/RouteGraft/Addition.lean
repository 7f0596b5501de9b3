import RouteGraft.Config
import RouteGraft.Insertion
import RouteGraft.Route.Fragment
import RouteGraft.Source

/-!
# Adding a route

A route is added to an application by one insertion into each of its sources:
its class into the routes, its methods into the two sources of the navigation
service, if the configuration asks for them, and its entry into the mapper.

Each of these is a *task*.  A task reads its source, makes its insertion and
writes the source back, and only then the next task starts, so two tasks may
well be about the same source.  The first task that fails is the last one; what
the tasks before it have written stays.
-/

namespace RouteGraft

/-! ## Errors -/

/-- Why a route cannot be added. -/
inductive AdditionError where
  /-- A source cannot be read or written. -/
  | source (e : SourceError)
  /-- A fragment cannot be inserted. -/
  | insertion (e : InsertionError)
  /-- The configuration does not say where the service is. -/
  | noService
  deriving DecidableEq, Repr

/-- The wording of the error. -/
def AdditionError.message : AdditionError → String
  | .source e => e.message
  | .insertion e => e.message
  | .noService => "servicePath and serviceImplPath are required to update navigation services"

/-! ## Tasks -/

/-- A step of adding a route. -/
inductive Task where
  /-- An insertion into the source at a path. -/
  | edit (path : String) (insertion : Insertion)
  /-- An insertion into the service, of which the configuration does not say
  where it is. -/
  | lost

/-- What sources are read by and searched for. -/
structure Toolkit where
  /-- Draws up the outlines. -/
  outliner : Outliner := Outline.ofSource
  /-- The names to look for. -/
  names : Names := {}

/-- Makes an insertion into the source at a path. -/
def editSource (t : Toolkit) (d : Disk) (path : String) (i : Insertion) :
    Outcome AdditionError :=
  match Source.read d path with
  | .error e => ⟨d, [], some (.source e)⟩
  | .ok content =>
      match insert t.outliner t.names path i content with
      | (log, .error e) => ⟨d, log, some (.insertion e)⟩
      | (log, .ok changed) =>
          let w := Source.write d path changed
          ⟨w.disk, log ++ w.log, w.error.map .source⟩

/-- Does a task. -/
def Task.perform (t : Toolkit) (d : Disk) : Task → Outcome AdditionError
  | edit path insertion => editSource t d path insertion
  | lost => ⟨d, [], some .noService⟩

/-- Does tasks one after the other, up to the first that fails. -/
def Task.performAll (t : Toolkit) (d : Disk) : List Task → Outcome AdditionError
  | [] => ⟨d, [], none⟩
  | task :: rest =>
      let o := task.perform t d
      if o.error.isSome then o
      else
        let later := performAll t o.disk rest
        ⟨later.disk, o.log ++ later.log, later.error⟩

/-! ## The tasks of an addition -/

/-- The paths of both sources of the service, if the configuration has them. -/
def Config.service? (c : Config) : Option (String × String) :=
  match c.servicePath, c.serviceImplPath with
  | some service, some impl => if service ≠ "" ∧ impl ≠ "" then some (service, impl) else none
  | _, _ => none

/-- The insertion of the class of a route. -/
def routeClassTask (c : Config) (fragment baseClass : String) : Task :=
  .edit c.routesPath (.routeClass fragment baseClass)

/-- The insertions of the methods of a route, the abstract one first. -/
def serviceTasks (c : Config) (abstractMethod method : String) : List Task :=
  match c.service? with
  | some (service, impl) =>
      [.edit service (.serviceMethod abstractMethod), .edit impl (.serviceImplMethod method)]
  | none => [.lost]

/-- The insertion of the entry of a route, or of a section with it. -/
def mapperTask (c : Config) (m : RouteMeta) (addition entry : String) : Task :=
  .edit c.routeMapperPath (.mapperEntry addition entry m.typeName)

/-- The tasks of adding a route. -/
def additionTasks (c : Config) (m : RouteMeta) (name : String) (ui : Option String) :
    List Task :=
  let method := Fragment.methodName m name
  [routeClassTask c (Fragment.routeClass m name) m.baseClass]
    ++ (if c.addToService then
          serviceTasks c (Fragment.abstractMethod m method)
            (Fragment.concreteMethod m method name)
        else [])
    ++ [mapperTask c m (Fragment.mapperSection m name ui) (Fragment.mapperEntry m name ui)]

/-- What the log says of a route without a component to show. -/
def emptyBuilderLog (name : String) (ui : Option String) : Log :=
  if ui.getD "" = "" then
    [.warning ("No UI component given; the generated MadRouteBuilder for " ++ name
      ++ " will be empty")]
  else []

/-- Adds a route to the application of a configuration. -/
def addRoute (t : Toolkit) (c : Config) (m : RouteMeta) (name : String) (ui : Option String)
    (d : Disk) : Outcome AdditionError :=
  let o := Task.performAll t d (additionTasks c m name ui)
  { o with log := emptyBuilderLog name ui ++ o.log }

/-- What the log says before a route is added. -/
def announcement (m : RouteMeta) (name : String) : LogEntry :=
  .debug ("Adding " ++ m.typeName ++ " route " ++ name)

/-! ## What stays -/

/-- A task that fails leaves no later task to do. -/
theorem Task.performAll_cons_of_error {t : Toolkit} {d : Disk} {task : Task} {rest : List Task}
    (h : (task.perform t d).error.isSome) :
    Task.performAll t d (task :: rest) = task.perform t d := by
  simp [performAll, h]

end RouteGraft
