import RouteGraft.Addition
import RouteGraft.Proofs.Disks
import RouteGraft.Proofs.Growth

/-!
# Additions cut at the first failure

Adding a route is a list of steps, one for each source (`additionSteps`).  A step
that is *applied* takes the content its source has at that moment, makes its
insertion into it and puts the result where the content was.  A step that is
*refused* leaves the disk alone.

A run applies steps from the front, and the first one that is refused is the last
one that is looked at (`CutAt`).  It does not matter whether two of the paths lead to
the same file: what a step reads is on the disk that the step before it left behind.
-/

namespace RouteGraft

/-! ## Steps on a disk -/

namespace Step

/-- The step puts its insertion into the content of its source. -/
def Applied (s : Step) (d d' : Disk) : Prop :=
  ∃ l content changed, Source.read d s.path = .ok content ∧
    d.Holds (Path.ofText s.path) l content ∧ s.result content = .ok changed ∧
    d' = d.put l (.file changed)

/-- The step fails: its source cannot be read, or its insertion is refused. -/
inductive Refused (s : Step) (d : Disk) : AdditionError → Prop
  | unreadable {e : SourceError} : Source.read d s.path = .error e → Refused s d (.source e)
  | unplaced {content : Bytes} {e : InsertionError} :
      Source.read d s.path = .ok content → s.result content = .error e →
        Refused s d (.insertion e)

/-- What the log says of a step that was applied. -/
def update (s : Step) : LogEntry := .info ("Updated " ++ (Path.ofText s.path).text)

/-- The task of the step. -/
def task (s : Step) : Task := .edit s.path s.insertion

end Step

/-- Steps that are applied one after the other. -/
inductive AppliedAll : List Step → Disk → Disk → Prop
  | nil {d : Disk} : AppliedAll [] d d
  | cons {s : Step} {steps : List Step} {d d' last : Disk} :
      s.Applied d d' → AppliedAll steps d' last → AppliedAll (s :: steps) d last

/-! ## Errors -/

/-- The path an error names, if it names one. -/
def AdditionError.path? : AdditionError → Option String
  | .source (.notFound path) => some path
  | .source (.unreadable path _) => some path
  | .source (.unwritable path _) => some path
  | .insertion (.noPlace _ path) => some path
  | _ => none

theorem read_error_path {d : Disk} {path : String} {e : SourceError}
    (h : Source.read d path = .error e) : ∀ p ∈ (AdditionError.source e).path?, p = path := by
  unfold Source.read at h
  simp only at h
  split at h
  · cases h
    simp [AdditionError.path?]
  · split at h
    · cases h
    · cases h
      simp [AdditionError.path?]
    · cases h
      simp [AdditionError.path?]

theorem insert_error_path {outliner : Outliner} {names : Names} {path : String} {i : Insertion}
    {content : Bytes} {e : InsertionError}
    (h : (insert outliner names path i content).2 = .error e) :
    ∀ p ∈ (AdditionError.insertion e).path?, p = path := by
  unfold insert at h
  split at h
  · cases h
    simp [AdditionError.path?]
  · split at h
    · cases h
      simp [AdditionError.path?]
    · simp only at h
      split at h
      · cases h
      · cases h
        simp [AdditionError.path?]

/-- An error of a step names no other path than that of the step. -/
theorem Step.Refused.path {s : Step} {d : Disk} {e : AdditionError} (h : s.Refused d e) :
    ∀ p ∈ e.path?, p = s.path := by
  cases h with
  | unreadable read => exact read_error_path read
  | unplaced _ refused => exact insert_error_path refused

/-- A step has one way to fail. -/
theorem Step.Refused.unique {s : Step} {d : Disk} {e e' : AdditionError} (h : s.Refused d e)
    (h' : s.Refused d e') : e = e' := by
  cases h with
  | unreadable read =>
      cases h' with
      | unreadable read' => cases read.symm.trans read'; rfl
      | unplaced read' _ => cases read.symm.trans read'
  | unplaced read refused =>
      cases h' with
      | unreadable read' => cases read.symm.trans read'
      | unplaced read' refused' =>
          cases read.symm.trans read'
          cases refused.symm.trans refused'
          rfl

/-! ## One step -/

/-- The entries of a log that tell of progress. -/
def Log.progress (log : Log) : Log := log.filter (·.level = .info)

theorem Log.progress_append (log later : Log) :
    Log.progress (log ++ later) = log.progress ++ later.progress := List.filter_append ..

/-- Before anything is put in, the log tells of details only. -/
theorem progress_insert (outliner : Outliner) (names : Names) (path : String) (i : Insertion)
    (content : Bytes) : (insert outliner names path i content).1.progress = [] := by
  unfold insert
  split
  · rfl
  · split
    · rfl
    · rfl

/-- A task either applies its step or is refused. -/
theorem editSource_cases {t : Toolkit} {d : Disk} (settled : d.Settled) {path : String}
    {i : Insertion} {s : Step} (hs : s = ⟨t.outliner, t.names, path, i⟩) :
    (∃ d' log, editSource t d path i = ⟨d', log, none⟩ ∧ s.Applied d d' ∧ d'.Settled ∧
        log.progress = [s.update]) ∨
      ∃ e log, editSource t d path i = ⟨d, log, some e⟩ ∧ s.Refused d e ∧ log.progress = [] := by
  subst hs
  cases read : Source.read d path with
  | error e =>
      refine .inr ⟨.source e, [], ?_, .unreadable read, rfl⟩
      simp [editSource, read]
  | ok content =>
      have details := progress_insert t.outliner t.names path i content
      cases inserted : insert t.outliner t.names path i content with
      | mk log result =>
          have came : (insert t.outliner t.names path i content).2 = result := by rw [inserted]
          rw [inserted] at details
          cases result with
          | error e =>
              refine .inr ⟨.insertion e, log, ?_, .unplaced read came, details⟩
              simp [editSource, read, inserted]
          | ok changed =>
              obtain ⟨l, held, written⟩ := Source.write_after_read settled read
              let told : LogEntry := .info ("Updated " ++ (Path.ofText path).text)
              refine .inl ⟨d.put l (.file changed), log ++ [told], ?_, ?_, settled.put held, ?_⟩
              · simp [editSource, read, inserted, written, told]
              · exact ⟨l, content, changed, read, held, came, rfl⟩
              · rw [Log.progress_append, details]
                rfl

/-! ## Runs -/

/-- What is left behind on a disk by steps of which the first `j` were applied. -/
structure CutAt (steps : List Step) (d : Disk) (o : Outcome AdditionError) (j : Nat) : Prop where
  /-- There are that many steps. -/
  within : j ≤ steps.length
  /-- Each step found what the steps before it left behind. -/
  applied : AppliedAll (steps.take j) d o.disk
  /-- There is no error just if all steps were applied. -/
  complete : o.error = none ↔ j = steps.length
  /-- An error is the one of the next step. -/
  refused : ∀ e, o.error = some e ↔ ∃ s, steps[j]? = some s ∧ s.Refused o.disk e
  /-- The log tells of the steps that were applied. -/
  progress : o.log.progress = (steps.take j).map Step.update

namespace CutAt

variable {s : Step} {steps : List Step} {d d' : Disk} {o : Outcome AdditionError} {j : Nat}

/-- Nothing is left behind by no steps. -/
theorem nil (d : Disk) : CutAt [] d ⟨d, [], none⟩ 0 where
  within := Nat.le_refl _
  applied := .nil
  complete := by simp
  refused := by simp
  progress := rfl

/-- A step that is applied goes in front of those that are made on the disk behind it. -/
theorem cons (applied : s.Applied d d') {log : Log} (told : log.progress = [s.update])
    (later : CutAt steps d' o j) :
    CutAt (s :: steps) d ⟨o.disk, log ++ o.log, o.error⟩ (j + 1) where
  within := Nat.succ_le_succ later.within
  applied := .cons applied later.applied
  complete := by rw [later.complete, List.length_cons, Nat.add_right_cancel_iff]
  refused := by
    intro e
    rw [List.getElem?_cons_succ]
    exact later.refused e
  progress := by
    rw [Log.progress_append, told, later.progress, List.take_succ_cons, List.map_cons,
      List.singleton_append]

/-- The steps behind one that is refused are not made. -/
theorem stop {e : AdditionError} (refused : s.Refused d e) {log : Log}
    (told : log.progress = []) : CutAt (s :: steps) d ⟨d, log, some e⟩ 0 where
  within := Nat.zero_le _
  applied := .nil
  complete := by simp
  refused := by
    intro e'
    constructor
    · intro he
      cases he
      exact ⟨s, rfl, refused⟩
    · rintro ⟨s', first, refused'⟩
      cases first
      rw [refused.unique refused']
  progress := told

/-- An error names no other path than that of the step it comes from. -/
theorem error_path (h : CutAt steps d o j) {e : AdditionError} (he : o.error = some e) :
    ∃ s, steps[j]? = some s ∧ ∀ p ∈ e.path?, p = s.path := by
  obtain ⟨s, next, refused⟩ := (h.refused e).1 he
  exact ⟨s, next, refused.path⟩

end CutAt

/-- Tasks done one after the other are steps cut at the first failure. -/
theorem performAll_cutAt {t : Toolkit} {steps : List Step}
    (tools : ∀ s ∈ steps, s.outliner = t.outliner ∧ s.names = t.names) {d : Disk}
    (settled : d.Settled) :
    ∃ j, CutAt steps d (Task.performAll t d (steps.map Step.task)) j := by
  induction steps generalizing d with
  | nil => exact ⟨0, .nil d⟩
  | cons s steps ih =>
      obtain ⟨same, sameNames⟩ := tools s List.mem_cons_self
      have hs : s = ⟨t.outliner, t.names, s.path, s.insertion⟩ := by rw [← same, ← sameNames]
      have performed : s.task.perform t d = editSource t d s.path s.insertion := rfl
      rcases editSource_cases settled hs with
        ⟨d', log, done, applied, settled', told⟩ | ⟨e, log, done, refused, told⟩
      · obtain ⟨j, later⟩ := ih (fun s' hs' => tools s' (List.mem_cons_of_mem s hs')) settled'
        refine ⟨j + 1, ?_⟩
        simpa [Task.performAll, performed, done] using later.cons applied told
      · refine ⟨0, ?_⟩
        simpa [Task.performAll, performed, done] using CutAt.stop refused told

/-! ## Adding a route -/

/-- The steps of adding a route: its class, its methods if the service gets them, and
its entry in the mapper. -/
def additionSteps (t : Toolkit) (c : Config) (m : RouteMeta) (name : String)
    (ui : Option String) : List Step :=
  let step (path : String) (i : Insertion) : Step := ⟨t.outliner, t.names, path, i⟩
  let method := Fragment.methodName m name
  step c.routesPath (.routeClass (Fragment.routeClass m name) m.baseClass)
    :: (if c.addToService then
          [step (c.servicePath.getD "") (.serviceMethod (Fragment.abstractMethod m method)),
            step (c.serviceImplPath.getD "")
              (.serviceImplMethod (Fragment.concreteMethod m method name))]
        else [])
    ++ [step c.routeMapperPath
          (.mapperEntry (Fragment.mapperSection m name ui) (Fragment.mapperEntry m name ui)
            m.typeName)]

/-- A configuration that has both paths of the service, as one that was read has if it
needs them, says where the service is. -/
theorem service?_of_hasService {c : Config} (h : c.hasService = true) :
    c.service? = some (c.servicePath.getD "", c.serviceImplPath.getD "") := by
  obtain ⟨routes, mapper, service, impl, add⟩ := c
  cases service with
  | none => simp [Config.hasService] at h
  | some service =>
      cases impl with
      | none => simp [Config.hasService] at h
      | some impl => simpa [Config.hasService, Config.service?] using h

theorem additionTasks_eq (t : Toolkit) {c : Config} (m : RouteMeta) (name : String)
    (ui : Option String) (valid : c.addToService = true → c.hasService = true) :
    additionTasks c m name ui = (additionSteps t c m name ui).map Step.task := by
  cases add : c.addToService with
  | false => simp [additionTasks, additionSteps, add, routeClassTask, mapperTask, Step.task]
  | true =>
      have service := service?_of_hasService (valid add)
      simp [additionTasks, additionSteps, add, routeClassTask, serviceTasks, service, mapperTask,
        Step.task]

theorem tools_of_mem_additionSteps {t : Toolkit} {c : Config} {m : RouteMeta} {name : String}
    {ui : Option String} {s : Step} (h : s ∈ additionSteps t c m name ui) :
    s.outliner = t.outliner ∧ s.names = t.names := by
  cases add : c.addToService with
  | false =>
      simp only [additionSteps, add, Bool.false_eq_true, if_false, List.cons_append,
        List.nil_append, List.mem_cons, List.not_mem_nil, or_false] at h
      rcases h with rfl | rfl
      · exact ⟨rfl, rfl⟩
      · exact ⟨rfl, rfl⟩
  | true =>
      simp only [additionSteps, add, if_true, List.cons_append, List.nil_append, List.mem_cons,
        List.not_mem_nil, or_false] at h
      rcases h with rfl | rfl | rfl | rfl
      all_goals exact ⟨rfl, rfl⟩

theorem progress_emptyBuilderLog (name : String) (ui : Option String) :
    (emptyBuilderLog name ui).progress = [] := by
  unfold emptyBuilderLog
  split
  · rfl
  · rfl

/-- Adding a route applies its steps one after the other, each to what the source
holds at that moment, up to the first that is refused.  That one gives the error,
which names its path and no other.  The steps behind it change nothing, and the log
tells of those in front of it. -/
theorem addRoute_cutAt (t : Toolkit) {c : Config} (m : RouteMeta) (name : String)
    (ui : Option String) {d : Disk} (settled : d.Settled)
    (valid : c.addToService = true → c.hasService = true) :
    ∃ j, CutAt (additionSteps t c m name ui) d (addRoute t c m name ui d) j ∧
      ∀ e, (addRoute t c m name ui d).error = some e →
        ∃ s, (additionSteps t c m name ui)[j]? = some s ∧ ∀ p ∈ e.path?, p = s.path := by
  obtain ⟨j, cut⟩ := performAll_cutAt (fun _ => tools_of_mem_additionSteps) settled
  rw [← additionTasks_eq t m name ui valid] at cut
  refine ⟨j, ⟨cut.within, cut.applied, cut.complete, cut.refused, ?_⟩, fun e => cut.error_path⟩
  rw [← cut.progress, addRoute, Log.progress_append, progress_emptyBuilderLog, List.nil_append]

/-! ## Four paths to one file -/

/-- A disk with one source, and a folder beside it. -/
def oneSource : Disk :=
  ⟨["app"], [(["app"], .folder), (["lib", "app"], .folder),
    (["nav.dart", "app"], .file (Utf8.encode "class A"))]⟩

/-- A configuration in which all paths lead to that source. -/
def onePlace : Config :=
  ⟨"nav.dart", "lib/../nav.dart", some "./nav.dart", some ".//nav.dart", true⟩

/-- Finds one class in every source, to the end of which all insertions go. -/
def oneClass : Toolkit where
  outliner := fun content =>
    let stop : Int := content.length
    let routers : ListLiteral := ⟨⟨0, stop⟩, stop, [], false⟩
    .ok ⟨[⟨"A", ⟨0, stop⟩, some "NavPage MadRouteMapper", some "MadNavigationServiceImpl",
      ["MadNavigationService"], stop,
      [⟨"routers", .getter, some .expression, none, some routers⟩]⟩]⟩

/-- Where all paths lead to one file, it has all four fragments in the end. -/
theorem addRoute_cutAt_onePlace :
    oneSource.Settled ∧ onePlace.hasService = true ∧
      (addRoute oneClass onePlace RouteKind.page.describe "Home" none oneSource).error = none ∧
      ∃ j, CutAt (additionSteps oneClass onePlace RouteKind.page.describe "Home" none) oneSource
          (addRoute oneClass onePlace RouteKind.page.describe "Home" none oneSource) j ∧ j = 4 := by
  have settled : oneSource.Settled := by
    intro content
    have here : oneSource.find? oneSource.here = some .folder := by decide
    simp [here]
  have service : onePlace.hasService = true := by decide
  have done :
      (addRoute oneClass onePlace RouteKind.page.describe "Home" none oneSource).error = none := by
    decide +kernel
  obtain ⟨j, cut, -⟩ := addRoute_cutAt oneClass RouteKind.page.describe "Home" none settled
    (fun _ => service)
  exact ⟨settled, service, done, j, cut, cut.complete.1 done⟩

end RouteGraft
