import RouteGraft.Proofs.Additions

/-!
# What an addition leaves alone

A request is a whole route or one of the insertions that a route takes (`Request`).
Whatever comes of it, the disk behind it has the files and folders of the disk in front
of it, and at most the files that the paths of the request lead to have another content.
This is a *frame* (`Disk.Frame`).

Paths are followed by looking at what is a folder and what is not, so on both sides of a
frame a path leads to the same place (`Disk.Frame.locate`).  Hence it does not matter
whether paths are followed before the first task of a request or between two of them, and
the frames of tasks compose.

That a source cannot be written is an error that there is, but no request runs into it: a
task writes to a path that it has just read from.
-/

namespace RouteGraft

/-- Whether an entry is a folder. -/
def Entry.isFolder : Entry → Bool
  | file _ => false
  | folder => true

namespace Disk

/-! ## Frames -/

/-- Two disks that differ at most in the contents of files, and there only at the
locations that are touched. -/
structure Frame (touched : Location → Prop) (d d' : Disk) : Prop where
  /-- The working folder is the same. -/
  here : d'.here = d.here
  /-- There are the same files and the same folders. -/
  entries : ∀ l, (d'.find? l).map Entry.isFolder = (d.find? l).map Entry.isFolder
  /-- What is not touched is the same. -/
  untouched : ∀ l, ¬ touched l → d'.find? l = d.find? l

variable {touched : Location → Prop} {d d' d'' : Disk} {p : Path} {l : Location}

namespace Frame

theorem refl (touched : Location → Prop) (d : Disk) : Frame touched d d :=
  ⟨rfl, fun _ => rfl, fun _ _ => rfl⟩

theorem trans (h : Frame touched d d') (h' : Frame touched d' d'') : Frame touched d d'' where
  here := h'.here.trans h.here
  entries l := (h'.entries l).trans (h.entries l)
  untouched l hl := (h'.untouched l hl).trans (h.untouched l hl)

theorem mono (h : Frame touched d d') {wider : Location → Prop}
    (wide : ∀ l, touched l → wider l) : Frame wider d d' where
  here := h.here
  entries := h.entries
  untouched l hl := h.untouched l fun inside => hl (wide l inside)

/-- A file that gets another content. -/
theorem put {old : Bytes} (held : d.Holds p l old) (new : Bytes) (hl : touched l) :
    Frame touched d (d.put l (.file new)) where
  here := rfl
  entries k := by
    rw [find?_put d held.ne_root]
    split
    · next same =>
        rw [← same, held.2]
        rfl
    · rfl
  untouched k hk := by
    rw [find?_put d held.ne_root, if_neg]
    rintro rfl
    exact hk hl

/-! ## Paths on both sides of a frame -/

theorem step (h : Frame touched d d') (l : Location) (name : String) :
    d'.step l name = d.step l name := by
  have same := h.entries l
  unfold Disk.step
  cases found : d.find? l with
  | none =>
      rw [found] at same
      simp [Option.map_eq_none_iff.1 same]
  | some e =>
      rw [found] at same
      obtain ⟨e', found', kind⟩ := Option.map_eq_some_iff.1 same
      cases e with
      | file content =>
          cases e' with
          | file content' => simp [found']
          | folder => cases kind
      | folder =>
          cases e' with
          | file content' => cases kind
          | folder => simp [found']

theorem walk (h : Frame touched d d') (l : Location) (names : List String) :
    d'.walk l names = d.walk l names := by
  induction names generalizing l with
  | nil => rfl
  | cons name names ih =>
      rw [Disk.walk, Disk.walk, h.step]
      cases d.step l name with
      | error f => rfl
      | ok next => exact ih next

/-- A path leads to the same place on both sides. -/
theorem locate (h : Frame touched d d') (p : Path) : d'.locate p = d.locate p := by
  have start : d'.start p = d.start p := by rw [Disk.start, Disk.start, h.here]
  rw [Disk.locate, Disk.locate, start, h.walk]

theorem settled (h : Frame touched d d') (settled : d.Settled) : d'.Settled := by
  intro content found
  have same := h.entries d.here
  rw [← h.here, found] at same
  obtain ⟨e, found', kind⟩ := Option.map_eq_some_iff.1 same.symm
  cases e with
  | file content' => exact settled content' (by rwa [← h.here])
  | folder => cases kind

end Frame

/-- The locations that some paths lead to. -/
def Leads (d : Disk) (paths : List String) (l : Location) : Prop :=
  ∃ path ∈ paths, d.locate (Path.ofText path) = .ok l

theorem Frame.leads (h : Frame touched d d') (paths : List String) (l : Location) :
    d'.Leads paths l ↔ d.Leads paths l := by
  simp only [Leads, h.locate]

end Disk

/-! ## Tasks -/

/-- The path of the source of a task. -/
def Task.path? : Task → Option String
  | edit path _ => some path
  | lost => none

/-- Whether an error is that a source cannot be written. -/
def AdditionError.IsUnwritable (e : AdditionError) : Prop :=
  ∃ path f, e = .source (.unwritable path f)

/-- Reading has errors of its own. -/
theorem Step.Refused.not_isUnwritable {s : Step} {d : Disk} {e : AdditionError}
    (h : s.Refused d e) : ¬ e.IsUnwritable := by
  rintro ⟨path, f, rfl⟩
  cases h with
  | unreadable read =>
      unfold Source.read at read
      simp only at read
      split at read
      · cases read
      · split at read <;> cases read

/-- What a task leaves behind is framed by the source of the task, and it does not fail
when it writes. -/
theorem Task.perform_frame (t : Toolkit) {d : Disk} (settled : d.Settled) (task : Task) :
    d.Frame (d.Leads task.path?.toList) (task.perform t d).disk ∧
      ∀ e, (task.perform t d).error = some e → ¬ e.IsUnwritable := by
  cases task with
  | lost =>
      refine ⟨.refl _ _, ?_⟩
      rintro e he ⟨path, f, rfl⟩
      cases he
  | edit path insertion =>
      rcases editSource_cases settled (s := ⟨t.outliner, t.names, path, insertion⟩) rfl with
        ⟨d', log, done, applied, -, -⟩ | ⟨e, log, done, refused, -⟩
      · obtain ⟨l, content, changed, -, held, -, rfl⟩ := applied
        rw [Task.perform, done]
        refine ⟨.put held changed ⟨path, by simp [Task.path?], held.1⟩, ?_⟩
        intro e he
        cases he
      · rw [Task.perform, done]
        refine ⟨.refl _ _, ?_⟩
        intro e' he
        cases he
        exact refused.not_isUnwritable

/-- What tasks leave behind is framed by their sources. -/
theorem Task.performAll_frame (t : Toolkit) (tasks : List Task) {d : Disk}
    (settled : d.Settled) :
    d.Frame (d.Leads (tasks.filterMap Task.path?)) (Task.performAll t d tasks).disk ∧
      ∀ e, (Task.performAll t d tasks).error = some e → ¬ e.IsUnwritable := by
  induction tasks generalizing d with
  | nil =>
      refine ⟨.refl _ _, ?_⟩
      intro e he
      cases he
  | cons task rest ih =>
      obtain ⟨frame, writable⟩ := task.perform_frame t settled
      obtain ⟨later, laterWritable⟩ := ih (frame.settled settled)
      have first : ∀ l, d.Leads task.path?.toList l →
          d.Leads ((task :: rest).filterMap Task.path?) l := by
        rintro l ⟨path, hpath, located⟩
        refine ⟨path, List.mem_filterMap.2 ⟨task, List.mem_cons_self, ?_⟩, located⟩
        exact Option.mem_toList.1 hpath
      have others : ∀ l, (task.perform t d).disk.Leads (rest.filterMap Task.path?) l →
          d.Leads ((task :: rest).filterMap Task.path?) l := by
        intro l hl
        obtain ⟨path, hpath, located⟩ := (frame.leads _ l).1 hl
        obtain ⟨task', htask', found⟩ := List.mem_filterMap.1 hpath
        exact ⟨path, List.mem_filterMap.2 ⟨task', List.mem_cons_of_mem _ htask', found⟩, located⟩
      rw [Task.performAll]
      simp only
      split
      · exact ⟨frame.mono first, writable⟩
      · exact ⟨(frame.mono first).trans (later.mono others), laterWritable⟩

/-! ## Requests -/

/-- What an application may be asked for. -/
inductive Request where
  /-- A route, with what it shows. -/
  | route (name : String) (ui : Option String)
  /-- The class of a route. -/
  | routeClass (fragment baseClass : String)
  /-- The methods of a route. -/
  | methods (abstractMethod method : String)
  /-- The entry of a route in the mapper, or a section with it. -/
  | mapperEntry (addition fragment : String)

namespace Request

/-- Does what is asked for. -/
def perform (t : Toolkit) (c : Config) (m : RouteMeta) (d : Disk) :
    Request → Outcome AdditionError
  | route name ui => addRoute t c m name ui d
  | routeClass fragment baseClass => Task.performAll t d [routeClassTask c fragment baseClass]
  | methods abstractMethod method => Task.performAll t d (serviceTasks c abstractMethod method)
  | mapperEntry addition fragment => Task.performAll t d [mapperTask c m addition fragment]

/-- The paths of both sources of the service, if the configuration has them. -/
def servicePaths (c : Config) : List String :=
  match c.service? with
  | some (service, impl) => [service, impl]
  | none => []

/-- The paths of the configuration that a request is about. -/
def paths (c : Config) : Request → List String
  | route _ _ =>
      [c.routesPath] ++ (if c.addToService then servicePaths c else []) ++ [c.routeMapperPath]
  | routeClass _ _ => [c.routesPath]
  | methods _ _ => servicePaths c
  | mapperEntry _ _ => [c.routeMapperPath]

theorem paths_serviceTasks (c : Config) (abstractMethod method : String) :
    (serviceTasks c abstractMethod method).filterMap Task.path? = servicePaths c := by
  unfold serviceTasks servicePaths
  cases c.service? with
  | none => rfl
  | some service => rfl

theorem paths_additionTasks (c : Config) (m : RouteMeta) (name : String) (ui : Option String) :
    (additionTasks c m name ui).filterMap Task.path? = (route name ui).paths c := by
  cases add : c.addToService with
  | false => simp [additionTasks, paths, add, routeClassTask, mapperTask, Task.path?]
  | true =>
      simp [additionTasks, paths, add, routeClassTask, mapperTask, Task.path?,
        paths_serviceTasks]

/-- A request makes and removes nothing and changes no file but those its paths lead to,
whether it is met or not.  It does not fail when it writes, since a source that can be read
can be written. -/
theorem changes_contents_only (t : Toolkit) (c : Config) (m : RouteMeta) (r : Request)
    {d : Disk} (settled : d.Settled) :
    d.Frame (d.Leads (r.paths c)) (r.perform t c m d).disk ∧
      (∀ e, (r.perform t c m d).error = some e → ¬ e.IsUnwritable) ∧
      ∀ path old, Source.read d path = .ok old → ∀ new, (Source.write d path new).error = none := by
  have writable : ∀ path old, Source.read d path = .ok old →
      ∀ new, (Source.write d path new).error = none := by
    intro path old read new
    obtain ⟨l, -, written⟩ := Source.write_after_read settled read
    rw [written new]
  cases r with
  | route name ui =>
      obtain ⟨frame, errors⟩ := Task.performAll_frame t (additionTasks c m name ui) settled
      rw [paths_additionTasks] at frame
      exact ⟨frame, errors, writable⟩
  | routeClass fragment baseClass =>
      obtain ⟨frame, errors⟩ :=
        Task.performAll_frame t [routeClassTask c fragment baseClass] settled
      exact ⟨frame, errors, writable⟩
  | methods abstractMethod method =>
      obtain ⟨frame, errors⟩ :=
        Task.performAll_frame t (serviceTasks c abstractMethod method) settled
      rw [paths_serviceTasks] at frame
      exact ⟨frame, errors, writable⟩
  | mapperEntry addition fragment =>
      obtain ⟨frame, errors⟩ := Task.performAll_frame t [mapperTask c m addition fragment] settled
      exact ⟨frame, errors, writable⟩

/-! ## A path with dots -/

/-- A disk with two sources, of which one is no text. -/
def twoSources : Disk :=
  ⟨["app"], [(["app"], .folder), (["lib", "app"], .folder),
    (["nav.dart", "lib", "app"], .file (Utf8.encode "class A")), (["logo", "app"], .file [0xFF])]⟩

/-- A configuration whose mapper is missing.  The path of its routes goes up and down. -/
def noMapper : Config := ⟨"lib/../lib//nav.dart/", "lib/mapper.dart", none, none, false⟩

/-- A route that fails at the mapper has changed the routes, but has left alone the folders
and the other file, and has made no mapper. -/
theorem changes_contents_only_noMapper :
    twoSources.Settled ∧
      let after := ((route "Home" none).perform oneClass noMapper RouteKind.page.describe
        twoSources).disk
      after.find? ["nav.dart", "lib", "app"] ≠ twoSources.find? ["nav.dart", "lib", "app"] ∧
        twoSources.Frame (twoSources.Leads ["lib/../lib//nav.dart/", "lib/mapper.dart"]) after := by
  have settled : twoSources.Settled := by
    intro content
    have here : twoSources.find? twoSources.here = some .folder := by decide
    simp [here]
  refine ⟨settled, by decide +kernel, ?_⟩
  exact (changes_contents_only oneClass noMapper RouteKind.page.describe (.route "Home" none)
    settled).1

end Request

end RouteGraft
