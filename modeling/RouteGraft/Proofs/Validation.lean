import RouteGraft.CommandLine
import RouteGraft.Proofs.Additions

/-!
# Validation before mutation

A call is validated in four layers: its words, the selection of a kind, the configuration,
and the paths of the service where they are needed.  A call that is turned away by one of
them is *rejected* (`CommandLine.Rejected`), and its disk is the one it was given.

The last layer stands in the middle of the work.  A route whose configuration asks for
methods and does not say where the service is fails behind its first task, when the routes
are written already.  Such a configuration is never made: whether it is read off a value, a
document or a file (`Config.Validated`), it has both paths if it needs them
(`Config.Usable`), so no route is ever added that lacks its service.

Any call that changes its disk has come as far as the route itself
(`CommandLine.run_cases`), and what is left for it is to end with a line of text and the
exit code zero or one.
-/

namespace RouteGraft

/-! ## Configurations that are usable -/

namespace Config

/-- A configuration that comes from a value, a document or a file. -/
inductive Validated : Config → Prop
  | value {v : Json} {c : Config} : ofJson v = .ok c → Validated c
  | document {content : Bytes} {c : Config} : read content = .ok c → Validated c
  | file {d : Disk} {path : String} {c : Config} : load d path = .ok c → Validated c

/-- A configuration that has both paths of the service, and none of them empty, if it asks
for methods. -/
def Usable (c : Config) : Prop :=
  c.addToService = true →
    ∃ service impl, c.servicePath = some service ∧ c.serviceImplPath = some impl ∧
      service ≠ "" ∧ impl ≠ ""

/-- What was read was made from a value. -/
theorem ofJson_of_read {content : Bytes} {c : Config} (h : read content = .ok c) :
    ∃ v, ofJson v = .ok c := by
  unfold read at h
  split at h
  · cases h
  · next v _ =>
      split at h
      · cases h
      · next c' made =>
          cases h
          exact ⟨v, made⟩

/-- What was loaded was read. -/
theorem read_of_load {d : Disk} {path : String} {c : Config} (h : load d path = .ok c) :
    ∃ content, read content = .ok c := by
  unfold load at h
  simp only at h
  split at h
  · cases h
  · split at h
    · cases h
    · cases h
    · next content _ =>
        split at h
        · next c' made =>
            cases h
            exact ⟨content, made⟩
        · cases h

theorem Validated.ofJson {c : Config} (h : c.Validated) : ∃ v, Config.ofJson v = .ok c := by
  cases h with
  | value made => exact ⟨_, made⟩
  | document made => exact ofJson_of_read made
  | file made =>
      obtain ⟨content, made'⟩ := read_of_load made
      exact ofJson_of_read made'

theorem hasService_iff {c : Config} :
    c.hasService = true ↔
      ∃ service impl, c.servicePath = some service ∧ c.serviceImplPath = some impl ∧
        service ≠ "" ∧ impl ≠ "" := by
  cases hservice : c.servicePath with
  | none => simp [hasService, hservice]
  | some service =>
      cases himpl : c.serviceImplPath with
      | none => simp [hasService, himpl]
      | some impl => simp [hasService, hservice, himpl]

/-- A configuration is usable if it passes the last check. -/
theorem usable_iff {c : Config} : c.Usable ↔ (c.addToService && !c.hasService) = false := by
  rw [Usable, ← hasService_iff]
  cases c.addToService with
  | false => simp
  | true => simp

theorem Validated.usable {c : Config} (h : c.Validated) : c.Usable := by
  intro add
  obtain ⟨v, made⟩ := h.ofJson
  exact hasService_iff.1 (hasService_of_ofJson made add)

/-- A configuration that is usable says where the service is. -/
theorem Usable.service? {c : Config} (h : c.Usable) (add : c.addToService = true) :
    ∃ paths, c.service? = some paths := by
  obtain ⟨service, impl, hservice, himpl, service_ne, impl_ne⟩ := h add
  exact ⟨(service, impl), by simp [Config.service?, hservice, himpl, service_ne, impl_ne]⟩

end Config

/-! ## Services that are not lost -/

theorem editSource_ne_noService (t : Toolkit) (d : Disk) (path : String) (i : Insertion) :
    (editSource t d path i).error ≠ some .noService := by
  unfold editSource
  split
  · simp
  · split
    · simp
    · simp [Option.map_eq_some_iff]

/-- The service is missed by tasks only if one of them has lost it. -/
theorem Task.lost_mem {t : Toolkit} {tasks : List Task} {d : Disk}
    (h : (Task.performAll t d tasks).error = some .noService) : Task.lost ∈ tasks := by
  induction tasks generalizing d with
  | nil => cases h
  | cons task rest ih =>
      rw [Task.performAll] at h
      simp only at h
      split at h
      · cases task with
        | lost => exact List.mem_cons_self
        | edit path insertion => exact absurd h (editSource_ne_noService t d path insertion)
      · exact List.mem_cons_of_mem _ (ih h)

theorem Config.Usable.lost_not_mem {c : Config} (h : c.Usable) (m : RouteMeta) (name : String)
    (ui : Option String) : Task.lost ∉ additionTasks c m name ui := by
  cases add : c.addToService with
  | false => simp [additionTasks, add, routeClassTask, mapperTask]
  | true =>
      obtain ⟨paths, service⟩ := h.service? add
      simp [additionTasks, add, routeClassTask, mapperTask, serviceTasks, service]

/-- A route whose configuration is usable never misses the service. -/
theorem Config.Usable.addRoute_ne_noService {c : Config} (h : c.Usable) (t : Toolkit)
    (m : RouteMeta) (name : String) (ui : Option String) (d : Disk) :
    (addRoute t c m name ui d).error ≠ some .noService := by
  intro missed
  exact h.lost_not_mem m name ui (Task.lost_mem missed)

namespace CommandLine

/-! ## Calls that come as far as the route -/

/-- The end of a call that has come as far as its configuration. -/
def Ending.IsAnswer (e : Ending) : Prop := e.code ≤ 1 ∧ ∃ s, e.printed = .text s

theorem isAnswer_refusal (width : Option Nat) (message : String) :
    (Ending.refusal width message).IsAnswer :=
  ⟨Nat.le_refl _, _, rfl⟩

theorem isAnswer_passedOn (e : Escape) : (Ending.passedOn e).IsAnswer := ⟨Nat.le_refl _, _, rfl⟩

theorem isAnswer_additionError (width : Option Nat) (e : AdditionError) :
    (endingOfAdditionError width e).IsAnswer := by
  cases e with
  | source e =>
      cases e with
      | nul => exact isAnswer_passedOn _
      | notFound path => exact isAnswer_refusal width _
      | unreadable path f => exact isAnswer_refusal width _
      | unwritable path f => exact isAnswer_refusal width _
  | insertion e =>
      cases e with
      | noPlace reason path => exact isAnswer_refusal width _
      | outside e => exact isAnswer_passedOn _
      | undecodable e => exact isAnswer_passedOn _
  | noService => exact isAnswer_refusal width _

theorem isAnswer_success (width : Option Nat) (m : RouteMeta) (name : String) :
    (endingOfSuccess width m name).IsAnswer := by
  unfold endingOfSuccess
  split
  · exact ⟨Nat.zero_le _, _, rfl⟩
  · exact isAnswer_passedOn _

/-- A call either leaves its disk alone or adds a route: it orders one, it selects a single
kind, its configuration is loaded, and it ends with an answer. -/
theorem run_cases (words : List String) (d : Disk) (width : Option Nat) :
    (run words d {} width).disk = d ∨
      ∃ verbose o k c, Call.ofWords words = .command verbose (.order o) ∧ o.kinds = [k] ∧
        Config.load d o.config = .ok c ∧ (run words d {} width).ending.IsAnswer := by
  cases call : Call.ofWords words with
  | nothing => exact .inl (by rw [run, call])
  | unusable => exact .inl (by rw [run, call])
  | help => exact .inl (by rw [run, call])
  | command verbose command =>
      cases command with
      | unusable => exact .inl (by rw [run, call])
      | help => exact .inl (by rw [run, call])
      | order o =>
          have ran : run words d {} width
              = { perform o d {} width with
                  log := shown verbose (greeting :: (perform o d {} width).log) } := by
            rw [run, call]
          rw [ran]
          cases kinds : o.kinds with
          | nil => exact .inl (by simp [perform, kinds])
          | cons k more =>
              cases more with
              | cons k' more => exact .inl (by simp [perform, kinds])
              | nil =>
                  cases loaded : Config.load d o.config with
                  | error e => exact .inl (by simp [perform, kinds, addSelected, loaded])
                  | ok c =>
                      refine .inr ⟨verbose, o, k, c, rfl, kinds, loaded, ?_⟩
                      simp only [perform, kinds, addSelected, loaded]
                      split
                      · exact isAnswer_additionError width _
                      · exact isAnswer_success width _ _

/-! ## Calls that are rejected -/

/-- Why the configuration of an order is at fault: it cannot be loaded, or the service is
missed when the route is added. -/
inductive ConfigFails (o : Order) (k : RouteKind) (d : Disk) : Prop
  | unloadable {e : Config.LoadError} : Config.load d o.config = .error e → ConfigFails o k d
  | noService {c : Config} :
      Config.load d o.config = .ok c →
        (addRoute {} c (k.metaFor o.generic) o.name o.ui d).error = some .noService →
          ConfigFails o k d

/-- A call that one of the layers of validation turns away. -/
inductive Rejected (words : List String) (d : Disk) (width : Option Nat) : Prop
  /-- It ends as calls do that make no sense. -/
  | unusable : (run words d {} width).ending.code = 2 → Rejected words d width
  /-- It ends with the help screen. -/
  | help : (run words d {} width).ending.printed = .help → Rejected words d width
  /-- It selects no kind of route, or several. -/
  | selection {verbose : Bool} {o : Order} :
      Call.ofWords words = .command verbose (.order o) → o.kinds.length ≠ 1 →
        Rejected words d width
  /-- Its configuration is at fault. -/
  | configuration {verbose : Bool} {o : Order} {k : RouteKind} :
      Call.ofWords words = .command verbose (.order o) → o.kinds = [k] → ConfigFails o k d →
        Rejected words d width

/-- A call that is rejected has not changed its disk, whatever the width of the console.  A
configuration that was validated is usable, and no route that is added with it misses the
service. -/
theorem rejected_before_changes (words : List String) (d : Disk) (width : Option Nat) :
    (Rejected words d width → (run words d {} width).disk = d) ∧
      ∀ c : Config, c.Validated → c.Usable ∧
        ∀ t m name ui d', (addRoute t c m name ui d').error ≠ some .noService := by
  have usable : ∀ c : Config, c.Validated → c.Usable ∧
      ∀ t m name ui d', (addRoute t c m name ui d').error ≠ some .noService :=
    fun c validated => ⟨validated.usable, validated.usable.addRoute_ne_noService⟩
  refine ⟨fun rejected => ?_, usable⟩
  rcases run_cases words d width with
    same | ⟨verbose, o, k, c, ordered, kinds, loaded, low, s, printed⟩
  · exact same
  · exfalso
    cases rejected with
    | unusable code => omega
    | help shown =>
        rw [printed] at shown
        cases shown
    | selection ordered' several =>
        rw [ordered] at ordered'
        cases ordered'
        exact several (congrArg List.length kinds)
    | configuration ordered' kinds' fails =>
        rw [ordered] at ordered'
        cases ordered'
        rw [kinds] at kinds'
        cases kinds'
        cases fails with
        | unloadable unloaded =>
            rw [loaded] at unloaded
            cases unloaded
        | noService loaded' missed =>
            rw [loaded] at loaded'
            cases loaded'
            exact (usable c (.file loaded)).2 _ _ _ _ _ missed

/-! ## A service without a path -/

/-- A disk with a configuration whose second path of the service is empty. -/
def halfService : Disk :=
  ⟨[], [(["mad_navigation.json"], .file (Utf8.encode
      ("\x7b\"routesPath\":\"r\",\"routeMapperPath\":\"m\",\"service_path\":\"s\","
        ++ "\"serviceImplPath\":\"\",\"addToService\":\"on\"\x7d"))),
    (["r"], .file (Utf8.encode "class A extends NavPage \x7b\x7d"))]⟩

/-- A call with this configuration is rejected, and a configuration with both paths is
usable. -/
theorem rejected_before_changes_halfService :
    (run ["add-route", "--page", "-nX"] halfService {} (some 80)).disk = halfService ∧
      ∃ c : Config, c.addToService = true ∧ c.Usable := by
  have ordered : Call.ofWords ["add-route", "--page", "-nX"]
      = .command false (.order ⟨"X", [.page], none, none, "mad_navigation.json"⟩) := by
    decide +kernel
  have refused : Config.load halfService "mad_navigation.json"
      = .error (.refused ⟨.relative, ["mad_navigation.json"]⟩ (.invalid [.servicePaths])) := by
    decide +kernel
  have rejected : Rejected ["add-route", "--page", "-nX"] halfService (some 80) :=
    .configuration ordered rfl (.unloadable refused)
  have made : Config.ofJson (.object [("routes_path", .string "r"),
      ("route_mapper_path", .string "m"), ("servicePath", .string "s"),
      ("serviceImplPath", .string "i"), ("addToService", .bool true)])
      = .ok ⟨"r", "m", some "s", some "i", true⟩ := by decide +kernel
  exact ⟨(rejected_before_changes _ _ _).1 rejected, _, rfl,
    ((rejected_before_changes [] halfService none).2 _ (.value made)).1⟩

end CommandLine

end RouteGraft
