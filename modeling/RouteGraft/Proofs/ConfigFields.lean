import RouteGraft.Config
import RouteGraft.Proofs.Validation

/-!
# The fields of a configuration

A configuration has five fields, and an object has at most one value that counts for each of
them, its *supply* (`Config.Field.supply`): the last value under the first key of the field,
if that key occurs at all, and else the last value under its second key.  A value that is
wrong still counts, so a wrong value under the first key is not made up for by a right one
under the second.

What an object is taken for follows from its five supplies alone.  Either there is a
configuration that they give (`Config.GivenBy`), or some of them are wrong
(`Config.errors`), never both (`Config.errors_eq_nil_iff`).  In the first case the
configuration is taken if it is usable.  All of this is the *verdict* on an object
(`Config.Verdict`), and there is only one (`Config.Verdict.unique`).
-/

namespace RouteGraft

/-! ## Lax booleans -/

/-- The flags that values are taken for. -/
inductive Json.IsFlag : Json → Bool → Prop
  | bool {b : Bool} : IsFlag (.bool b) b
  | zero : IsFlag (.number (.integer 0)) false
  | one : IsFlag (.number (.integer 1)) true
  /-- A number with a point or a power, next to zero. -/
  | nearZero {negative : Bool} {digits : Nat} {exponent : Int} :
      Json.Number.wholeOf? digits exponent = some 0 →
        IsFlag (.number (.decimal negative digits exponent)) false
  /-- A number with a point or a power, next to one. -/
  | nearOne {digits : Nat} {exponent : Int} :
      Json.Number.wholeOf? digits exponent = some 1 →
        IsFlag (.number (.decimal false digits exponent)) true
  /-- One of the words, in capitals or small letters. -/
  | word {w s : String} {b : Bool} :
      (w, b) ∈ Json.flagWords → s.toList.map Naming.lower = w.toList → IsFlag (.string s) b

namespace Json

/-- No word is both flags. -/
theorem flagWords_unique : ∀ p ∈ flagWords, ∀ q ∈ flagWords, p.1.toList = q.1.toList → p = q := by
  decide

theorem flagOfText_eq_ok {s : String} {b : Bool} : flagOfText s = .ok b ↔ IsFlag (.string s) b := by
  unfold flagOfText
  simp only
  constructor
  · intro h
    split at h
    · next w b' found =>
        cases h
        have same := List.find?_some found
        exact .word (List.mem_of_find?_eq_some found) (of_decide_eq_true same).symm
    · cases h
  · intro h
    cases h with
    | @word w _ _ mem same =>
        have found : flagWords.find? (·.1.toList = s.toList.map Naming.lower) = some (w, b) := by
          cases hfind : flagWords.find? (·.1.toList = s.toList.map Naming.lower) with
          | none =>
              have differs := List.find?_eq_none.1 hfind (w, b) mem
              simp [same] at differs
          | some p =>
              have same' := List.find?_some hfind
              rw [same] at same'
              rw [flagWords_unique p (List.mem_of_find?_eq_some hfind) (w, b) mem
                (of_decide_eq_true same')]
        rw [found]

theorem flagOfInteger_eq_ok {n : Int} {fits b : Bool} :
    flagOfInteger n fits = .ok b ↔ n = 0 ∧ b = false ∨ n = 1 ∧ b = true := by
  unfold flagOfInteger
  by_cases zero : n = 0
  · simp [zero, eq_comm]
  · by_cases one : n = 1
    · simp [one, eq_comm]
    · cases fits with
      | true => simp [zero, one]
      | false => simp [zero, one]

theorem flagOfNumber_integer {n : Int} {b : Bool} :
    flagOfNumber (.integer n) = .ok b ↔ IsFlag (.number (.integer n)) b := by
  rw [flagOfNumber, flagOfInteger_eq_ok]
  constructor
  · rintro (⟨rfl, rfl⟩ | ⟨rfl, rfl⟩)
    · exact .zero
    · exact .one
  · intro h
    cases h with
    | zero => exact .inl ⟨rfl, rfl⟩
    | one => exact .inr ⟨rfl, rfl⟩

theorem flagOfNumber_decimal {negative : Bool} {digits : Nat} {exponent : Int} {b : Bool} :
    flagOfNumber (.decimal negative digits exponent) = .ok b ↔
      IsFlag (.number (.decimal negative digits exponent)) b := by
  rw [flagOfNumber]
  cases whole : Number.wholeOf? digits exponent with
  | none =>
      constructor
      · nofun
      · intro h
        cases h with
        | nearZero near => cases whole.symm.trans near
        | nearOne near => cases whole.symm.trans near
  | some n =>
      simp only [flagOfInteger_eq_ok]
      constructor
      · rintro (⟨zero, rfl⟩ | ⟨one, rfl⟩)
        · obtain rfl : n = 0 := by
            cases negative with
            | true => simpa using zero
            | false => simpa using zero
          exact .nearZero whole
        · cases negative with
          | true =>
              rw [if_pos rfl] at one
              omega
          | false =>
              rw [if_neg Bool.false_ne_true] at one
              obtain rfl : n = 1 := by omega
              exact .nearOne whole
      · intro h
        cases h with
        | nearZero near =>
            cases whole.symm.trans near
            exact .inl ⟨by simp, rfl⟩
        | nearOne near =>
            cases whole.symm.trans near
            exact .inr ⟨rfl, rfl⟩

theorem flagOfNumber_eq_ok {n : Number} {b : Bool} :
    flagOfNumber n = .ok b ↔ IsFlag (.number n) b := by
  cases n with
  | integer n => exact flagOfNumber_integer
  | decimal negative digits exponent => exact flagOfNumber_decimal
  | nan =>
      constructor
      · nofun
      · nofun
  | infinite negative =>
      constructor
      · nofun
      · nofun

/-- The values that are flags. -/
theorem flag_eq_ok {v : Json} {b : Bool} : v.flag = .ok b ↔ IsFlag v b := by
  cases v with
  | bool b' =>
      constructor
      · intro h
        cases h
        exact .bool
      · intro h
        cases h
        rfl
  | number n => exact flagOfNumber_eq_ok
  | string s => exact flagOfText_eq_ok
  | _ =>
      constructor
      · nofun
      · nofun

end Json

namespace Config

/-! ## Fields and their supplies -/

/-- The fields of a configuration. -/
inductive Field where
  | routesPath
  | routeMapperPath
  | servicePath
  | serviceImplPath
  | addToService
  deriving DecidableEq, Repr

/-- The fields in the order of their declaration. -/
def Field.all : List Field :=
  [.routesPath, .routeMapperPath, .servicePath, .serviceImplPath, .addToService]

theorem Field.mem_all (f : Field) : f ∈ Field.all := by
  cases f
  all_goals decide

/-- The first key of a field. -/
def Field.key : Field → String
  | .routesPath => "routesPath"
  | .routeMapperPath => "routeMapperPath"
  | .servicePath => "servicePath"
  | .serviceImplPath => "serviceImplPath"
  | .addToService => "addToService"

/-- The second key of a field. -/
def Field.alternative : Field → String
  | .routesPath => "routes_path"
  | .routeMapperPath => "route_mapper_path"
  | .servicePath => "service_path"
  | .serviceImplPath => "service_impl_path"
  | .addToService => "add_to_service"

/-- The value of the last member with a key. -/
def lastValue? (ms : Json.Members) (key : String) : Option Json :=
  (ms.filter (·.1 = key)).getLast?.map (·.2)

/-- What an object has for a field: the key that counts and the value under it, if there is
one. -/
structure Supply where
  /-- The key. -/
  key : String
  /-- The value. -/
  value? : Option Json

/-- The supply of a field. -/
def Field.supply (f : Field) (ms : Json.Members) : Supply :=
  match lastValue? ms f.key, lastValue? ms f.alternative with
  | some v, _ => ⟨f.key, some v⟩
  | none, some v => ⟨f.alternative, some v⟩
  | none, none => ⟨f.key, none⟩

/-! ## Right values -/

/-- The paths that a value stands for, where there may be none. -/
inductive IsPath : Option String → Option Json → Prop
  | absent : IsPath none none
  | null : IsPath none (some .null)
  | text {s : String} : IsPath (some s) (some (.string s))

/-- A configuration has the value that stands for a field. -/
def Gives (c : Config) (v? : Option Json) : Field → Prop
  | .routesPath => v? = some (.string c.routesPath)
  | .routeMapperPath => v? = some (.string c.routeMapperPath)
  | .servicePath => IsPath c.servicePath v?
  | .serviceImplPath => IsPath c.serviceImplPath v?
  | .addToService => ∃ v, v? = some v ∧ v.IsFlag c.addToService

/-- A configuration has exactly the values that an object supplies. -/
def GivenBy (c : Config) (ms : Json.Members) : Prop := ∀ f : Field, c.Gives (f.supply ms).value? f

/-! ## Wrong values -/

/-- The kinds of fields. -/
inductive Kind where
  /-- A text that must not be missing. -/
  | text
  /-- A text that may be missing or null. -/
  | path
  /-- A flag that must not be missing. -/
  | flag
  deriving DecidableEq, Repr

/-- The kind of a field. -/
def Field.kind : Field → Kind
  | .routesPath | .routeMapperPath => .text
  | .servicePath | .serviceImplPath => .path
  | .addToService => .flag

/-- What is wrong with a value. -/
def Kind.fault? : Kind → Option Json → Option FieldFault
  | .text, some (.string _) | .path, some (.string _) | .path, some .null | .path, none => none
  | .text, some _ | .path, some _ => some .notText
  | .flag, some v =>
      match v.flag with
      | .ok _ => none
      | .error fault => some fault
  | .text, none | .flag, none => some .missing

/-- What is wrong with a field of an object, under the key of its supply. -/
def Field.error? (f : Field) (ms : Json.Members) : Option FieldError :=
  (f.kind.fault? (f.supply ms).value?).map (⟨(f.supply ms).key, ·⟩)

/-- Everything that is wrong with the fields of an object, in the order of their
declaration. -/
def errors (ms : Json.Members) : List FieldError := Field.all.filterMap (·.error? ms)

/-! ## Verdicts -/

/-- What an object is taken for. -/
inductive Verdict (ms : Json.Members) : Except (List Fault) Config → Prop
  /-- A configuration with the values of its fields. -/
  | accepted {c : Config} : c.GivenBy ms → c.Usable → Verdict ms (.ok c)
  /-- Its fields are right and ask for a service that is not there. -/
  | unusable {c : Config} : c.GivenBy ms → ¬ c.Usable → Verdict ms (.error [.servicePaths])
  /-- Some of its fields are wrong. -/
  | invalid : errors ms ≠ [] → Verdict ms (.error ((errors ms).map .field))

/-! ## Looking up -/

theorem lookup?_eq_lastValue? (ms : Json.Members) (key : String) :
    ms.lookup? key = lastValue? ms key := by
  induction ms with
  | nil => rfl
  | cons m ms ih =>
      obtain ⟨k, v⟩ := m
      rw [Json.Members.lookup?, ih]
      by_cases same : k = key
      · simp only [lastValue?, List.filter_cons, same, decide_true, if_true, List.getLast?_cons]
        cases (ms.filter (·.1 = key)).getLast? with
        | none => rfl
        | some m => rfl
      · simp only [lastValue?, List.filter_cons, same, decide_false, Bool.false_eq_true, if_false]
        cases (ms.filter (·.1 = key)).getLast? with
        | none => rfl
        | some m => rfl

/-- The key that is chosen is the one of the supply, and its value is found. -/
theorem keyIn_eq_supply (f : Field) (ms : Json.Members) :
    keyIn ms f.key f.alternative = (f.supply ms).key ∧
      ms.lookup? (keyIn ms f.key f.alternative) = (f.supply ms).value? := by
  have first := lookup?_eq_lastValue? ms f.key
  have second := lookup?_eq_lastValue? ms f.alternative
  unfold keyIn Field.supply
  rw [first, second]
  cases hfirst : lastValue? ms f.key with
  | some v => exact ⟨rfl, first.trans hfirst⟩
  | none =>
      cases hsecond : lastValue? ms f.alternative with
      | some v => exact ⟨rfl, second.trans hsecond⟩
      | none => exact ⟨rfl, first.trans hfirst⟩

/-! ## One field at a time -/

/-- The outcome of a field that is right, with a value, or wrong. -/
inductive Checked (f : Field) (ms : Json.Members) {α : Type} (IsValue : α → Prop) :
    Except FieldError α → Prop
  | right {a : α} : IsValue a → f.error? ms = none → Checked f ms IsValue (.ok a)
  | wrong {e : FieldError} : f.error? ms = some e → Checked f ms IsValue (.error e)

section Checked

variable {f : Field} {ms : Json.Members} {α : Type} {IsValue : α → Prop}

theorem Checked.ofOutcome_eq {outcome : Except FieldError α} (h : Checked f ms IsValue outcome) :
    FieldError.ofOutcome outcome = (f.error? ms).toList := by
  cases h with
  | right value fine => rw [fine]; rfl
  | wrong fault => rw [fault]; rfl

/-- A field that must not be missing is checked by checking its value. -/
theorem checked_requiredField {read : Json → Except FieldFault α}
    (missing : f.kind.fault? none = some .missing)
    (ok : ∀ {v a}, (f.supply ms).value? = some v → read v = .ok a →
      IsValue a ∧ f.kind.fault? (some v) = none)
    (error : ∀ {v fault}, read v = .error fault → f.kind.fault? (some v) = some fault) :
    Checked f ms IsValue (ms.requiredField (keyIn ms f.key f.alternative) read) := by
  obtain ⟨key, value⟩ := keyIn_eq_supply f ms
  unfold Json.Members.requiredField
  rw [value, key]
  cases supplied : (f.supply ms).value? with
  | none => exact .wrong (by rw [Field.error?, supplied, missing]; rfl)
  | some v =>
      simp only
      cases outcome : read v with
      | ok a =>
          obtain ⟨isValue, fine⟩ := ok supplied outcome
          exact .right isValue (by rw [Field.error?, supplied, fine]; rfl)
      | error fault => exact .wrong (by rw [Field.error?, supplied, error outcome]; rfl)

theorem checked_text (ms : Json.Members) (kind : f.kind = .text) :
    Checked f ms (fun s => (f.supply ms).value? = some (.string s))
      (ms.requiredField (keyIn ms f.key f.alternative) Json.text) := by
  refine checked_requiredField (by rw [kind]; rfl) (fun {v s} supplied read => ?_)
    (fun {v fault} read => ?_)
  · cases v with
    | string s' =>
        cases read
        exact ⟨supplied, by rw [kind]; rfl⟩
    | _ => cases read
  · rw [kind]
    cases v with
    | string s => cases read
    | _ =>
        cases read
        rfl

theorem checked_flag (ms : Json.Members) (kind : f.kind = .flag) :
    Checked f ms (fun b => ∃ v, (f.supply ms).value? = some v ∧ v.IsFlag b)
      (ms.requiredField (keyIn ms f.key f.alternative) Json.flag) := by
  refine checked_requiredField (by rw [kind]; rfl) (fun {v b} supplied read => ?_)
    (fun {v fault} read => ?_)
  · exact ⟨⟨v, supplied, Json.flag_eq_ok.1 read⟩, by rw [kind, Kind.fault?, read]⟩
  · rw [kind, Kind.fault?, read]

/-- A path may be missing or null. -/
theorem checked_path (ms : Json.Members) (kind : f.kind = .path) :
    Checked f ms (fun p => IsPath p (f.supply ms).value?)
      (ms.field (keyIn ms f.key f.alternative) Json.textOrNull none) := by
  obtain ⟨key, value⟩ := keyIn_eq_supply f ms
  unfold Json.Members.field
  rw [value, key]
  cases supplied : (f.supply ms).value? with
  | none => exact .right .absent (by rw [Field.error?, supplied, kind]; rfl)
  | some v =>
      cases v with
      | null => exact .right .null (by rw [Field.error?, supplied, kind]; rfl)
      | string s => exact .right .text (by rw [Field.error?, supplied, kind]; rfl)
      | _ => exact .wrong (by rw [Field.error?, supplied, kind]; rfl)

end Checked

/-! ## All fields -/

theorem errors_eq (ms : Json.Members) :
    errors ms = (Field.error? .routesPath ms).toList ++ (Field.error? .routeMapperPath ms).toList
      ++ (Field.error? .servicePath ms).toList ++ (Field.error? .serviceImplPath ms).toList
      ++ (Field.error? .addToService ms).toList := by
  rw [errors, List.filterMap_eq_flatMap_toList]
  simp only [Field.all, List.flatMap_cons, List.flatMap_nil, List.append_nil, List.append_assoc]

theorem errors_eq_nil {ms : Json.Members} : errors ms = [] ↔ ∀ f : Field, f.error? ms = none := by
  rw [errors, List.filterMap_eq_nil_iff]
  exact ⟨fun fine f => fine f f.mem_all, fun fine f _ => fine f⟩

/-- The outcome of a field with nothing wrong is a value. -/
theorem Checked.of_none {f : Field} {ms : Json.Members} {α : Type} {IsValue : α → Prop}
    {outcome : Except FieldError α} (h : Checked f ms IsValue outcome) (fine : f.error? ms = none) :
    ∃ a, outcome = .ok a ∧ IsValue a := by
  cases h with
  | right value _ => exact ⟨_, rfl, value⟩
  | wrong fault => cases fault.symm.trans fine

/-- The configuration with the outcomes of five fields, or all their errors. -/
def assemble (routes mapper : Except FieldError String)
    (service impl : Except FieldError (Option String)) (add : Except FieldError Bool) :
    Except (List FieldError) Config :=
  match routes, mapper, service, impl, add with
  | .ok routes, .ok mapper, .ok service, .ok impl, .ok add =>
      .ok ⟨routes, mapper, service, impl, add⟩
  | _, _, _, _, _ =>
      .error (FieldError.ofOutcome routes ++ FieldError.ofOutcome mapper
        ++ FieldError.ofOutcome service ++ FieldError.ofOutcome impl ++ FieldError.ofOutcome add)

theorem fieldsOf_eq (ms : Json.Members) :
    fieldsOf ms = assemble
      (ms.requiredField (keyIn ms (Field.key .routesPath) (Field.alternative .routesPath))
        Json.text)
      (ms.requiredField (keyIn ms (Field.key .routeMapperPath) (Field.alternative .routeMapperPath))
        Json.text)
      (ms.field (keyIn ms (Field.key .servicePath) (Field.alternative .servicePath))
        Json.textOrNull none)
      (ms.field (keyIn ms (Field.key .serviceImplPath) (Field.alternative .serviceImplPath))
        Json.textOrNull none)
      (ms.requiredField (keyIn ms (Field.key .addToService) (Field.alternative .addToService))
        Json.flag) :=
  rfl

/-- An object gives a configuration, or something is wrong with its fields. -/
theorem fieldsOf_cases (ms : Json.Members) :
    (∃ c, fieldsOf ms = .ok c ∧ c.GivenBy ms ∧ errors ms = []) ∨
      fieldsOf ms = .error (errors ms) ∧ errors ms ≠ [] := by
  have routes := checked_text (f := .routesPath) ms rfl
  have mapper := checked_text (f := .routeMapperPath) ms rfl
  have service := checked_path (f := .servicePath) ms rfl
  have impl := checked_path (f := .serviceImplPath) ms rfl
  have add := checked_flag (f := .addToService) ms rfl
  have together := errors_eq ms
  rw [← routes.ofOutcome_eq, ← mapper.ofOutcome_eq, ← service.ofOutcome_eq, ← impl.ofOutcome_eq,
    ← add.ofOutcome_eq] at together
  rw [fieldsOf_eq]
  by_cases fine : errors ms = []
  · have each := errors_eq_nil.1 fine
    obtain ⟨routes, isRoutes, routesGiven⟩ := routes.of_none (each _)
    obtain ⟨mapper, isMapper, mapperGiven⟩ := mapper.of_none (each _)
    obtain ⟨service, isService, serviceGiven⟩ := service.of_none (each _)
    obtain ⟨impl, isImpl, implGiven⟩ := impl.of_none (each _)
    obtain ⟨add, isAdd, addGiven⟩ := add.of_none (each _)
    refine .inl ⟨⟨routes, mapper, service, impl, add⟩, ?_, fun f => ?_, fine⟩
    · rw [isRoutes, isMapper, isService, isImpl, isAdd]
      rfl
    · cases f with
      | routesPath => exact routesGiven
      | routeMapperPath => exact mapperGiven
      | servicePath => exact serviceGiven
      | serviceImplPath => exact implGiven
      | addToService => exact addGiven
  · refine .inr ⟨?_, fine⟩
    unfold assemble
    split
    · next isRoutes isMapper isService isImpl isAdd =>
        rw [isRoutes, isMapper, isService, isImpl, isAdd] at together
        exact absurd together fine
    · rw [together]

/-! ## Verdicts are unique -/

theorem IsPath.unique {p p' : Option String} {v? : Option Json} (h : IsPath p v?)
    (h' : IsPath p' v?) : p = p' := by
  cases h
  all_goals cases h'; rfl

/-- An object gives one configuration only. -/
theorem GivenBy.unique {c c' : Config} {ms : Json.Members} (h : c.GivenBy ms) (h' : c'.GivenBy ms) :
    c = c' := by
  have routes : c.routesPath = c'.routesPath := by
    have same := (h .routesPath).symm.trans (h' .routesPath)
    simpa using same
  have mapper : c.routeMapperPath = c'.routeMapperPath := by
    have same := (h .routeMapperPath).symm.trans (h' .routeMapperPath)
    simpa using same
  have service : c.servicePath = c'.servicePath := IsPath.unique (h .servicePath) (h' .servicePath)
  have impl : c.serviceImplPath = c'.serviceImplPath :=
    IsPath.unique (h .serviceImplPath) (h' .serviceImplPath)
  have add : c.addToService = c'.addToService := by
    obtain ⟨v, supplied, isFlag⟩ := h .addToService
    obtain ⟨v', supplied', isFlag'⟩ := h' .addToService
    cases supplied.symm.trans supplied'
    have same := (Json.flag_eq_ok.2 isFlag).symm.trans (Json.flag_eq_ok.2 isFlag')
    exact Except.ok.inj same
  cases c
  cases c'
  cases routes
  cases mapper
  cases service
  cases impl
  cases add
  rfl

/-- Nothing is wrong with a value that a configuration has. -/
theorem Gives.fault? {c : Config} {v? : Option Json} {f : Field} (h : c.Gives v? f) :
    f.kind.fault? v? = none := by
  have path {p : Option String} (h : IsPath p v?) : Kind.fault? .path v? = none := by
    cases h
    all_goals rfl
  cases f with
  | routesPath => rw [show v? = _ from h]; rfl
  | routeMapperPath => rw [show v? = _ from h]; rfl
  | servicePath => exact path h
  | serviceImplPath => exact path h
  | addToService =>
      obtain ⟨v, rfl, isFlag⟩ := h
      rw [Field.kind, Kind.fault?, Json.flag_eq_ok.2 isFlag]

theorem GivenBy.errors {c : Config} {ms : Json.Members} (h : c.GivenBy ms) :
    Config.errors ms = [] :=
  errors_eq_nil.2 fun f => by rw [Field.error?, (h f).fault?]; rfl

/-- Every object has a configuration, or something is wrong with it. -/
theorem errors_eq_nil_iff {ms : Json.Members} : errors ms = [] ↔ ∃ c : Config, c.GivenBy ms := by
  constructor
  · intro fine
    rcases fieldsOf_cases ms with ⟨c, -, given, -⟩ | ⟨-, wrong⟩
    · exact ⟨c, given⟩
    · exact absurd fine wrong
  · rintro ⟨c, given⟩
    exact given.errors

theorem Verdict.unique {ms : Json.Members} {outcome outcome' : Except (List Fault) Config}
    (h : Verdict ms outcome) (h' : Verdict ms outcome') : outcome = outcome' := by
  cases h with
  | accepted given usable =>
      cases h' with
      | accepted given' _ => rw [given.unique given']
      | unusable given' unusable' => exact absurd (given.unique given' ▸ usable) unusable'
      | invalid wrong => exact absurd given.errors wrong
  | unusable given unusable =>
      cases h' with
      | accepted given' usable' => exact absurd (given'.unique given ▸ usable') unusable
      | unusable given' _ => rfl
      | invalid wrong => exact absurd given.errors wrong
  | invalid wrong =>
      cases h' with
      | accepted given' _ => exact absurd given'.errors wrong
      | unusable given' _ => exact absurd given'.errors wrong
      | invalid _ => rfl

/-- The verdict on an object is what it is taken for. -/
theorem ofJson_verdict (ms : Json.Members) : Verdict ms (ofJson (.object ms)) := by
  rcases fieldsOf_cases ms with ⟨c, made, given, -⟩ | ⟨refused, wrong⟩
  · by_cases usable : c.Usable
    · have passes := usable_iff.1 usable
      simp only [ofJson, made, passes, Bool.false_eq_true, if_false]
      exact .accepted given usable
    · have fails : (c.addToService && !c.hasService) = true :=
        Bool.not_eq_false _ ▸ fun passes => usable (usable_iff.2 passes)
      simp only [ofJson, made, fails, if_true]
      exact .unusable given usable
  · simp only [ofJson, refused]
    exact .invalid wrong

end Config

end RouteGraft
