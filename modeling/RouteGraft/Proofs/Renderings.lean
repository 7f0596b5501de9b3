import RouteGraft.Proofs.ConfigVerdicts

/-!
# Renderings of a configuration

A configuration may be written as an object in many ways (`Config.Rendering`).  Each field
stands under either of its keys, the fields stand in any order, and a path that is not there
is left out or written as null.  An object has many documents in turn.  Whichever is chosen,
reading it gives the configuration back (`Config.read_rendering`).

A rendering has at most one member of each field, so a key that it has is found by sorting
out the members with other keys, in whatever order they stand (`filter_flatMap_members`).
-/

namespace RouteGraft.Config

open Json (Members Document TextTo Blanks ascii blanks_nil CharsText FourDigits StringText
  stringText_encode memberText_encode document_of_flat)

/-! ## Values of fields -/

/-- A path as a value. -/
def pathValue : Option String → Json
  | none => .null
  | some s => .string s

/-- The value that a configuration has for a field. -/
def value (c : Config) : Field → Json
  | .routesPath => .string c.routesPath
  | .routeMapperPath => .string c.routeMapperPath
  | .servicePath => pathValue c.servicePath
  | .serviceImplPath => pathValue c.serviceImplPath
  | .addToService => .bool c.addToService

theorem atomic_value (c : Config) (f : Field) : (c.value f).Atomic := by
  have path (p : Option String) : (pathValue p).Atomic := by
    cases p
    all_goals trivial
  cases f with
  | routesPath => trivial
  | routeMapperPath => trivial
  | servicePath => exact path c.servicePath
  | serviceImplPath => exact path c.serviceImplPath
  | addToService => trivial

/-- The value of a configuration gives its field, and so does nothing in place of null. -/
theorem gives_value {c : Config} {f : Field} {v? : Option Json}
    (h : v? = some (c.value f) ∨ v? = none ∧ c.value f = .null) : c.Gives v? f := by
  have path {p : Option String} (h : v? = some (pathValue p) ∨ v? = none ∧ pathValue p = .null) :
      IsPath p v? := by
    cases p with
    | none =>
        rcases h with rfl | ⟨rfl, -⟩
        · exact .null
        · exact .absent
    | some s =>
        rcases h with rfl | ⟨-, null⟩
        · exact .text
        · cases null
  cases f with
  | routesPath =>
      rcases h with given | ⟨-, null⟩
      · exact given
      · cases null
  | routeMapperPath =>
      rcases h with given | ⟨-, null⟩
      · exact given
      · cases null
  | servicePath => exact path h
  | serviceImplPath => exact path h
  | addToService =>
      rcases h with given | ⟨-, null⟩
      · exact ⟨_, given, .bool⟩
      · cases null

/-! ## Renderings -/

/-- The members that a field may be written as. -/
inductive Written (c : Config) (f : Field) : Members → Prop
  | key : Written c f [(f.key, c.value f)]
  | alternative : Written c f [(f.alternative, c.value f)]
  | omitted : c.value f = .null → Written c f []

/-- The objects that a configuration may be written as: the members of its fields in any
order. -/
def Rendering (c : Config) (ms : Members) : Prop :=
  ∃ members : Field → Members, (∀ f, Written c f (members f)) ∧
    ms.Perm (Field.all.flatMap members)

/-- No two fields have a key in common, and none has one key twice. -/
theorem Field.keys_ne (f g : Field) :
    f.key ≠ g.alternative ∧ (f ≠ g → f.key ≠ g.key ∧ f.alternative ≠ g.alternative) := by
  cases f
  all_goals cases g
  all_goals decide

theorem Written.atomic {c : Config} {f : Field} {ms : Members} (h : Written c f ms) :
    ∀ m ∈ ms, m.2.Atomic := by
  intro m hm
  cases h with
  | omitted _ => cases hm
  | _ =>
      obtain rfl := List.mem_singleton.1 hm
      exact atomic_value c f

theorem Written.filter_eq_nil {c : Config} {f : Field} {ms : Members} (h : Written c f ms)
    {key : String} (first : f.key ≠ key) (second : f.alternative ≠ key) :
    ms.filter (·.1 = key) = [] := by
  cases h with
  | key => simp [first]
  | alternative => simp [second]
  | omitted _ => rfl

/-- The supply of a field whose keys are those of the members it is written as. -/
theorem Written.supply {c : Config} {f : Field} {row ms : Members} (h : Written c f row)
    (found : ∀ key, key = f.key ∨ key = f.alternative →
      (ms.filter (·.1 = key)).Perm (row.filter (·.1 = key))) :
    (f.supply ms).value? = some (c.value f) ∨
      (f.supply ms).value? = none ∧ c.value f = .null := by
  have first := found f.key (.inl rfl)
  have second := found f.alternative (.inr rfl)
  have differ : f.key ≠ f.alternative := (f.keys_ne f).1
  unfold Field.supply lastValue?
  cases h with
  | key =>
      simp only [List.filter_cons, decide_true, if_true, List.filter_nil] at first
      rw [List.perm_singleton.1 first]
      exact .inl rfl
  | alternative =>
      simp only [List.filter_cons, differ.symm, decide_false, Bool.false_eq_true, if_false,
        decide_true, if_true, List.filter_nil] at first second
      rw [List.perm_nil.1 first, List.perm_singleton.1 second]
      exact .inl rfl
  | omitted null =>
      rw [List.perm_nil.1 first, List.perm_nil.1 second]
      exact .inr ⟨rfl, null⟩

/-- What only one entry of a list contributes to. -/
theorem flatMap_eq_of_others {α β : Type} {l : List α} {a : α} (mem : a ∈ l) (nodup : l.Nodup)
    {g : α → List β} (others : ∀ b, b ≠ a → g b = []) : l.flatMap g = g a := by
  obtain ⟨front, back, rfl⟩ := List.append_of_mem mem
  have apart := List.perm_middle.nodup_iff.1 nodup
  have notMem : a ∉ front ++ back := (List.nodup_cons.1 apart).1
  have nothing {part : List α} (h : ∀ b ∈ part, b ∈ front ++ back) : part.flatMap g = [] :=
    List.flatMap_eq_nil_iff.2 fun b hb => others b fun same => notMem (same ▸ h b hb)
  rw [List.flatMap_append, List.flatMap_cons,
    nothing fun b hb => List.mem_append_left back hb,
    nothing fun b hb => List.mem_append_right front hb, List.nil_append, List.append_nil]

section Rendering

variable {c : Config} {members : Field → Members} (written : ∀ f, Written c f (members f))
include written

/-- Only the members of a field have its keys. -/
theorem filter_flatMap_members (f : Field) {key : String}
    (known : key = f.key ∨ key = f.alternative) :
    (Field.all.flatMap members).filter (·.1 = key) = (members f).filter (·.1 = key) := by
  have other (g : Field) (ne : g ≠ f) : (members g).filter (·.1 = key) = [] := by
    rcases known with rfl | rfl
    · exact (written g).filter_eq_nil ((g.keys_ne f).2 ne).1 (f.keys_ne g).1.symm
    · exact (written g).filter_eq_nil (g.keys_ne f).1 ((g.keys_ne f).2 ne).2
  rw [List.filter_flatMap]
  exact flatMap_eq_of_others f.mem_all (by decide) other

end Rendering

/-- Every document of every rendering is read as the configuration that was written. -/
theorem read_rendering {c : Config} (usable : c.Usable) {ms : Members} (rendering : c.Rendering ms)
    {longest : Nat} {s : Bytes} (h : Document longest (.object ms) s) : Config.read s = .ok c := by
  obtain ⟨members, written, perm⟩ := rendering
  have atomic : ∀ m ∈ ms, m.2.Atomic := by
    intro m hm
    obtain ⟨f, -, hf⟩ := List.mem_flatMap.1 (perm.mem_iff.1 hm)
    exact (written f).atomic m hf
  have given : c.GivenBy ms := by
    intro f
    refine gives_value ((written f).supply fun key known => ?_)
    rw [← filter_flatMap_members written f known]
    exact perm.filter _
  have verdict : Verdict ms (.ok c) := .accepted given usable
  rw [read_eq_of_document (h.atomic atomic), (ofJson_verdict ms).unique verdict]
  rfl

/-- A configuration with characters that may be escaped. -/
def odd : Config := ⟨"\"/é", "😀\n", some "s", some "i", true⟩

/-- An object for it. -/
def oddMembers : Members :=
  [("add_to_service", .bool true), ("routesPath", .string "\"/é"),
    ("route_mapper_path", .string "😀\n"), ("serviceImplPath", .string "i"),
    ("service_path", .string "s")]

/-- A document of the object. -/
def oddText : Bytes :=
  Utf8.encode ("\x7b\"add_to_service\" :true,\"routesPath\":\"\\\"\\/é\","
    ++ "\"route_mapper_path\":\"\\ud83D\\uDE00\\u000a\",\"serviceImplPath\":\"i\","
    ++ "\"service_path\":\"s\"\x7d\n")

theorem rendering_odd : Rendering odd oddMembers := by
  let members : Field → Members
    | .routesPath => [("routesPath", .string "\"/é")]
    | .routeMapperPath => [("route_mapper_path", .string "😀\n")]
    | .servicePath => [("service_path", .string "s")]
    | .serviceImplPath => [("serviceImplPath", .string "i")]
    | .addToService => [("add_to_service", .bool true)]
  refine ⟨members, fun f => ?_, ?_⟩
  · cases f with
    | routesPath => exact .key
    | routeMapperPath => exact .alternative
    | servicePath => exact .alternative
    | serviceImplPath => exact .key
    | addToService => exact .alternative
  · have moved : (oddMembers.take 1 ++ oddMembers.drop 1).Perm _ := List.perm_append_comm
    exact moved.trans (.cons _ (.cons _ (.swap _ _ _)))

theorem stringText_odd :
    StringText "\"/é" (Utf8.encode "\"\\\"\\/é\"") ∧
      StringText "😀\n" (Utf8.encode "\"\\ud83D\\uDE00\\u000a\"") := by
  have first : CharsText ['"', '/', 'é'] _ :=
    .cons (.letter (e := '"') (by decide)) (.cons (.letter (e := '/') (by decide))
      (.cons (.plain (by decide) (by decide) (by decide)) .nil))
  have high : FourDigits (0xD800 + 0x3D) (ascii "d83D") :=
    .mk (i := 13) (j := 8) (k := 3) (l := 13) (.inl rfl) (.inl rfl) (.inl rfl) (.inr rfl)
  have low : FourDigits (0xDC00 + 0x200) (ascii "DE00") :=
    .mk (i := 13) (j := 14) (k := 0) (l := 0) (.inr rfl) (.inr rfl) (.inl rfl) (.inl rfl)
  have lineBreak : FourDigits '\n'.toNat (ascii "000a") :=
    .mk (i := 0) (j := 0) (k := 0) (l := 10) (.inl rfl) (.inl rfl) (.inl rfl) (.inl rfl)
  have second : CharsText ['😀', '\n'] _ :=
    .cons (.pair (by decide) (by decide) (by decide) high low) (.cons (.number lineBreak) .nil)
  exact ⟨.mk (s := "\"/é") first, .mk (s := "😀\n") second⟩

theorem document_odd : Document Json.Reader.maxDigits (.object oddMembers) oddText := by
  obtain ⟨first, second⟩ := stringText_odd
  have space : Blanks (ascii " ") := Json.blanks_of_all rfl
  have lineBreak : Blanks (ascii "\n") := Json.blanks_of_all rfl
  have flag : TextTo Json.Reader.maxDigits 0 (.bool true) _ := .true
  have path (s : String) (plain : s.toList.all Json.isUnescaped = true) :
      TextTo Json.Reader.maxDigits 0 (.string s) _ :=
    .string (stringText_encode s plain)
  have escaped {s : String} {t : Bytes} (text : StringText s t) :
      TextTo Json.Reader.maxDigits 0 (.string s) t :=
    .string text
  have document := document_of_flat blanks_nil
    (.cons blanks_nil
      (.mk (stringText_encode "add_to_service" rfl) space blanks_nil flag)
      blanks_nil
      (.cons blanks_nil
        (memberText_encode "routesPath" rfl (escaped first)) blanks_nil
        (.cons blanks_nil
          (memberText_encode "route_mapper_path" rfl (escaped second))
          blanks_nil
          (.cons blanks_nil
            (memberText_encode "serviceImplPath" rfl (path "i" rfl))
            blanks_nil
            (.one blanks_nil
              (memberText_encode "service_path" rfl (path "s" rfl))
              blanks_nil)))))
    lineBreak
  refine Eq.subst ?_ document
  decide +kernel

/-- Escapes, blanks and another order of the fields make no difference. -/
theorem read_rendering_odd :
    odd.Usable ∧ Rendering odd oddMembers ∧
      Document Json.Reader.maxDigits (.object oddMembers) oddText ∧
      Config.read oddText = .ok odd := by
  have usable : odd.Usable := fun _ => ⟨"s", "i", rfl, rfl, by decide, by decide⟩
  exact ⟨usable, rendering_odd, document_odd, read_rendering usable rendering_odd document_odd⟩

end RouteGraft.Config
