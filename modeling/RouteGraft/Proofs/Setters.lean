import RouteGraft.Proofs.MapperOutcomes

/-!
# Setters

A getter and a setter may share a name, and either may stand in front of the other one.  The
routers of a mapper are a method or a getter, but members are looked up by their name alone,
and the first one counts.  So it matters where the setters stand.

A setter that stands behind the method or getter of its name makes no difference, and the
entry of a mapper goes where it would go without it.  A setter in front of it is taken for it
(`setters_count_in_front`).  As its body is hardly ever a list, the routers are not found then;
and if it is one, the entry goes into the setter.
-/

namespace RouteGraft

/-! ## Lists of members -/

/-- What is first stays first when others are left out. -/
theorem FirstOf.filter {α : Type} {P : α → Prop} {xs : List α} {x : α} (h : FirstOf P xs x)
    {kept : α → Bool} (isKept : kept x = true) : FirstOf P (xs.filter kept) x := by
  obtain ⟨front, back, shape, holds, others⟩ := h
  refine ⟨front.filter kept, back.filter kept, ?_, holds, fun y hy => ?_⟩
  · rw [shape, List.filter_append, List.filter_cons_of_pos isKept]
  · exact others y (List.mem_of_mem_filter hy)

/-- The list that a member returns, if its body is an expression. -/
def Member.list? (m : Member) : Option ListLiteral :=
  if m.bodyKind = some .expression then m.returnedList else none

namespace ClassOutline

variable {c : ClassOutline} {name : String}

/-- The members of a name that are no setters. -/
def nonSetters (name : String) (c : ClassOutline) : List Member :=
  c.members.filter fun m => m.name = name ∧ m.kind ≠ .setter

/-- The first member of a name is a setter. -/
def SetterFirst (name : String) (c : ClassOutline) : Prop :=
  ∃ s, FirstOf (fun m : Member => m.name = name) c.members s ∧ s.kind = .setter

/-- A class without its setters. -/
def withoutSetters (c : ClassOutline) : ClassOutline :=
  { c with members := c.members.filter fun m => m.kind ≠ .setter }

/-- The list that is found under a name is that of the first member. -/
theorem returnedList?_of_first {m : Member}
    (first : FirstOf (fun m : Member => m.name = name) c.members m) :
    c.returnedList? name = m.list? := by
  rw [returnedList?, member?_eq_some.2 first]
  rfl

/-- Without setters the member of a name is the first one that is none. -/
theorem member?_withoutSetters : c.withoutSetters.member? name = (c.nonSetters name).head? := by
  rw [member?, withoutSetters, nonSetters, ← List.head?_filter, List.filter_filter]
  simp only [Bool.decide_and]

/-- If a setter is not the first one of its name, the setters do not matter. -/
theorem member?_eq_withoutSetters (behind : ¬ c.SetterFirst name) :
    c.member? name = c.withoutSetters.member? name := by
  cases found : c.member? name with
  | none =>
      have others := List.find?_eq_none.1 found
      refine (List.find?_eq_none.2 fun m hm => others m ?_).symm
      exact List.mem_of_mem_filter (show m ∈ c.members.filter _ from hm)
  | some m =>
      have first := member?_eq_some.1 found
      have isKept : m.kind ≠ .setter := fun setter => behind ⟨m, first, setter⟩
      exact (member?_eq_some.2 (first.filter (decide_eq_true isKept))).symm

theorem returnedList?_eq_withoutSetters (behind : ¬ c.SetterFirst name) :
    c.returnedList? name = c.withoutSetters.returnedList? name := by
  rw [returnedList?, returnedList?, member?_eq_withoutSetters behind]

/-- If a setter is not the first one of its name, the list is that of the method or getter. -/
theorem returnedList?_of_behind (behind : ¬ c.SetterFirst name) :
    c.returnedList? name = (c.nonSetters name).head?.bind Member.list? := by
  rw [returnedList?, member?_eq_withoutSetters behind, member?_withoutSetters]
  cases (c.nonSetters name).head? <;> rfl

end ClassOutline

/-! ## Entries of mappers -/

namespace Outline

/-- An outline without the setters of its classes. -/
def withoutSetters (o : Outline) : Outline := ⟨o.classes.map ClassOutline.withoutSetters⟩

/-- The mapper of an outline has a setter in front of its routers. -/
def SetterFirst (names : Names) (o : Outline) : Prop :=
  ∃ c, LastOf (ClassOutline.IsMapper names) o.classes c ∧ c.SetterFirst names.routersMethod

theorem anchor?_withoutSetters (o : Outline) (text : String) :
    o.withoutSetters.anchor? (.extendsText text)
      = (o.anchor? (.extendsText text)).map ClassOutline.withoutSetters := by
  rw [anchor?, withoutSetters, List.filter_map, List.getLast?_map]
  rfl

end Outline

namespace Insertion

/-- The place of an entry is that of the outline without setters. -/
theorem planMapperEntry_withoutSetters {names : Names} {o : Outline}
    (behind : ¬ o.SetterFirst names) (addition entry typeName path : String) :
    planMapperEntry names addition entry typeName path o
      = planMapperEntry names addition entry typeName path o.withoutSetters := by
  unfold planMapperEntry
  rw [Outline.anchor?_withoutSetters]
  cases anchor : o.anchor? (.extendsText names.routeMapperName) with
  | none => rfl
  | some c =>
      have last := Outline.lastMapper_iff.2 anchor
      dsimp only [Option.map_some]
      rw [← ClassOutline.returnedList?_eq_withoutSetters fun first => behind ⟨c, last, first⟩]

/-- Setters count in front of the method or getter of their name, and nowhere else.  If the
first member of a name is no setter, the list that is found is that of the only method or
getter of the name, if its body is an expression, and none if there is no such member; and an
entry of a mapper has the same result, be it an error or not, whatever setters there are.  If
it is a setter, the list that is found is that of the setter. -/
theorem setters_count_in_front (names : Names) :
    (∀ (c : ClassOutline) name, ¬ c.SetterFirst name →
      (∀ m, c.nonSetters name = [m] → c.returnedList? name = m.list?) ∧
        (c.nonSetters name = [] → c.returnedList? name = none)) ∧
    (∀ (c : ClassOutline) name, c.SetterFirst name →
      ∃ s, FirstOf (fun m : Member => m.name = name) c.members s ∧ s.kind = .setter ∧
        c.returnedList? name = s.list?) ∧
    ∀ (o o' : Outline) (outliner outliner' : Outliner) content,
      outliner content = .ok o → outliner' content = .ok o' →
      ¬ o.SetterFirst names → ¬ o'.SetterFirst names → o.withoutSetters = o'.withoutSetters →
      ∀ addition entry typeName path,
        insert outliner names path (.mapperEntry addition entry typeName) content
          = insert outliner' names path (.mapperEntry addition entry typeName) content := by
  refine ⟨fun c name behind => ?behind, fun c name inFront => ?inFront, ?entry⟩
  case behind =>
    have found := ClassOutline.returnedList?_of_behind behind
    refine ⟨fun m only => ?_, fun none_ => ?_⟩
    · rw [found, only]
      rfl
    · rw [found, none_]
      rfl
  case inFront =>
    obtain ⟨s, first, isSetter⟩ := inFront
    exact ⟨s, first, isSetter, ClassOutline.returnedList?_of_first first⟩
  case entry =>
    intro o o' outliner outliner' content read read' behind behind' same addition entry typeName
      path
    have planned : plan names path o (.mapperEntry addition entry typeName)
        = plan names path o' (.mapperEntry addition entry typeName) := by
      rw [plan, plan, planMapperEntry_withoutSetters behind, planMapperEntry_withoutSetters behind',
        same]
    simp only [insert, read, read', planned]

/-! ## A getter and a setter -/

/-- A getter of routers, which are an empty list. -/
def routersGetter : Member :=
  ⟨"routers", .getter, some .expression, some "list_literal", some ⟨⟨4, 6⟩, 5, [], false⟩⟩

/-- A setter of routers, with a body that is no list. -/
def routersSetter : Member :=
  ⟨"routers", .setter, some .expression, some "assignment_expression", none⟩

/-- A setter of routers, with a body that is a list. -/
def listSetter : Member :=
  ⟨"routers", .setter, some .expression, some "list_literal", some ⟨⟨1, 3⟩, 2, [], false⟩⟩

/-- A mapper with some members. -/
def mapperOf (members : List Member) : ClassOutline :=
  ⟨"M", ⟨0, 10⟩, some "MadRouteMapper", some "MadRouteMapper", [], 9, members⟩

/-- A setter behind the getter makes no difference. -/
theorem setters_count_in_front_behind :
    (mapperOf [routersGetter, routersSetter]).returnedList? "routers" = routersGetter.list? ∧
      ∀ path, insert (fun _ => .ok ⟨[mapperOf [routersGetter, routersSetter]]⟩) {} path
          (.mapperEntry "S," "E," "Page") (Utf8.encode "0123456789")
        = insert (fun _ => .ok ⟨[mapperOf [routersGetter]]⟩) {} path
          (.mapperEntry "S," "E," "Page") (Utf8.encode "0123456789") := by
  have behind {members : List Member} :
      ¬ (mapperOf (routersGetter :: members)).SetterFirst "routers" := by
    rintro ⟨s, first, isSetter⟩
    have found := ClassOutline.member?_eq_some.2 first
    cases found
    cases isSetter
  have noSetterFirst {members : List Member} :
      ¬ Outline.SetterFirst {} ⟨[mapperOf (routersGetter :: members)]⟩ := by
    rintro ⟨c, last, first⟩
    cases Outline.lastMapper_iff.1 last
    exact behind first
  obtain ⟨found, -, entry⟩ := setters_count_in_front {}
  refine ⟨(found _ "routers" behind).1 routersGetter rfl, fun path => ?_⟩
  exact entry ⟨[mapperOf [routersGetter, routersSetter]]⟩ ⟨[mapperOf [routersGetter]]⟩ _ _ _ rfl rfl
    noSetterFirst noSetterFirst rfl "S," "E," "Page" path

/-- A setter in front of the only getter of its name is taken for it: the list of the getter is
not found and the entry is refused.  And where there is only a setter, its body is found if it
is a list, and the section goes there. -/
theorem setter_hides_getter :
    let hidden := mapperOf [routersSetter, routersGetter]
    let alone := mapperOf [listSetter]
    hidden.nonSetters "routers" = [routersGetter] ∧ routersGetter.list?.isSome = true ∧
      hidden.returnedList? "routers" = none ∧
      (insert (fun _ => .ok ⟨[hidden]⟩) {} "m" (.mapperEntry "S," "E," "Page")
        (Utf8.encode "0123456789")).2 = .error (.noPlace .routers "m") ∧
      alone.nonSetters "routers" = [] ∧ (alone.returnedList? "routers").isSome = true ∧
      (insert (fun _ => .ok ⟨[alone]⟩) {} "m" (.mapperEntry "S," "E," "Page")
        (Utf8.encode "0123456789")).2 = .ok (Utf8.encode "01S,\n23456789") :=
  ⟨rfl, rfl, rfl, rfl, rfl, rfl, rfl⟩

end Insertion

end RouteGraft
