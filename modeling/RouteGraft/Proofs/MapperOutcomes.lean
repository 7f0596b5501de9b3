import RouteGraft.Proofs.Declarations
import RouteGraft.Proofs.Routers

/-!
# What becomes of an entry of a mapper

An entry goes by the outline of its source, whoever drew it up.  The mapper is the last
class that extends a type with the name of the base class of mappers in it, and its routers
are what the first member of their name returns (`ClassOutline.Routers`).  Its *target* is
found among all named arguments of all routers, in order: the first one that is a list of
routes of the kind gets the entry, and without one the routers get the section
(`Insertion.Target`).

This is all that can happen (`Insertion.MapperOutcome`): there is no mapper, it has no
routers, or the text is put in at the end of the target (`mapperEntry_outcomes`).
-/

namespace RouteGraft

/-! ## First and last -/

/-- `x` is the first element with a property. -/
def FirstOf {α : Type} (P : α → Prop) (xs : List α) (x : α) : Prop :=
  ∃ front back, xs = front ++ x :: back ∧ P x ∧ ∀ y ∈ front, ¬ P y

/-- `x` is the last element with a property. -/
def LastOf {α : Type} (P : α → Prop) (xs : List α) (x : α) : Prop :=
  ∃ front back, xs = front ++ x :: back ∧ P x ∧ ∀ y ∈ back, ¬ P y

/-- Either no element has a property, or there is a last one. -/
theorem exists_lastOf {α : Type} (P : α → Prop) (xs : List α) :
    (∀ x ∈ xs, ¬ P x) ∨ ∃ x, LastOf P xs x := by
  induction xs with
  | nil => exact .inl nofun
  | cons x xs ih =>
      rcases ih with none_ | ⟨y, front, back, shape, holds, others⟩
      · by_cases holds : P x
        · exact .inr ⟨x, [], xs, rfl, holds, none_⟩
        · exact .inl (List.forall_mem_cons.2 ⟨holds, none_⟩)
      · exact .inr ⟨y, x :: front, back, by rw [shape, List.cons_append], holds, others⟩

/-- The last class with a property is the anchor for every test of that property. -/
theorem Outline.lastOf_iff {o : Outline} {P : ClassOutline → Prop} {test : ClassTest}
    {c : ClassOutline} (tests : ∀ c, test c = true ↔ P c) :
    LastOf P o.classes c ↔ o.anchor? test = some c := by
  simp only [LastOf, anchor?_eq_some, ← tests, Bool.not_eq_true]

theorem Outline.noneOf_iff {o : Outline} {P : ClassOutline → Prop} {test : ClassTest}
    (tests : ∀ c, test c = true ↔ P c) :
    (∀ c ∈ o.classes, ¬ P c) ↔ o.anchor? test = none := by
  simp only [anchor?_eq_none, ← tests, Bool.not_eq_true]

/-! ## Mappers and their routers -/

theorem ClassTest.extendsText_iff {text : String} {c : ClassOutline} :
    ClassTest.extendsText text c = true ↔
      ∃ written, c.superclass = some written ∧ text.toList <:+: written.toList := by
  unfold ClassTest.extendsText Text.isPart
  cases c.superclass <;> simp [Text.occurs_iff]

namespace ClassOutline

variable {names : Names} {c : ClassOutline} {l : ListLiteral}

/-- A class that extends a type with the name of the base class of mappers in it. -/
def IsMapper (names : Names) (c : ClassOutline) : Prop :=
  ∃ written, c.superclass = some written ∧
    names.routeMapperName.toList <:+: written.toList

/-- The first member that is called after the routers is a list behind an arrow. -/
def Routers (names : Names) (c : ClassOutline) (l : ListLiteral) : Prop :=
  ∃ m, FirstOf (fun m : Member => m.name = names.routersMethod) c.members m ∧
    m.bodyKind = some .expression ∧ m.returnedList = some l

theorem isMapper_iff :
    c.IsMapper names ↔ ClassTest.extendsText names.routeMapperName c = true :=
  ClassTest.extendsText_iff.symm

/-- The member of a name is the first one that is called so. -/
theorem member?_eq_some {name : String} {m : Member} :
    c.member? name = some m ↔ FirstOf (fun m : Member => m.name = name) c.members m := by
  simp only [member?, FirstOf, List.find?_eq_some_iff_append, decide_eq_true_eq,
    Bool.not_eq_true', decide_eq_false_iff_not]
  constructor
  · rintro ⟨called, front, back, shape, others⟩
    exact ⟨front, back, shape, called, others⟩
  · rintro ⟨front, back, shape, called, others⟩
    exact ⟨called, front, back, shape, others⟩

theorem routers_iff : c.Routers names l ↔ c.returnedList? names.routersMethod = some l := by
  unfold Routers returnedList?
  cases found : c.member? names.routersMethod with
  | none => simp [← member?_eq_some, found]
  | some m =>
      simp only [← member?_eq_some, found, Option.some.injEq, exists_eq_left']
      split
      · next arrow => simp [arrow]
      · next other => simp [other]

end ClassOutline

/-- The last mapper is the anchor of an entry. -/
theorem Outline.lastMapper_iff {o : Outline} {names : Names} {c : ClassOutline} :
    LastOf (ClassOutline.IsMapper names) o.classes c ↔
      o.anchor? (.extendsText names.routeMapperName) = some c :=
  lastOf_iff fun _ => ClassOutline.isMapper_iff.symm

/-- Without a mapper there is no anchor. -/
theorem Outline.noMapper_iff {o : Outline} {names : Names} :
    (∀ c ∈ o.classes, ¬ c.IsMapper names) ↔
      o.anchor? (.extendsText names.routeMapperName) = none :=
  noneOf_iff fun _ => ClassOutline.isMapper_iff.symm

/-! ## Targets -/

/-- The named arguments of the elements of a list, each with its element. -/
def ListLiteral.arguments (l : ListLiteral) : List (ListElement × NamedArgument) :=
  l.elements.flatMap fun e => e.namedArguments.map (e, ·)

namespace Insertion

variable {names : Names} {typeName : String}

/-- An argument that is a list of routes of a kind. -/
def HoldsRoutes (names : Names) (typeName : String) (p : ListElement × NamedArgument) : Prop :=
  (∃ callee, p.1.callee = some callee ∧ typeName.toList <+: callee.toList) ∧
    p.2.name = names.routesArgument ∧ ∃ routes, p.2.value = some routes

/-- The list that something is put into, and what is put there. -/
inductive Target (names : Names) (typeName addition entry : String) (routers : ListLiteral) :
    ListLiteral → String → Prop
  /-- The entry goes to the first list of routes of its kind. -/
  | routes {e : ListElement} {a : NamedArgument} {routes : ListLiteral} :
      FirstOf (HoldsRoutes names typeName) routers.arguments (e, a) → a.value = some routes →
        Target names typeName addition entry routers routes entry
  /-- Without one the section goes to the routers. -/
  | routers :
      (∀ p ∈ routers.arguments, ¬ HoldsRoutes names typeName p) →
        Target names typeName addition entry routers routers addition

/-- Where a fragment goes in a list, and its text. -/
inductive End (l : ListLiteral) (fragment : String) : Int → String → Prop
  | behindElement {front : List ListElement} {last : ListElement} :
      l.elements = front ++ [last] → l.hasTrailingComma = false →
        End l fragment last.span.stop (", " ++ fragment)
  | atBracket :
      l.elements = [] ∨ l.hasTrailingComma = true →
        End l fragment l.rightBracket (fragment ++ "\n")

/-- A content with a text put in at an offset, which has to be inside of it. -/
def putAt (content : Bytes) (k : Int) (text : String) : Except InsertionError Bytes :=
  if 0 ≤ k ∧ k ≤ content.length then
    .ok (content.take k.toNat ++ Utf8.encode text ++ content.drop k.toNat)
  else .error (.outside ⟨k, content.length⟩)

/-- What can become of an entry in the source at `path`. -/
inductive MapperOutcome (names : Names) (typeName addition entry path : String)
    (content : Bytes) (o : Outline) : Except InsertionError Bytes → Prop
  | noMapper :
      (∀ c ∈ o.classes, ¬ c.IsMapper names) →
        MapperOutcome names typeName addition entry path content o
          (.error (.noPlace .mapper path))
  | noRouters {c : ClassOutline} :
      LastOf (ClassOutline.IsMapper names) o.classes c → (∀ l, ¬ c.Routers names l) →
        MapperOutcome names typeName addition entry path content o
          (.error (.noPlace .routers path))
  | put {c : ClassOutline} {routers target : ListLiteral} {fragment text : String} {k : Int} :
      LastOf (ClassOutline.IsMapper names) o.classes c → c.Routers names routers →
        Target names typeName addition entry routers target fragment →
          End target fragment k text →
            MapperOutcome names typeName addition entry path content o (putAt content k text)

/-! ## The search for a target -/

/-- The list of routes in an argument, with the callee. -/
def routesIn? (names : Names) (typeName : String) (p : ListElement × NamedArgument) :
    Option (String × ListLiteral) :=
  p.1.callee.bind fun callee =>
    if Text.startsWith typeName callee then
      (if p.2.name = names.routesArgument then p.2.value else none).map (callee, ·)
    else none

theorem routesIn?_eq_none {p : ListElement × NamedArgument} :
    routesIn? names typeName p = none ↔ ¬ HoldsRoutes names typeName p := by
  unfold routesIn? HoldsRoutes
  cases p.1.callee with
  | none => simp
  | some callee =>
      simp only [Option.bind_some, Text.startsWith, List.isPrefixOf_iff_prefix, Option.some.injEq,
        exists_eq_left']
      cases p.2.value <;> simp +contextual

theorem routesIn?_eq_some {p : ListElement × NamedArgument} {callee : String}
    {routes : ListLiteral} (h : routesIn? names typeName p = some (callee, routes)) :
    HoldsRoutes names typeName p ∧ p.2.value = some routes := by
  constructor
  · rw [← not_not (a := HoldsRoutes names typeName p), ← routesIn?_eq_none, h]
    exact Option.some_ne_none _
  · obtain ⟨called, isCallee, found⟩ := Option.bind_eq_some_iff.1 h
    split at found
    · split at found
      · obtain ⟨value, isValue, eq⟩ := Option.map_eq_some_iff.1 found
        cases eq
        exact isValue
      · cases found
    · cases found

theorem findSome?_flatMap {α β γ : Type} (f : β → Option γ) (g : α → List β) (xs : List α) :
    (xs.flatMap g).findSome? f = xs.findSome? fun x => (g x).findSome? f := by
  induction xs with
  | nil => rfl
  | cons x rest ih =>
      rw [List.flatMap_cons, List.findSome?_append, ih, List.findSome?_cons]
      cases (g x).findSome? f <;> rfl

/-- Looking at the routers one after the other is looking at their arguments. -/
theorem findSome?_routesOf (l : ListLiteral) :
    l.elements.findSome? (routesOf? names typeName)
      = l.arguments.findSome? (routesIn? names typeName) := by
  have each (e : ListElement) : routesOf? names typeName e
      = (e.namedArguments.map (e, ·)).findSome? (routesIn? names typeName) := by
    rw [routesOf?, List.findSome?_map]
    cases called : e.callee with
    | none =>
        refine (List.findSome?_eq_none_iff.2 fun a _ => ?_).symm
        simp [routesIn?, called]
    | some callee =>
        dsimp only
        split
        · next starts =>
            rw [List.map_findSome?]
            congr 1
            funext a
            simp [routesIn?, called, starts]
        · next other =>
            refine (List.findSome?_eq_none_iff.2 fun a _ => ?_).symm
            simp [routesIn?, called, other]
  rw [ListLiteral.arguments, findSome?_flatMap]
  congr 1
  exact funext each

/-- The first list of routes of a kind. -/
theorem firstRoutes_iff {routers : ListLiteral} {routes : ListLiteral} :
    (∃ callee, routers.elements.findSome? (routesOf? names typeName) = some (callee, routes)) ↔
      ∃ e a, FirstOf (HoldsRoutes names typeName) routers.arguments (e, a) ∧
        a.value = some routes := by
  simp only [findSome?_routesOf, List.findSome?_eq_some_iff, routesIn?_eq_none]
  constructor
  · rintro ⟨callee, front, ⟨e, a⟩, back, shape, found, others⟩
    obtain ⟨holds, value⟩ := routesIn?_eq_some found
    exact ⟨e, a, ⟨front, back, shape, holds, others⟩, value⟩
  · rintro ⟨e, a, ⟨front, back, shape, holds, others⟩, value⟩
    cases found : routesIn? names typeName (e, a) with
    | none => exact absurd holds (routesIn?_eq_none.1 found)
    | some pair =>
        obtain ⟨callee, routes'⟩ := pair
        obtain rfl := Option.some.inj (value.symm.trans (routesIn?_eq_some found).2)
        exact ⟨callee, front, (e, a), back, shape, found, others⟩

theorem noRoutes_iff {routers : ListLiteral} :
    routers.elements.findSome? (routesOf? names typeName) = none ↔
      ∀ p ∈ routers.arguments, ¬ HoldsRoutes names typeName p := by
  simp only [findSome?_routesOf, List.findSome?_eq_none_iff, routesIn?_eq_none]

/-! ## The outcomes -/

theorem append_iff {l : ListLiteral} {fragment text : String} {k : Int} :
    l.append fragment = (k, text) ↔ End l fragment k text := by
  constructor
  · intro picked
    unfold ListLiteral.append at picked
    split at picked
    · next none =>
        cases picked
        exact .atBracket (.inl (List.getLast?_eq_none_iff.1 none))
    · next last isLast =>
        obtain ⟨front, shape⟩ := List.getLast?_eq_some_iff.1 isLast
        split at picked
        · next trailing =>
            cases picked
            exact .atBracket (.inr trailing)
        · next open_ =>
            cases picked
            exact .behindElement shape (eq_false_of_ne_true open_)
  · intro spot
    cases spot with
    | behindElement shape open_ =>
        exact ListLiteral.append_behindElement (by simp [shape]) open_ fragment
    | atBracket closed => exact ListLiteral.append_atBracket closed fragment

/-- There is one target in the routers of a mapper. -/
theorem exists_target (names : Names) (typeName addition entry : String) (routers : ListLiteral) :
    ∃ target fragment, Target names typeName addition entry routers target fragment := by
  cases found : routers.elements.findSome? (routesOf? names typeName) with
  | none => exact ⟨_, _, .routers (noRoutes_iff.1 found)⟩
  | some pair =>
      obtain ⟨e, a, first, value⟩ := firstRoutes_iff.1 ⟨pair.1, found⟩
      exact ⟨_, _, .routes first value⟩

/-- What is put in goes to the end of the target. -/
theorem plan_of_target {addition entry path fragment text : String} {o : Outline}
    {c : ClassOutline} {routers target : ListLiteral} {k : Int}
    (last : LastOf (ClassOutline.IsMapper names) o.classes c) (isRouters : c.Routers names routers)
    (isTarget : Target names typeName addition entry routers target fragment)
    (spot : End target fragment k text) :
    ∃ note, planMapperEntry names addition entry typeName path o = .ok ⟨k, text, note⟩ := by
  have picked := append_iff.2 spot
  have h : o.routers? names = some routers :=
    Option.bind_eq_some_iff.2
      ⟨c, Outline.lastMapper_iff.1 last, ClassOutline.routers_iff.1 isRouters⟩
  cases isTarget with
  | routes first value =>
      obtain ⟨callee, found⟩ := firstRoutes_iff.2 ⟨_, _, first, value⟩
      obtain ⟨note, planned⟩ := planMapperEntry_of_routes addition entry path h found
      rw [picked] at planned
      exact ⟨note, planned⟩
  | routers none =>
      obtain ⟨note, planned⟩ := planMapperEntry_of_none addition entry path h (noRoutes_iff.2 none)
      rw [picked] at planned
      exact ⟨note, planned⟩

section Outcomes

variable {outliner : Outliner} {content : Bytes} {o : Outline}
  {addition entry path : String} {r : Except InsertionError Bytes}

theorem putAt_ne_noPlace {k : Int} {text : String} {reason : NoPlace} :
    putAt content k text ≠ .error (.noPlace reason path) := by
  unfold putAt
  split <;> simp

/-- Without a place nothing is put in. -/
theorem insert_of_noPlace {i : Insertion} {reason : NoPlace} (read : outliner content = .ok o)
    (path : String) (planned : i.plan names path o = .error reason) :
    (insert outliner names path i content).2 = .error (.noPlace reason path) := by
  simp only [insert, read, planned]

/-- What is planned is put in. -/
theorem insert_of_edit {i : Insertion} {k : Int} {text note : String}
    (read : outliner content = .ok o) (path : String)
    (planned : i.plan names path o = .ok ⟨k, text, note⟩) :
    (insert outliner names path i content).2 = putAt content k text := by
  simp only [insert, read, planned, Edit.apply, splice, putAt]
  by_cases inside : 0 ≤ k ∧ k ≤ content.length
  · rw [if_pos inside, if_pos inside]
  · rw [if_neg inside, if_neg inside]

/-- Something always becomes of an entry. -/
theorem exists_outcome (names : Names) (typeName addition entry path : String) (content : Bytes)
    (o : Outline) : ∃ r, MapperOutcome names typeName addition entry path content o r := by
  cases anchor : o.anchor? (.extendsText names.routeMapperName) with
  | none => exact ⟨_, .noMapper (Outline.noMapper_iff.2 anchor)⟩
  | some c =>
      have last := Outline.lastMapper_iff.2 anchor
      cases returned : c.returnedList? names.routersMethod with
      | none =>
          refine ⟨_, .noRouters last fun l isRouters => ?_⟩
          rw [ClassOutline.routers_iff, returned] at isRouters
          cases isRouters
      | some routers =>
          obtain ⟨target, fragment, isTarget⟩ := exists_target names typeName addition entry routers
          exact ⟨_, .put last (ClassOutline.routers_iff.2 returned) isTarget (append_iff.1 rfl)⟩

/-- What can become of an entry is what becomes of it. -/
theorem MapperOutcome.result_eq (read : outliner content = .ok o)
    (h : MapperOutcome names typeName addition entry path content o r) :
    (insert outliner names path (.mapperEntry addition entry typeName) content).2 = r := by
  cases h with
  | noMapper missing =>
      refine insert_of_noPlace read path ?_
      rw [plan, planMapperEntry, Outline.noMapper_iff.1 missing]
  | @noRouters c last missing =>
      have returned : c.returnedList? names.routersMethod = none :=
        Option.eq_none_iff_forall_ne_some.2 fun l isRouters =>
          missing l (ClassOutline.routers_iff.2 isRouters)
      refine insert_of_noPlace read path ?_
      rw [plan, planMapperEntry, Outline.lastMapper_iff.1 last]
      dsimp only
      rw [returned]
  | put last isRouters isTarget spot =>
      obtain ⟨note, planned⟩ := plan_of_target last isRouters isTarget spot
      exact insert_of_edit read path planned

/-- What becomes of an entry of a mapper, for every outline of its source.  It is refused for
want of a mapper just if no class is one, and for want of routers just if the last mapper has
none.  And in all cases the result is the one that is said (`MapperOutcome`). -/
theorem mapperEntry_outcomes (read : outliner content = .ok o) (names : Names)
    (typeName addition entry path : String) :
    let result := (insert outliner names path (.mapperEntry addition entry typeName) content).2
    (result = .error (.noPlace .mapper path) ↔ ∀ c ∈ o.classes, ¬ c.IsMapper names) ∧
      (result = .error (.noPlace .routers path) ↔
        ∃ c, LastOf (ClassOutline.IsMapper names) o.classes c ∧ ∀ l, ¬ c.Routers names l) ∧
      ∀ r, result = r ↔ MapperOutcome names typeName addition entry path content o r := by
  have all (r : Except InsertionError Bytes) :
      (insert outliner names path (.mapperEntry addition entry typeName) content).2 = r ↔
        MapperOutcome names typeName addition entry path content o r := by
    refine ⟨fun eq => ?_, MapperOutcome.result_eq read⟩
    obtain ⟨r', outcome⟩ := exists_outcome names typeName addition entry path content o
    rwa [← eq, outcome.result_eq read]
  refine ⟨?_, ?_, all⟩
  · rw [all]
    refine ⟨fun outcome => ?_, .noMapper⟩
    generalize refused : Except.error (InsertionError.noPlace .mapper path) = r at outcome
    cases outcome with
    | noMapper missing => exact missing
    | noRouters => cases refused
    | put => exact absurd refused.symm putAt_ne_noPlace
  · rw [all]
    refine ⟨fun outcome => ?_, fun ⟨c, last, missing⟩ => .noRouters last missing⟩
    generalize refused : Except.error (InsertionError.noPlace .routers path) = r at outcome
    cases outcome with
    | noMapper => cases refused
    | noRouters last missing => exact ⟨_, last, missing⟩
    | put => exact absurd refused.symm putAt_ne_noPlace

end Outcomes

/-- A mapper in front of another one.  The first router of the last mapper has no list of
routes, and the second one has two, behind an argument that is none. -/
def repeatedRoutes : Outline :=
  let list (bracket : Int) : ListLiteral := ⟨⟨0, 10⟩, bracket, [], false⟩
  let argument (value : Option ListLiteral) : NamedArgument := ⟨"routes", ⟨0, 10⟩, value⟩
  let routers : ListLiteral := ⟨⟨0, 10⟩, 9,
    [⟨⟨0, 10⟩, some "PageMapper", [⟨"pages", ⟨0, 10⟩, some (list 3)⟩, argument none]⟩,
      ⟨⟨0, 10⟩, some "PagesMapper", [argument none, argument (some (list 5)),
        argument (some (list 7))]⟩], false⟩
  let mapper (members : List Member) : ClassOutline :=
    ⟨"M", ⟨0, 10⟩, some "MadRouteMapper<X>", some "MadRouteMapper", [], 9, members⟩
  ⟨[mapper [], mapper [⟨"routers", .getter, some .expression, some "list_literal", some routers⟩]]⟩

theorem mapperEntry_outcomes_repeatedRoutes :
    let outliner : Outliner := fun _ => .ok repeatedRoutes
    outliner (Utf8.encode "0123456789") = .ok repeatedRoutes ∧
      (insert outliner {} "" (.mapperEntry "S," "E," "Page") (Utf8.encode "0123456789")).2
        = .ok (Utf8.encode "01234E,\n56789") := by
  intro outliner
  have read : outliner (Utf8.encode "0123456789") = .ok repeatedRoutes := rfl
  refine ⟨read, ?_⟩
  obtain ⟨-, -, outcome⟩ := mapperEntry_outcomes read {} "Page" "S," "E," ""
  refine (outcome _).2 ?_
  have mapper : ClassOutline.IsMapper {} (repeatedRoutes.classes.getLast (by decide)) :=
    ⟨_, rfl, by decide⟩
  refine MapperOutcome.put ⟨[_], [], rfl, mapper, by simp⟩
    ⟨_, ⟨[], [], rfl, rfl, by simp⟩, rfl, rfl⟩
    (.routes ⟨[_, _, _], [_], rfl, ⟨⟨_, rfl, ?_⟩, rfl, _, rfl⟩, ?_⟩ rfl) (.atBracket (.inl rfl))
  · decide
  · simp [HoldsRoutes]

end Insertion

end RouteGraft
