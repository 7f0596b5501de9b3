import RouteGraft.Insertion
import RouteGraft.Proofs.Characters
import RouteGraft.Proofs.Gaps

/-!
# Where insertions land

An insertion goes by the outline that was read off the syntax tree of its source.
If that tree is well nested, the place of the insertion is always inside of the
source, so that a splice is never refused, and it is a gap of the tree: no token
and no comment is cut in two.  It also is in the construct the insertion is meant
for (`Insertion.Lands`).

A source of characters stays one, since the ends of its nodes are between
characters, and the place of an insertion is such an end.
-/

namespace RouteGraft

open Dart (Node)

/-! ## What an insertion is meant for -/

/-- An offset in the construct that an insertion is meant for.  The class of a
route goes right behind the matched class and into no other declaration, a member
goes into the matched class, and an entry of a mapper or its section into the list
of routers of the matched class. -/
def Insertion.Lands (names : Names) (root : Node) (o : Outline) (k : Int) : Insertion → Prop
  | routeClass _ baseClass =>
      ∃ c, o.anchor? (.extendsText baseClass) = some c ∧ k = c.span.stop ∧
        ∀ n ∈ root.children, ¬ n.span.Splits k
  | member _ test => InClass test
  | serviceMethod _ => InClass (.implementsAny names.serviceInterfaces)
  | serviceImplMethod _ => InClass (.extendsOneOf names.serviceImplClasses)
  | mapperEntry _ _ _ =>
      ∃ c routers, o.anchor? (.extendsText names.routeMapperName) = some c ∧
        c.returnedList? names.routersMethod = some routers ∧
        routers.span.start ≤ k ∧ k ≤ routers.span.stop
where
  /-- An offset in the class that passes a test. -/
  InClass (test : ClassTest) : Prop :=
    ∃ c, o.anchor? test = some c ∧ c.span.start ≤ k ∧ k ≤ c.span.stop

/-! ## Places in lists -/

/-- What is put at the end of a list goes to an offset of that list. -/
theorem ListLiteral.append_offset (l : ListLiteral) (fragment : String) :
    l.Offset (l.append fragment).1 := by
  unfold append
  split
  · exact .bracket
  · next last isLast =>
      split
      · exact .bracket
      · exact .element (List.mem_of_getLast? isLast)

/-- The offsets of a well-nested list lie inside of it. -/
theorem ListLiteral.WellNested.offset_inside {l : ListLiteral} {k : Int} (h : l.WellNested)
    (hk : l.Offset k) : l.span.start ≤ k ∧ k ≤ l.span.stop := by
  induction hk with
  | bracket =>
      cases h with
      | mk nested _ => exact ⟨nested.start_le_bracket, nested.bracket_le_stop⟩
  | element he =>
      cases h with
      | mk nested _ =>
          have inside := nested.inside _ he
          have bracket := nested.bracket_le_stop
          unfold Span.Inside at inside
          dsimp only at inside
          omega
  | inner he ha value _ ih =>
      cases h with
      | mk nested inner =>
          obtain ⟨start, stop⟩ := ih (inner _ he _ ha _ value)
          have inElement := nested.inside _ he
          have inArgument := (nested.elements _ he).inside _ ha
          have inValue := (nested.elements _ he).value_inside _ ha _ value
          have bracket := nested.bracket_le_stop
          unfold Span.Inside at *
          dsimp only at *
          omega

theorem ClassOutline.returnedList?_mem {c : ClassOutline} {name : String} {l : ListLiteral}
    (h : c.returnedList? name = some l) : l ∈ c.returnedLists := by
  unfold returnedList? member? at h
  split at h
  · next m found =>
      split at h
      · exact List.mem_filterMap.2 ⟨m, List.mem_of_find?_eq_some found, h⟩
      · cases h
  · cases h

/-! ## Places of plans -/

/-- The routes of a mapper are a list in an argument of a call among the routers. -/
theorem routesOf?_eq_some {names : Names} {typeName callee : String} {e : ListElement}
    {v : ListLiteral} (h : routesOf? names typeName e = some (callee, v)) :
    e.callee = some callee ∧ Text.startsWith typeName callee = true ∧
      ∃ a ∈ e.namedArguments, a.name = names.routesArgument ∧ a.value = some v := by
  unfold routesOf? at h
  split at h
  · cases h
  · next name called =>
      split at h
      · next starts =>
          obtain ⟨v, found, eq⟩ := Option.map_eq_some_iff.1 h
          cases eq
          obtain ⟨a, ha, value⟩ := List.exists_of_findSome?_eq_some found
          split at value
          · next isRoutes => exact ⟨called, starts, a, ha, isRoutes, value⟩
          · cases value
      · cases h

/-- A planned entry goes to the routers of the matched class, at one of the
offsets of that list. -/
theorem Insertion.planMapperEntry_offset {names : Names} {addition entry typeName path : String}
    {o : Outline} {edit : Edit}
    (h : planMapperEntry names addition entry typeName path o = .ok edit) :
    ∃ c routers, o.anchor? (.extendsText names.routeMapperName) = some c ∧
      c.returnedList? names.routersMethod = some routers ∧ routers.Offset edit.offset := by
  unfold planMapperEntry at h
  split at h
  · cases h
  · next c anchor =>
      split at h
      · cases h
      · next routers returned =>
          refine ⟨c, routers, anchor, returned, ?_⟩
          split at h
          · next callee routes found =>
              cases h
              obtain ⟨e, he, isRoutes⟩ := List.exists_of_findSome?_eq_some found
              obtain ⟨-, -, a, ha, -, value⟩ := routesOf?_eq_some isRoutes
              exact .inner he ha value (routes.append_offset entry)
          · cases h
            exact routers.append_offset addition

/-- A planned member goes right in front of the closing brace of the matched
class. -/
theorem Insertion.planMember_offset {fragment path : String} {test : ClassTest} {o : Outline}
    {edit : Edit} (h : planMember fragment test path o = .ok edit) :
    ∃ c, o.anchor? test = some c ∧ edit.offset = c.closingBrace := by
  unfold planMember at h
  split at h
  · cases h
  · next c anchor =>
      cases h
      exact ⟨c, anchor, rfl⟩

namespace Outline

variable {source : Bytes} {root : Node} {o : Outline}

/-- A class of an outline was read from a declaration of the source. -/
theorem class_node (read : ofTree source root = .ok o) {c : ClassOutline} (hc : c ∈ o.classes) :
    ∃ n ∈ root.children, isClass n.kind = true ∧ classOutline? source n = .ok (some c) := by
  obtain ⟨kept, sub, related⟩ := ofTree_eq_ok read
  obtain ⟨n, hn, read⟩ := exists_left_of_mem related hc
  obtain ⟨isChild, isDeclaration⟩ := List.mem_filter.1 (sub.subset hn)
  simp only [Bool.and_eq_true] at isDeclaration
  exact ⟨n, isChild, isDeclaration.2, read⟩

/-- The place of a member is a gap in its class. -/
theorem planMember_lands {fragment path : String} {test : ClassTest} {edit : Edit}
    (nested : root.Nested) (read : ofTree source root = .ok o)
    (planned : Insertion.planMember fragment test path o = .ok edit) :
    root.Gap edit.offset ∧
      ∃ c, o.anchor? test = some c ∧ c.span.start ≤ edit.offset ∧ edit.offset ≤ c.span.stop := by
  obtain ⟨c, anchor, offset⟩ := Insertion.planMember_offset planned
  obtain ⟨n, hn, isClass, read⟩ := class_node read (anchor?_passes anchor).1
  have wellNested := (classOutline?_wellNested (nested.child n hn) read).2
  rw [offset]
  exact ⟨closingBrace_gap hn isClass read, c, anchor, wellNested.start_le_brace,
    wellNested.brace_le_stop⟩

/-- The end of a class lies in no declaration. -/
theorem classEnd_not_splits (nested : root.Nested) {n : Node} (hn : n ∈ root.children) :
    ∀ m ∈ root.children, ¬ m.span.Splits n.span.stop := by
  rintro m hm ⟨start, stop⟩
  by_cases same : m = n
  · subst same
    omega
  · have mWide := (nested.child m hm).start_le_stop
    have nWide := (nested.child n hn).start_le_stop
    rcases nested.before_or_before hm hn same with apart | apart
    · unfold Span.Before at apart
      omega
    · unfold Span.Before at apart
      omega

/-- The place of a planned edit is a gap of the tree in the construct that the
insertion is meant for. -/
theorem plan_lands {names : Names} {path : String} {i : Insertion} {edit : Edit}
    (nested : root.Nested) (read : ofTree source root = .ok o)
    (planned : i.plan names path o = .ok edit) :
    root.Gap edit.offset ∧ i.Lands names root o edit.offset := by
  cases i with
  | routeClass fragment baseClass =>
      simp only [Insertion.plan, Insertion.planRouteClass] at planned
      split at planned
      · cases planned
      · next c anchor =>
          cases planned
          obtain ⟨n, hn, -, read⟩ := class_node read (anchor?_passes anchor).1
          have span := (classOutline?_wellNested (nested.child n hn) read).1
          refine ⟨classEnd_gap hn read, c, anchor, rfl, ?_⟩
          rw [span]
          exact classEnd_not_splits nested hn
  | member fragment test => exact planMember_lands nested read planned
  | serviceMethod fragment => exact planMember_lands nested read planned
  | serviceImplMethod fragment => exact planMember_lands nested read planned
  | mapperEntry addition entry typeName =>
      obtain ⟨c, routers, anchor, returned, offset⟩ := Insertion.planMapperEntry_offset planned
      obtain ⟨n, hn, isClass, read⟩ := class_node read (anchor?_passes anchor).1
      have wellNested := (classOutline?_wellNested (nested.child n hn) read).2
      have isReturned := ClassOutline.returnedList?_mem returned
      refine ⟨returnedList_gap hn isClass read isReturned offset, c, routers, anchor, returned, ?_⟩
      exact (wellNested.lists routers isReturned).offset_inside offset

end Outline

/-! ## Sources of characters -/

/-- The ends of all nodes of a tree are between characters of a source. -/
def BetweenCharacters (source : Bytes) (root : Node) : Prop :=
  ∀ n ∈ root.nodes,
    Utf8.IsBoundary source n.span.start.toNat ∧ Utf8.IsBoundary source n.span.stop.toNat

theorem BetweenCharacters.gap {source : Bytes} {root : Node} {k : Int}
    (h : BetweenCharacters source root) (gap : root.Gap k) :
    Utf8.IsBoundary source k.toNat := by
  obtain ⟨m, hm, rfl | rfl⟩ := gap.exists_end
  · exact (h m hm).1
  · exact (h m hm).2

/-- With a well-nested tree of the source, no insertion is refused for its place.
What is put in cuts no token and no comment, lands in the construct it is meant
for, and leaves a source of characters one. -/
theorem insert_lands {root : Node} {content : Bytes} (tree : root.WellNested content.length)
    (names : Names) (path : String) (i : Insertion) :
    (∀ e, (insert (fun source => Outline.ofTree source root) names path i content).2
      ≠ .error (.outside e)) ∧
    ∀ result,
      (insert (fun source => Outline.ofTree source root) names path i content).2 = .ok result →
        ∃ o edit, Outline.ofTree content root = .ok o ∧ i.plan names path o = .ok edit ∧
          edit.apply content = .ok result ∧
          (∀ m ∈ root.nodes, m.isSolid = true → ¬ m.span.Splits edit.offset) ∧
          i.Lands names root o edit.offset ∧
          ((∃ s, Utf8.decode content = .ok s) → BetweenCharacters content root →
            ∃ s, Utf8.decode result = .ok s) := by
  refine ⟨fun e refused => ?_, fun result done => ?_⟩
  · obtain ⟨o, edit, read, planned, refused⟩ := insert_eq_outside.1 refused
    obtain ⟨gap, -⟩ := Outline.plan_lands tree.nested read planned
    obtain ⟨start, stop⟩ := gap.inside tree.nested
    have inside := tree.inside
    unfold Span.Inside at inside
    dsimp only at inside
    rw [Edit.apply, splice, if_pos (by omega)] at refused
    cases refused
  · obtain ⟨o, edit, read, planned, applied⟩ := insert_eq_ok.1 done
    obtain ⟨gap, lands⟩ := Outline.plan_lands tree.nested read planned
    refine ⟨o, edit, read, planned, applied, gap.not_splits tree.nested, lands, ?_⟩
    rintro ⟨s, decoded⟩ between
    obtain ⟨-, -, rfl⟩ := splice_ok applied
    exact Utf8.decode_splice decoded (between.gap gap)

/-- A section that is put behind the last element of a list without a comma. -/
theorem insert_lands_behind_element :
    Outline.innerListTree.WellNested (mapperSource "[A(b:[C()])]").length ∧
      ∃ o edit, Outline.ofTree (mapperSource "[A(b:[C()])]") Outline.innerListTree = .ok o ∧
        Insertion.plan {} "" o (.mapperEntry "P()," "Q()," "P") = .ok edit ∧
        edit.apply (mapperSource "[A(b:[C()])]") = .ok (mapperSource "[A(b:[C()]), P(),]") ∧
        Insertion.Lands {} Outline.innerListTree o edit.offset (.mapperEntry "P()," "Q()," "P") ∧
        ∃ s, Utf8.decode (mapperSource "[A(b:[C()]), P(),]") = .ok s := by
  have tree : Outline.innerListTree.WellNested (mapperSource "[A(b:[C()])]").length :=
    Node.wellNested_of_isWellNested (by decide)
  have between : BetweenCharacters (mapperSource "[A(b:[C()])]") Outline.innerListTree := by
    unfold BetweenCharacters Utf8.IsBoundary
    decide +kernel
  obtain ⟨o, edit, read, planned, applied, -, lands, characters⟩ :=
    (insert_lands tree {} "" (.mapperEntry "P()," "Q()," "P")).2 _ rfl
  exact ⟨tree, o, edit, read, planned, applied, lands, characters ⟨_, Utf8.decode_encode _⟩ between⟩

end RouteGraft
