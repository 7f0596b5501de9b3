import Mathlib.Data.List.DropRight
import RouteGraft.Proofs.Appending
import RouteGraft.Proofs.Shapes

/-!
# An element at the end of a list

Between the brackets of a list stand the nodes of its elements, commas, comments and
other punctuation, in any order.  A further element goes to the *end spot* of these
siblings (`Dart.Node.endSpot`).  If there are elements and no comma behind the last of
them, the spot is right behind its last node, in front of all comments, and a comma has to
be put in first.  Otherwise the spot is behind all siblings.

The groups of the new siblings are the old ones and the new element, and a comma is at
their end (`Dart.Node.commaGroups_addElement`).  What `ListLiteral.append` picks is this
spot: its offset is where the nodes in front of the spot end, or where the closing bracket
starts, and its text brings a comma along just if the spot needs one
(`Outline.append_adds_one`).

Both rest on one case analysis, by the last sibling that matters (`endSpot_cases`).
-/

namespace RouteGraft

open Dart (Node Kind)

namespace Dart.Node

variable {siblings element : List Node}

/-! ## The end spot -/

/-- A spot among siblings. -/
structure Spot where
  /-- What is in front of it. -/
  before : List Node
  /-- What is behind it. -/
  behind : List Node
  /-- Whether a comma has to be put there first. -/
  comma : Bool

/-- The spot for a further element. -/
def endSpot (siblings : List Node) : Spot :=
  let cut := commaGroups siblings
  if !cut.groups.isEmpty && !cut.trailing then
    ⟨siblings.rdropWhile (!·.isItem), siblings.rtakeWhile (!·.isItem), true⟩
  else ⟨siblings, [], false⟩

/-- Siblings with a further element at their end spot.  `comma` goes behind the element and
`separator` in front of it, if that is needed. -/
def addElement (siblings element : List Node) (separator comma : Node) : List Node :=
  let spot := endSpot siblings
  spot.before ++ (if spot.comma then [separator] else []) ++ (element ++ [comma]) ++ spot.behind

/-- Behind the last node of an element nothing but that node's own end is kept. -/
theorem cut_behind_item {front gap : List Node} {m : Node} (item : m.isItem = true)
    (skip : ∀ n ∈ gap, n.isItem = false) :
    (front ++ m :: gap).rdropWhile (!·.isItem) = front ++ [m] ∧
      (front ++ m :: gap).rtakeWhile (!·.isItem) = gap := by
  have reversed : (front ++ m :: gap).reverse = gap.reverse ++ m :: front.reverse := by simp
  have passes : ∀ n ∈ gap.reverse, (!n.isItem) = true := by
    intro n hn
    rw [skip n (List.mem_reverse.1 hn), Bool.not_false]
  have stops : ¬ (!m.isItem) = true := by simp [item]
  constructor
  · rw [List.rdropWhile, reversed, List.dropWhile_append_of_pos passes,
      List.dropWhile_cons_of_neg (p := fun n : Node => !n.isItem) stops]
    simp
  · rw [List.rtakeWhile, reversed, List.takeWhile_append_of_pos passes,
      List.takeWhile_cons_of_neg (p := fun n : Node => !n.isItem) stops]
    simp

/-- The end spot is behind all siblings, or behind the node of an element that nothing
that matters follows. -/
theorem endSpot_cases (siblings : List Node) :
    (Closed siblings ∧
        ((commaGroups siblings).groups = [] ∨ (commaGroups siblings).trailing = true) ∧
        endSpot siblings = ⟨siblings, [], false⟩) ∨
      ∃ front m gap, siblings = front ++ m :: gap ∧ m.isItem = true ∧
        (∀ n ∈ gap, n.isMark = false) ∧ endSpot siblings = ⟨front ++ [m], gap, true⟩ := by
  rcases commaGroups_ends siblings with
    ⟨closed, ends⟩ | ⟨front, m, gap, shape, item, skip, some_, open_⟩
  · refine .inl ⟨closed, ends, ?_⟩
    rcases ends with none | trailing
    · simp [endSpot, none]
    · simp [endSpot, trailing]
  · obtain ⟨dropped, taken⟩ :=
      @cut_behind_item front gap m item fun n hn => isItem_of_isMark (skip n hn)
    refine .inr ⟨front, m, gap, shape, item, skip, ?_⟩
    rw [endSpot, List.isEmpty_eq_false_iff.2 some_, open_, shape, dropped, taken]
    rfl

/-- With an element at their end spot, the groups of siblings are the old ones and the
element, and a comma is at the end. -/
theorem commaGroups_addElement (siblings : List Node) {separator comma : Node}
    (nonempty : element ≠ []) (items : ∀ n ∈ element, n.isItem = true)
    (isSeparator : separator.kind = .terminal .comma) (isComma : comma.kind = .terminal .comma) :
    commaGroups (addElement siblings element separator comma)
      = ⟨(commaGroups siblings).groups ++ [element], true⟩ := by
  have all : element.filter isItem = element := List.filter_eq_self.2 items
  have noComma : ∀ n ∈ element, n.kind ≠ .terminal .comma := by
    intro n hn comma
    have item := items n hn
    rw [isItem_of_comma comma] at item
    cases item
  have added {before new : List Node}
      (h : (∃ c', c'.kind = .terminal .comma ∧ new = c' :: (element ++ [comma])) ∨
        Closed before ∧ new = element ++ [comma]) :
      commaGroups (before ++ new) = ⟨(commaGroups before).groups ++ [element], true⟩ := by
    have step := commaGroups_append isComma noComma (all.symm ▸ nonempty) h
    rwa [all] at step
  rcases endSpot_cases siblings with ⟨closed, -, spot⟩ | ⟨front, m, gap, shape, -, skip, spot⟩
  · have put : addElement siblings element separator comma = siblings ++ (element ++ [comma]) := by
      simp [addElement, spot]
    rw [put, added (.inr ⟨closed, rfl⟩)]
  · have put : addElement siblings element separator comma
        = (front ++ [m]) ++ separator :: (element ++ [comma]) ++ gap := by
      simp [addElement, spot]
    have old : commaGroups siblings = commaGroups (front ++ [m]) := by
      have parts : front ++ m :: gap = (front ++ [m]) ++ gap := by simp
      rw [shape, parts, commaGroups, commaGroupsFrom_append_gap skip, ← commaGroups]
    rw [put, commaGroups, commaGroupsFrom_append_gap skip, ← commaGroups,
      added (.inl ⟨separator, isSeparator, rfl⟩), old]

end Dart.Node

/-! ## The offset of the end spot -/

namespace Outline

variable {source : Bytes} {n opening closing : Node} {front siblings : List Node} {l : ListLiteral}

/-- Adding to a list adds one element.  With the nodes of a further element at the end spot
of what is between the brackets, the groups are the old ones and the new element, with a
comma at the end.  The place that is picked for a fragment is this spot: it is the end of
the node in front, with a comma in the text, if the spot needs a comma, and the start of the
closing bracket if it does not.  All nodes in front of the spot are in front of the place, and
all nodes behind it are behind the place. -/
theorem append_adds_one (bracketed : n.Bracketed front opening siblings closing)
    (nested : n.Nested) (read : listLiteral source n = .ok l) (fragment : String)
    {element : List Node} (nonempty : element ≠ []) (items : ∀ c ∈ element, c.isItem = true)
    {separator comma : Node} (isSeparator : separator.kind = .terminal .comma)
    (isComma : comma.kind = .terminal .comma) :
    Node.commaGroups (Node.addElement siblings element separator comma)
        = ⟨(Node.commaGroups siblings).groups ++ [element], true⟩ ∧
      let spot := Node.endSpot siblings
      siblings = spot.before ++ spot.behind ∧
        (if spot.comma then
            ∃ earlier m, spot.before = earlier ++ [m] ∧ m.isItem = true ∧
              (∀ c ∈ spot.behind, c.isItem = false) ∧
              l.append fragment = (m.span.stop, ", " ++ fragment)
          else
            spot.behind = [] ∧ l.append fragment = (closing.span.start, fragment ++ "\n")) ∧
        (∀ c ∈ front ++ opening :: spot.before, c.span.stop ≤ (l.append fragment).1) ∧
        ∀ c ∈ spot.behind ++ [closing], (l.append fragment).1 ≤ c.span.start := by
  refine ⟨Node.commaGroups_addElement siblings nonempty items isSeparator isComma, ?_⟩
  rcases Node.endSpot_cases siblings with
    ⟨-, closed, spot⟩ | ⟨earlier, m, gap, shape, item, skip, spot⟩
  · rw [spot, append_of_closed bracketed read closed fragment]
    refine ⟨(List.append_nil _).symm, ⟨rfl, rfl⟩, bracketed.before_closing nested, fun c hc => ?_⟩
    obtain rfl := List.mem_singleton.1 hc
    exact Int.le_refl _
  · rw [spot, append_of_item bracketed read shape item skip fragment]
    refine ⟨by simp [shape], ⟨earlier, m, rfl, item, ?_, rfl⟩, bracketed.around_stop nested shape⟩
    exact fun c hc => Node.isItem_of_isMark (skip c hc)

/-- What is between the brackets of `[A /**/]`. -/
def commentedElement : List Node :=
  [Node.plainName 1 2, .mk .documentationComment true none ⟨3, 7⟩ []]

theorem append_adds_one_commentedElement :
    let added := [Node.plainName 4 5, Node.callArguments 5 7 []]
    let separator := Node.token .comma 2 3
    let comma := Node.token .comma 7 8
    ∃ l, listLiteral (Utf8.encode "[A /**/]") (Node.bracketed 0 8 0 [] commentedElement) = .ok l ∧
      Node.commaGroups (Node.addElement commentedElement added separator comma)
        = ⟨[[Node.plainName 1 2], added], true⟩ ∧
      l.append "B()," = (2, ", B(),") := by
  intro added separator comma
  have bracketed : (Node.bracketed 0 8 0 [] commentedElement).Bracketed []
      (Node.token .openBracket 0 1) commentedElement (Node.token .closeBracket 7 8) :=
    ⟨rfl, rfl, rfl, fun _ hc => absurd hc List.not_mem_nil⟩
  have nested : (Node.bracketed 0 8 0 [] commentedElement).Nested :=
    Node.nested_of_isNested (by decide)
  obtain ⟨l, read⟩ : ∃ l, listLiteral (Utf8.encode "[A /**/]")
      (Node.bracketed 0 8 0 [] commentedElement) = .ok l := ⟨_, rfl⟩
  obtain ⟨groups, -, place, -⟩ := append_adds_one bracketed nested read "B(),"
    (List.cons_ne_nil _ _ : added ≠ []) (by decide) (rfl : separator.kind = .terminal .comma)
    (rfl : comma.kind = .terminal .comma)
  refine ⟨l, read, groups, ?_⟩
  obtain ⟨earlier, m, before, -, -, picked⟩ := place
  have before : [] ++ [Node.plainName 1 2] = earlier ++ [m] := before
  obtain ⟨-, last⟩ := List.append_inj' before rfl
  cases last
  exact picked

end Outline

end RouteGraft
