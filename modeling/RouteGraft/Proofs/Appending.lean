import RouteGraft.Insertion
import RouteGraft.Proofs.Regrowth

/-!
# Lists with one more element

At the end of a list there is *room* for an element, either behind a comma or the
opening bracket, or behind the last element, and then a comma has to go in front
(`Node.Room`).  What `ListLiteral.append` picks is such a place, and the comma it
puts in front is there if it has to be (`exists_place`).

A list that is grafted at such a place is read as the old list with one more
element and a comma at the end (`Reads.append`).
-/

namespace RouteGraft

open Dart (Node Kind Field)

/-- A list that has grown by some bytes and one element, with a comma behind it. -/
def ListLiteral.grow (d : Int) (e : ListElement) (l : ListLiteral) : ListLiteral :=
  ⟨⟨l.span.start, l.span.stop + d⟩, l.rightBracket + d, l.elements ++ [e], true⟩

namespace Dart.Node

/-! ## Rooms -/

/-- The children of a list: what is in front of its opening bracket, the brackets,
and what is between them. -/
structure Bracketed (n : Node) (front : List Node) (opening : Node) (inside : List Node)
    (closing : Node) : Prop where
  children : n.children = front ++ opening :: (inside ++ [closing])
  opening : opening.kind = .terminal .openBracket
  closing : closing.kind = .terminal .closeBracket
  front : ∀ c ∈ front, c.kind ≠ .terminal .openBracket

/-- An offset at the end of a list at which an element can be put, and whether a
comma has to stand in front of it.  Nothing that matters for the groups is between
the last comma, or the opening bracket, or the last element, and the closing
bracket. -/
inductive Room (list : Node) : Bool → Int → Prop
  | behindSeparator {front gap back : List Node} {m closing : Node} :
      list.children = front ++ m :: (gap ++ closing :: back) →
        m.kind = .terminal .comma ∨ m.kind = .terminal .openBracket →
          (∀ n ∈ gap, n.isMark = false) → closing.kind = .terminal .closeBracket →
            Room list false closing.span.start
  | behindElement {front gap back : List Node} {m closing : Node} :
      list.children = front ++ m :: (gap ++ closing :: back) → m.isItem = true →
        (∀ n ∈ gap, n.isMark = false) → closing.kind = .terminal .closeBracket →
          Room list true m.span.stop

/-- Siblings with no part of an element behind the last comma. -/
def Closed (siblings : List Node) : Prop :=
  (∀ n ∈ siblings, n.isMark = false) ∨
    ∃ front c gap, siblings = front ++ c :: gap ∧ c.kind = .terminal .comma ∧
      ∀ n ∈ gap, n.isMark = false

/-- A room in a list, with what stands between its brackets in front of the room and
behind it. -/
structure Place (n : Node) (front : List Node) (opening : Node) (siblings : List Node)
    (closing : Node) (comma : Bool) (k : Int) (inside gap : List Node) : Prop where
  siblings_eq : siblings = inside ++ gap
  room : n.Room comma k
  closed : comma = true ∨ Closed inside
  skip : ∀ c ∈ gap, c.isMark = false
  before : ∀ c ∈ front ++ opening :: inside, c.span.stop ≤ k
  behind : ∀ c ∈ gap ++ [closing], k ≤ c.span.start

section Place

variable {n opening closing : Node} {front siblings inside gap : List Node} {comma : Bool}
  {k d : Int} {new : List Node} {length : Nat}
  (place : n.Place front opening siblings closing comma k inside gap)
  (bracketed : n.Bracketed front opening siblings closing)
include place bracketed

theorem Place.children_eq :
    n.children = (front ++ opening :: inside) ++ (gap ++ [closing]) := by
  rw [bracketed.children, place.siblings_eq]
  simp

variable (full : n.Full length)
include full

theorem Place.splits : n.span.Splits k := by
  have isChild : opening ∈ n.children ∧ closing ∈ n.children := by
    rw [bracketed.children]
    simp
  have start := place.before opening (by simp)
  have stop := place.behind closing (by simp)
  have openingInside := full.nested.child_inside opening isChild.1
  have closingInside := full.nested.child_inside closing isChild.2
  have openingWide := (full.child isChild.1).wide.self
  have closingWide := (full.child isChild.2).wide.self
  unfold Span.Inside at openingInside closingInside
  unfold Span.Splits
  omega

variable (d new) in
theorem Place.children_graft : (n.graft k d new).children
    = (front ++ opening :: inside) ++ new ++ (gap ++ [closing]).map (shift d) := by
  have shape := place.children_eq bracketed
  refine children_graft_of_between (place.splits bracketed full) shape place.before fun c hc => ?_
  have isChild : c ∈ n.children := shape ▸ List.mem_append_right _ hc
  exact ⟨place.behind c hc, (full.child isChild).wide.self⟩

variable (d new) in
/-- A list still has its brackets when it is grafted. -/
theorem Place.bracketed_graft : (n.graft k d new).Bracketed front opening
    (inside ++ new ++ gap.map (shift d)) (closing.shift d) := by
  refine ⟨?_, bracketed.opening, ?_, bracketed.front⟩
  · rw [place.children_graft d new bracketed full]
    simp
  · rw [kind_shift, bracketed.closing]

section Nested

variable (le : 0 ≤ d) (within : ∀ m ∈ new, m.span.Inside ⟨k, k + d⟩)
include le within

/-- All children of the graft lie inside of it. -/
theorem Place.inside_graft : ∀ c ∈ (front ++ opening :: inside) ++ new ++
    (gap ++ [closing]).map (shift d), c.span.Inside ⟨n.span.start, n.span.stop + d⟩ := by
  have splits := place.splits bracketed full
  have oldInside := full.nested.child_inside
  rw [place.children_eq bracketed] at oldInside
  unfold Span.Splits at splits
  unfold Span.Inside at *
  intro c hc
  rcases List.mem_append.1 hc with hc | hc
  · rcases List.mem_append.1 hc with hc | hc
    · have inside := oldInside c (List.mem_append_left _ hc)
      dsimp only
      omega
    · have inside := within c hc
      dsimp only at *
      omega
  · obtain ⟨c', hc', rfl⟩ := List.mem_map.1 hc
    have inside := oldInside c' (List.mem_append_right _ hc')
    rw [span_shift, Span.start_shift, Span.stop_shift]
    dsimp only
    omega

/-- All children of the graft stand in order. -/
theorem Place.ordered_graft (ordered : Span.Ordered (new.map Node.span)) :
    Span.Ordered (((front ++ opening :: inside) ++ new ++
      (gap ++ [closing]).map (shift d)).map Node.span) := by
  have before := place.before
  have behind := place.behind
  have order := full.nested.ordered
  rw [place.children_eq bracketed, List.map_append, Span.Ordered, List.pairwise_append] at order
  rw [List.map_append, List.map_append]
  refine Span.Ordered.append (k := k + d) (Span.Ordered.append (k := k) order.1 ordered ?_ ?_)
    (ordered_shift d order.2.1) ?_ ?_
  · intro s hs
    obtain ⟨c, hc, rfl⟩ := List.mem_map.1 hs
    exact before c hc
  · intro s hs
    obtain ⟨c, hc, rfl⟩ := List.mem_map.1 hs
    exact (within c hc).1
  · intro s hs
    rcases List.mem_append.1 hs with hs | hs
    · obtain ⟨c, hc, rfl⟩ := List.mem_map.1 hs
      have := before c hc
      omega
    · obtain ⟨c, hc, rfl⟩ := List.mem_map.1 hs
      exact (within c hc).2.2
  · intro s hs
    obtain ⟨c, hc, rfl⟩ := List.mem_map.1 hs
    obtain ⟨c', hc', rfl⟩ := List.mem_map.1 hc
    have := behind c' hc'
    rw [span_shift, Span.start_shift]
    omega

end Nested

/-- With nested nodes in its room a list is nested. -/
theorem Place.nested_graft (le : 0 ≤ d) (nested : ∀ m ∈ new, m.Nested)
    (within : ∀ m ∈ new, m.span.Inside ⟨k, k + d⟩) (ordered : Span.Ordered (new.map Node.span)) :
    (n.graft k d new).Nested := by
  have oldNested := full.nested.child
  rw [place.children_eq bracketed] at oldNested
  rw [nested_iff, place.children_graft d new bracketed full, span_graft, Span.stretch,
    Span.pick_of_splits (place.splits bracketed full)]
  refine ⟨?_, place.inside_graft bracketed full le within,
    place.ordered_graft bracketed full le within ordered, fun c hc => ?_⟩
  · have := full.nested.start_le_stop
    dsimp only
    omega
  · rcases List.mem_append.1 hc with hc | hc
    · rcases List.mem_append.1 hc with hc | hc
      · exact oldNested c (List.mem_append_left _ hc)
      · exact nested c hc
    · obtain ⟨c', hc', rfl⟩ := List.mem_map.1 hc
      exact (oldNested c' (List.mem_append_right _ hc')).shift d

end Place

/-- Siblings with an element put behind them have one more group. -/
theorem commaGroups_append {siblings nodes new : List Node} {c : Node}
    (comma : c.kind = .terminal .comma) (noComma : ∀ n ∈ nodes, n.kind ≠ .terminal .comma)
    (items : nodes.filter isItem ≠ [])
    (h : (∃ c', c'.kind = .terminal .comma ∧ new = c' :: (nodes ++ [c])) ∨
      Closed siblings ∧ new = nodes ++ [c]) :
    commaGroups (siblings ++ new)
      = ⟨(commaGroups siblings).groups ++ [nodes.filter isItem], true⟩ := by
  have element {trailing : Bool} := @commaGroupsFrom_element nodes trailing c noComma items comma
  have behindGap {gap : List Node} {trailing : Bool} (skip : ∀ n ∈ gap, n.isMark = false) :
      commaGroupsFrom [] trailing (gap ++ (nodes ++ [c])) = ⟨[nodes.filter isItem], true⟩ := by
    have none : gap.filter isItem = [] :=
      List.filter_eq_nil_iff.2 fun n hn => by simp [isItem_of_isMark (skip n hn)]
    rw [commaGroupsFrom_append fun n hn => not_comma_of_isMark (skip n hn), none, List.append_nil,
      element]
  rcases h with ⟨c', comma', rfl⟩ | ⟨closed, rfl⟩
  · rw [commaGroups, commaGroupsFrom_comma comma', element, commaGroups]
  · rcases closed with skip | ⟨front, c', gap, rfl, comma', skip⟩
    · rw [commaGroups, behindGap skip, commaGroups, commaGroupsFrom_of_gap skip]
      rfl
    · rw [commaGroups, List.append_assoc, List.cons_append, commaGroupsFrom_comma comma',
        behindGap skip, commaGroups, commaGroupsFrom_comma comma', commaGroupsFrom_of_gap skip,
        commaGroupsFrom_nil, List.isEmpty_nil, if_pos rfl, List.append_nil]

/-- No comma follows the last part of siblings that end with one. -/
theorem commaGroupsFrom_trailing {open_ front gap : List Node} {trailing : Bool} {m : Node}
    (item : m.isItem = true) (skip : ∀ n ∈ gap, n.isMark = false) :
    (commaGroupsFrom open_ trailing (front ++ m :: gap)).trailing = false := by
  induction front generalizing open_ trailing with
  | nil =>
      have comment := isComment_of_isItem item
      have comma : m.kind ≠ .terminal .comma := by
        intro comma
        rw [isItem_of_comma comma] at item
        cases item
      have named : m.named = true := by rw [← isItem_eq_named comment comma, item]
      rw [List.nil_append, commaGroupsFrom_cons, comment, if_neg Bool.false_ne_true, if_neg comma,
        if_pos named, commaGroupsFrom_of_gap skip]
      rfl
  | cons c rest ih =>
      rw [List.cons_append, commaGroupsFrom_cons]
      repeat' split
      all_goals exact ih

/-- Siblings have no part of an element behind the last comma, or they have one that nothing
that matters follows. -/
theorem commaGroups_ends (siblings : List Node) :
    (Closed siblings ∧
        ((commaGroups siblings).groups = [] ∨ (commaGroups siblings).trailing = true)) ∨
      ∃ front m gap, siblings = front ++ m :: gap ∧ m.isItem = true ∧
        (∀ n ∈ gap, n.isMark = false) ∧ (commaGroups siblings).groups ≠ [] ∧
          (commaGroups siblings).trailing = false := by
  rcases exists_last_mark siblings with skip | ⟨front, m, gap, shape, mark, skip⟩
  · refine .inl ⟨.inl skip, .inl ?_⟩
    rw [commaGroups, commaGroupsFrom_of_gap skip]
    rfl
  · rw [isMark, Bool.or_eq_true, decide_eq_true_eq] at mark
    rcases mark with item | comma
    · -- an element comes last
      refine .inr ⟨front, m, gap, shape, item, skip, fun none => ?_, ?_⟩
      · have items := flatten_commaGroups siblings
        rw [none, shape, List.filter_append, List.filter_cons_of_pos item] at items
        simp at items
      · rw [shape]
        exact commaGroupsFrom_trailing item skip
    · -- a comma does
      refine .inl ⟨.inr ⟨front, m, gap, shape, comma, skip⟩, .inr ?_⟩
      rw [shape, commaGroups, commaGroupsFrom_comma comma, commaGroupsFrom_of_gap skip]
      rfl

section Order

variable {n opening closing : Node} {front siblings inside gap : List Node}
  (bracketed : n.Bracketed front opening siblings closing) (nested : n.Nested)
include bracketed nested

/-- Wherever the siblings are parted, what is in front ends before what is behind starts. -/
theorem Bracketed.apart (parts : siblings = inside ++ gap) :
    ∀ a ∈ front ++ opening :: inside, ∀ b ∈ gap ++ [closing], a.span.stop ≤ b.span.start := by
  have shape : n.children = (front ++ opening :: inside) ++ (gap ++ [closing]) := by
    rw [bracketed.children, parts]
    simp
  have order : n.children.Pairwise fun a b => a.span.Before b.span :=
    List.pairwise_map.1 nested.ordered
  rw [shape, List.pairwise_append] at order
  exact order.2.2

theorem Bracketed.before_closing :
    ∀ a ∈ front ++ opening :: siblings, a.span.stop ≤ closing.span.start :=
  fun a ha => bracketed.apart nested (List.append_nil _).symm a ha closing
    (List.mem_singleton_self closing)

/-- The end of a sibling is between what is in front, itself included, and what is behind. -/
theorem Bracketed.around_stop {m : Node} (parts : siblings = inside ++ m :: gap) :
    (∀ a ∈ front ++ opening :: (inside ++ [m]), a.span.stop ≤ m.span.stop) ∧
      ∀ b ∈ gap ++ [closing], m.span.stop ≤ b.span.start := by
  have isChild : m ∈ n.children := by
    rw [bracketed.children, parts]
    simp
  have behind : siblings = (inside ++ [m]) ++ gap := by simp [parts]
  refine ⟨fun a ha => ?_, bracketed.apart nested behind m (by simp)⟩
  rw [← List.cons_append, ← List.append_assoc] at ha
  rcases List.mem_append.1 ha with ha | ha
  · exact Int.le_trans (bracketed.apart nested parts a ha m List.mem_cons_self)
      (nested.child m isChild).start_le_stop
  · obtain rfl := List.mem_singleton.1 ha
    exact Int.le_refl _

end Order

/-- Grafting leaves alone what does not matter for the groups. -/
theorem isMark_shift (d : Int) (n : Node) : (n.shift d).isMark = n.isMark := by
  rw [isMark, (keeps_shift d).isItem, kind_shift, isMark]

end Dart.Node

namespace Outline

variable {source other : Bytes} {k d : Int} {new : List Node}

/-! ## Grafted lists -/

theorem insideBrackets_of_bracketed {n opening closing : Node} {front inside : List Node}
    (h : n.Bracketed front opening inside closing) :
    insideBrackets n = (inside, closing.span.start) := by
  have shape : n.children = (front ++ opening :: inside) ++ closing :: [] := by
    rw [h.children]
    simp
  have before : ∀ c ∈ front, decide (c.kind ≠ .terminal .openBracket) = true :=
    fun c hc => decide_eq_true (h.front c hc)
  have dropped : n.children.dropWhile (·.kind ≠ .terminal .openBracket)
      = opening :: (inside ++ [closing]) := by
    rw [h.children, List.dropWhile_append_of_pos before,
      List.dropWhile_cons_of_neg (by simp [h.opening])]
  have behind : behindOpening n.children = inside ++ [closing] := by
    rw [behindOpening, dropped]
    rfl
  rw [insideBrackets_of_closed shape h.closing fun _ hc => absurd hc List.not_mem_nil, behind]
  simp

/-- A group that is read as an element, down to every depth from its height on. -/
def ReadsGroup (source : Bytes) (group : List Node) (e : ListElement) : Prop :=
  ∀ depth, (∀ n ∈ group, n.height ≤ depth) →
    ReadsElement (listLiteralTo source depth) source group e

/-- A group that moves with its text is read as it was. -/
theorem ReadsGroup.shift {group : List Node} {e : ListElement} (h : ReadsGroup source group e)
    (nested : ∀ n ∈ group, n.Nested) (same : ∀ n ∈ group, Span.SameText source other d n.span) :
    ReadsGroup other (group.map (Node.shift d)) (ListElementOf.shift d e) := by
  intro depth low
  have low : ∀ n ∈ group, n.height ≤ depth := by
    intro n hn
    rw [← Node.height_shift d n]
    exact low _ (List.mem_map_of_mem hn)
  have heights : ∀ n ∈ group, n.height ≤ Node.height.heights group :=
    fun n hn => Node.height_le_heights hn
  refine (h _ heights).shift (carries_listLiteralTo source other d _ depth) nested same ?_
  intro n hn
  have := heights n hn
  have := low n hn
  omega

/-- An element in front of what is put in is read as it was. -/
theorem ReadsElement.stays {group : List Node} {e : ListElement} {depth depth' : Nat}
    (h : ReadsElement (listLiteralTo source depth) source group e)
    (spliced : Span.Spliced source other k d) (full : ∀ c ∈ group, c.Full source.length)
    (before : ∀ c ∈ group, c.span.stop ≤ k) (low : ∀ c ∈ group, c.height ≤ min depth depth' + 1) :
    ReadsElement (listLiteralTo other depth') other group e := by
  have moved := h.shift (carries_listLiteralTo source other 0 depth depth')
    (fun c hc => (full c hc).nested)
    (fun c hc => (Node.moves_of_stop_le [] spliced (full c hc) (before c hc)).same) low
  rwa [Node.map_shift_zero, ListElementOf.shift_zero] at moved

/-- A list that is grafted in front of its closing bracket, with nothing that matters
in between, has one more element. -/
theorem Reads.append {n opening closing : Node} {front siblings inside gap group : List Node}
    {comma : Bool} {l : ListLiteral} {e : ListElement} (spliced : Span.Spliced source other k d)
    (full : n.Full source.length) (bracketed : n.Bracketed front opening siblings closing)
    (place : n.Place front opening siblings closing comma k inside gap)
    (groups : Node.commaGroups (inside ++ new)
      = ⟨(Node.commaGroups inside).groups ++ [group], true⟩)
    (isNew : ∀ c ∈ group, c ∈ new) (element : ReadsGroup other group e)
    (read : Reads source n l) :
    Reads other (n.graft k d new) (l.grow d e) := by
  have splits := place.splits bracketed full
  have grafted := place.bracketed_graft d new bracketed full
  have isChild : ∀ c ∈ inside, c ∈ n.children :=
    fun c hc => place.children_eq bracketed ▸ by simp [hc]
  obtain ⟨rfl, -, -, skip, before, -⟩ := place
  intro depth low
  obtain ⟨depth, rfl⟩ := Node.exists_succ_of_height_le low
  have lower : ∀ c ∈ inside ++ new, c.height ≤ depth := by
    intro c hc
    have isChild : c ∈ (n.graft k d new).children := by
      rw [grafted.children]
      rcases List.mem_append.1 hc with hc | hc
      · simp [hc]
      · simp [hc]
    have := Node.height_lt_of_mem_children isChild
    omega
  have heightPos := n.height_pos
  have read := read (n.height - 1 + 1) (by omega)
  rw [listLiteralTo, listLiteralWith_eq_ok, insideBrackets_of_bracketed bracketed] at read
  rw [listLiteralTo, listLiteralWith_eq_ok, insideBrackets_of_bracketed grafted]
  obtain ⟨span, bracket, -, related⟩ := read
  have old : Node.commaGroups (inside ++ gap) = Node.commaGroups inside :=
    Node.commaGroupsFrom_append_gap skip
  have now : Node.commaGroups (inside ++ new ++ gap.map (Node.shift d))
      = Node.commaGroups (inside ++ new) := by
    refine Node.commaGroupsFrom_append_gap fun c hc => ?_
    obtain ⟨c', hc', rfl⟩ := List.mem_map.1 hc
    rw [Node.isMark_shift, skip c' hc']
  have kept : List.Forall₂ (ReadsElement (listLiteralTo other depth) other)
      (Node.commaGroups inside).groups l.elements := by
    rw [old] at related
    refine forall₂_imp_of_mem related fun group hgroup e _ read => ?_
    have inInside : ∀ c ∈ group, c ∈ inside := fun c => Node.mem_of_mem_commaGroups hgroup
    refine read.stays spliced (fun c hc => full.child (isChild c (inInside c hc)))
      (fun c hc => before c (by simp [inInside c hc])) fun c hc => ?_
    have := lower c (List.mem_append_left _ (inInside c hc))
    have := Node.height_lt_of_mem_children (isChild c (inInside c hc))
    omega
  refine ⟨?_, ?_, ?_, ?_⟩
  · rw [Node.span_graft, ListLiteral.grow, span, Span.stretch, Span.pick_of_splits splits]
  · rw [ListLiteral.grow, bracket, Node.span_shift, Span.start_shift]
  · rw [now, groups, ListLiteral.grow]
  · rw [now, groups]
    refine List.rel_append kept (.cons (element depth fun c hc => ?_) .nil)
    exact lower c (List.mem_append_right _ (isNew c hc))

/-! ## Places -/

/-- The last element of a list ends with its last part. -/
theorem getLast?_stop {list : Node → Reading ListLiteral} {siblings front gap : List Node}
    {m : Node} {es : List ListElement} {last : ListElement}
    (shape : siblings = front ++ m :: gap) (item : m.isItem = true)
    (skip : ∀ n ∈ gap, n.isMark = false)
    (related : List.Forall₂ (ReadsElement list source) (Node.commaGroups siblings).groups es)
    (isLast : es.getLast? = some last) : last.span.stop = m.span.stop := by
  have items : (Node.commaGroups siblings).groups.flatten = front.filter Node.isItem ++ [m] := by
    have none : gap.filter Node.isItem = [] :=
      List.filter_eq_nil_iff.2 fun n hn => by simp [Node.isItem_of_isMark (skip n hn)]
    rw [Node.flatten_commaGroups, shape, List.filter_append, List.filter_cons_of_pos item, none]
  rw [List.getLast?_eq_head?_reverse] at isLast
  obtain ⟨g, isGroup, read⟩ := exists_head? (List.forall₂_reverse_iff.2 related.flip) isLast
  have read : ReadsElement list source g last := read
  rw [← List.getLast?_eq_head?_reverse] at isGroup
  obtain ⟨first, rest, rfl, span⟩ := read.span
  obtain ⟨groups, eq⟩ := List.getLast?_eq_some_iff.1 isGroup
  rw [eq, List.flatten_append, List.flatten_singleton] at items
  have ends := congrArg List.getLast? items
  rw [List.getLast?_append, List.getLast?_append, List.getLast?_cons, Option.some_or,
    List.getLast?_singleton, Option.some_or] at ends
  rw [span, ← Option.some.inj ends, ← List.getLastD_eq_getLast?]
  rfl

section Ends

variable {n opening closing : Node} {front siblings : List Node} {l : ListLiteral}
  (bracketed : n.Bracketed front opening siblings closing)
include bracketed

/-- What a list with brackets says of what is between them. -/
theorem listLiteral_of_bracketed (read : listLiteral source n = .ok l) :
    l.rightBracket = closing.span.start ∧
      l.hasTrailingComma = (Node.commaGroups siblings).trailing ∧
      ∃ list, List.Forall₂ (ReadsElement list source) (Node.commaGroups siblings).groups
        l.elements := by
  obtain ⟨depth, height⟩ := Node.exists_succ_of_height_le (Nat.le_refl n.height)
  rw [listLiteral, height, listLiteralTo, listLiteralWith_eq_ok,
    insideBrackets_of_bracketed bracketed] at read
  exact ⟨read.2.1, read.2.2.1, _, read.2.2.2⟩

/-- Behind a comma, and where there is no element, a fragment goes to the closing bracket. -/
theorem append_of_closed (read : listLiteral source n = .ok l)
    (closed : (Node.commaGroups siblings).groups = [] ∨
      (Node.commaGroups siblings).trailing = true) (fragment : String) :
    l.append fragment = (closing.span.start, fragment ++ "\n") := by
  obtain ⟨bracket, trailing, list, related⟩ := listLiteral_of_bracketed bracketed read
  rw [← bracket]
  refine ListLiteral.append_atBracket ?_ fragment
  rcases closed with none | comma
  · rw [none, List.forall₂_nil_left_iff] at related
    exact .inl related
  · exact .inr (trailing.trans comma)

/-- Behind the last node of an element a fragment brings a comma along. -/
theorem append_of_item (read : listLiteral source n = .ok l) {earlier gap : List Node} {m : Node}
    (shape : siblings = earlier ++ m :: gap) (item : m.isItem = true)
    (skip : ∀ c ∈ gap, c.isMark = false) (fragment : String) :
    l.append fragment = (m.span.stop, ", " ++ fragment) := by
  obtain ⟨-, trailing, list, related⟩ := listLiteral_of_bracketed bracketed read
  have open_ : l.hasTrailingComma = false := by
    rw [trailing, shape]
    exact Node.commaGroupsFrom_trailing item skip
  cases isLast : l.elements.getLast? with
  | none =>
      rw [List.getLast?_eq_none_iff.1 isLast, List.forall₂_nil_right_iff] at related
      have items := Node.flatten_commaGroups siblings
      rw [related, shape, List.filter_append, List.filter_cons_of_pos item] at items
      simp at items
  | some last =>
      rw [ListLiteral.append_behindElement isLast open_,
        getLast?_stop shape item skip related isLast]

end Ends

/-- The place at the end of a list is a room for an element, with a comma in front of
it where that is needed. -/
theorem exists_place {n opening closing : Node} {front siblings : List Node} {l : ListLiteral}
    (full : n.Full source.length) (bracketed : n.Bracketed front opening siblings closing)
    (read : Reads source n l) (fragment : String) :
    ∃ comma inside gap,
      n.Place front opening siblings closing comma (l.append fragment).1 inside gap ∧
        (l.append fragment).2 = if comma then ", " ++ fragment else fragment ++ "\n" := by
  have nested := full.nested
  have read := (reads_iff nested).1 read
  rcases Node.commaGroups_ends siblings with
    ⟨closed, empty⟩ | ⟨earlier, m, gap, shape, item, skip, -⟩
  · rw [append_of_closed bracketed read empty]
    refine ⟨false, siblings, [], ⟨(List.append_nil _).symm, ?_, .inr closed, ?_,
      bracketed.before_closing nested, ?_⟩, rfl⟩
    · rcases closed with skip | ⟨earlier, c, gap, shape, comma, skip⟩
      · exact .behindSeparator bracketed.children (.inr bracketed.opening) skip bracketed.closing
      · have children :
            n.children = (front ++ opening :: earlier) ++ c :: (gap ++ closing :: []) := by
          rw [bracketed.children, shape]
          simp
        exact .behindSeparator children (.inl comma) skip bracketed.closing
    · exact fun _ hc => absurd hc List.not_mem_nil
    · intro c hc
      obtain rfl := List.mem_singleton.1 hc
      exact Int.le_refl _
  · have children : n.children = (front ++ opening :: earlier) ++ m :: (gap ++ closing :: []) := by
      rw [bracketed.children, shape]
      simp
    obtain ⟨before, behind⟩ := bracketed.around_stop nested shape
    rw [append_of_item bracketed read shape item skip]
    refine ⟨true, earlier ++ [m], gap, ⟨?_, .behindElement children item skip bracketed.closing,
      .inl rfl, skip, before, behind⟩, rfl⟩
    rw [shape]
    simp

end Outline

end RouteGraft
