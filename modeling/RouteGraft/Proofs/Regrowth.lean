import RouteGraft.Proofs.Grafting

/-!
# Lists of grafted trees

What is read off a graft is what was read off the old tree, with one list changed.
The nodes that an offset splits form a path from the root to the list that takes
the new nodes.  Everything beside that path stays or moves as a whole, and is read
as it was.  On the path every reader finds the nodes it found before, and so it is
enough to know how the list at the end of the path is read now.

The path goes through the arguments of calls from one list to the next
(`Reads.graft`).
-/

namespace RouteGraft

open Dart (Node Kind Field)

/-! ## Outlines around an offset -/

/-- A list in front of an offset or behind it, or else the list that is there now. -/
def ListLiteral.stretch (k d : Int) (changed l : ListLiteral) : ListLiteral :=
  l.span.pick k l (l.shift d) changed

theorem ListLiteral.stretch_of_splits {k d : Int} {changed l : ListLiteral}
    (h : l.span.Splits k) : ListLiteral.stretch k d changed l = changed :=
  Span.pick_of_splits h

/-- An argument of a grafted call. -/
def NamedArgumentOf.stretch (k d : Int) (changed : ListLiteral) (a : NamedArgument) :
    NamedArgument :=
  a.span.pick k a (NamedArgumentOf.shift d a)
    ⟨a.name, ⟨a.span.start, a.span.stop + d⟩, a.value.map (ListLiteral.stretch k d changed)⟩

/-- An element of a grafted list. -/
def ListElementOf.stretch (k d : Int) (changed : ListLiteral) (e : ListElement) : ListElement :=
  e.span.pick k e (ListElementOf.shift d e)
    ⟨⟨e.span.start, e.span.stop + d⟩, e.callee,
      e.namedArguments.map (NamedArgumentOf.stretch k d changed)⟩

namespace Outline

variable {source other : Bytes} {k d : Int} {new : List Node} {depth depth' : Nat}
variable {changed : ListLiteral}

/-! ## Readings beside the path -/

theorem listLiteralTo_span {n : Node} {l : ListLiteral}
    (h : listLiteralTo source depth n = .ok l) : l.span = n.span := by
  cases depth with
  | zero =>
      rw [listLiteralTo] at h
      cases h
      rfl
  | succ depth =>
      rw [listLiteralTo] at h
      exact (listLiteralWith_eq_ok.1 h).1

theorem carries_listLiteralTo (source other : Bytes) (δ : Int) (depth depth' : Nat) :
    Carries source other δ (min depth depth' + 1) (listLiteralTo source depth)
      (listLiteralTo other depth') := by
  intro n l low nested same read
  exact listLiteralTo_shift nested same (by omega) (by omega) read

/-- A list beside the path. -/
theorem listLiteralTo_moves {n : Node} {l : ListLiteral} {δ : Int}
    (moves : n.Moves source other k d new δ) (full : n.Full source.length)
    (low : n.height ≤ depth) (low' : n.height ≤ depth')
    (h : listLiteralTo source depth n = .ok l) :
    listLiteralTo other depth' (n.graft k d new) = .ok (ListLiteral.stretch k d changed l) := by
  have span := listLiteralTo_span h
  have inside : l.span.Inside n.span := by
    rw [span]
    exact (full.nested.of_mem_nodes n n.self_mem_nodes).2
  have side := moves.pick_eq inside (span ▸ full.wide.self) changed (ListLiteral.shift · l)
  rw [ListLiteral.shift_zero] at side
  rw [ListLiteral.stretch, side, moves.graft_eq]
  exact listLiteralTo_shift full.nested moves.same low low' h

/-- An argument beside the path. -/
theorem namedArgument?_moves {a : Node} {o : Option NamedArgument} {δ : Int}
    (moves : a.Moves source other k d new δ) (full : a.Full source.length)
    (low : a.height ≤ min depth depth' + 1)
    (h : namedArgument? (listLiteralTo source depth) source a = .ok o) :
    namedArgument? (listLiteralTo other depth') other (a.graft k d new)
      = .ok (o.map (NamedArgumentOf.stretch k d changed)) := by
  rw [moves.graft_eq, namedArgument?_shift (carries_listLiteralTo source other δ depth depth')
    full.nested moves.same low h]
  cases o with
  | none => rfl
  | some x =>
      have span := (namedArgument?_eq_some h).1
      have inside : x.span.Inside a.span := by
        rw [span]
        exact (full.nested.of_mem_nodes a a.self_mem_nodes).2
      have side := moves.pick_eq inside (span ▸ full.wide.self)
        ⟨x.name, ⟨x.span.start, x.span.stop + d⟩, x.value.map (ListLiteral.stretch k d changed)⟩
        (NamedArgumentOf.shift · x)
      rw [NamedArgumentOf.shift_zero] at side
      rw [Option.map_some, Option.map_some, NamedArgumentOf.stretch, side]

/-! ## Lists on the path -/

section Argument

variable {a v : Node} (spliced : Span.Spliced source other k d) (full : a.Full source.length)
  (hv : v ∈ a.parts) (kind : v.kind = .construct .listLiteral) (splits : v.span.Splits k)
include spliced full hv kind splits

/-- The label of an argument is beside the list in it. -/
theorem label_moves {c : Node} (hc : c ∈ a.children) (label : c.kind = .construct .label) :
    ∃ δ, c.Moves source other k d new δ := by
  refine Node.moves_beside new spliced full (Node.mem_children_of_mem_parts hv) splits hc ?_
  rintro rfl
  rw [label] at kind
  cases kind

theorem argumentName?_graft {m : Node} (found : argumentName? a = some m) :
    (m.graft k d new).span.text other = m.span.text source := by
  obtain ⟨c, isLabel, isName⟩ := Option.bind_eq_some_iff.1 found
  obtain ⟨hc, labelKind⟩ := Node.child?_eq_some isLabel
  have hm := (Node.child?_eq_some isName).1
  obtain ⟨δ, moves⟩ := label_moves spliced full hv kind splits hc (by simpa using labelKind)
  exact (moves.of_mem_nodes (full.child hc) (Node.child_mem_nodes hm)).text
    ((full.child hc).child hm).nested

variable (reread : listLiteralTo other depth' (v.graft k d new) = .ok changed)
  (low : a.height ≤ min depth depth' + 1)
include reread low

omit kind in
theorem argumentValue_graft {value : Option ListLiteral}
    (h : argumentValue (listLiteralTo source depth) a = .ok value) :
    argumentValue (listLiteralTo other depth') (a.graft k d new)
      = .ok (value.map (ListLiteral.stretch k d changed)) := by
  have isChild := Node.mem_children_of_mem_parts hv
  have children := Node.children_graft_of_child d new full.nested isChild splits
  refine argumentValue_map (Node.keeps_graft k d new) children ?_ h
  intro w hw _ l read
  have hw := Node.mem_children_of_mem_parts hw
  by_cases same : w = v
  · subst same
    rw [ListLiteral.stretch_of_splits (listLiteralTo_span read ▸ splits)]
    exact reread
  · obtain ⟨δ, moves⟩ := Node.moves_beside new spliced full isChild splits hw same
    have lower := Node.height_lt_of_mem_children hw
    exact listLiteralTo_moves moves (full.child hw) (by omega) (by omega) read

/-- The argument that holds the list on the path. -/
theorem namedArgument?_graft {o : Option NamedArgument}
    (h : namedArgument? (listLiteralTo source depth) source a = .ok o) :
    namedArgument? (listLiteralTo other depth') other (a.graft k d new)
      = .ok (o.map (NamedArgumentOf.stretch k d changed)) := by
  have isChild := Node.mem_children_of_mem_parts hv
  have children := Node.children_graft_of_child d new full.nested isChild splits
  have label : ∀ c ∈ a.children, c.kind = .construct .label →
      (c.graft k d new).children = c.children.map (Node.graft k d new) := by
    intro c hc isLabel
    obtain ⟨δ, moves⟩ := label_moves spliced full hv kind splits hc isLabel
    exact moves.children_graft (full.child hc)
  rw [namedArgument?_map (Node.keeps_graft k d new) children label
    (fun _ => argumentName?_graft spliced full hv kind splits)
    (fun _ => argumentValue_graft spliced full hv splits reread low) h]
  cases o with
  | none => rfl
  | some x =>
      have span := (namedArgument?_eq_some h).1
      have isSplit := splits.of_inside (full.nested.child_inside v isChild)
      rw [← span] at isSplit
      rw [Option.map_some, Option.map_some, NamedArgumentOf.stretch, Span.pick_of_splits isSplit,
        Node.span_graft, ← span, Span.stretch, Span.pick_of_splits isSplit]

end Argument

/-- The arguments of the call on the path. -/
theorem namedArguments_graft {arguments a v : Node} {as : List NamedArgument}
    (spliced : Span.Spliced source other k d) (full : arguments.Full source.length)
    (ha : a ∈ arguments.parts) (hv : v ∈ a.parts) (kind : v.kind = .construct .listLiteral)
    (splits : v.span.Splits k)
    (reread : listLiteralTo other depth' (v.graft k d new) = .ok changed)
    (low : arguments.height ≤ min depth depth' + 1)
    (h : namedArguments (listLiteralTo source depth) source arguments = .ok as) :
    namedArguments (listLiteralTo other depth') other (arguments.graft k d new)
      = .ok (as.map (NamedArgumentOf.stretch k d changed)) := by
  have isChild := Node.mem_children_of_mem_parts ha
  have isSplit := splits.of_inside
    ((full.child isChild).nested.child_inside v (Node.mem_children_of_mem_parts hv))
  have children := Node.children_graft_of_child d new full.nested isChild isSplit
  refine namedArguments_map (Node.keeps_graft k d new) children ?_ h
  intro b hb _ o read
  have hb := Node.mem_children_of_mem_parts hb
  have lower := Node.height_lt_of_mem_children hb
  by_cases same : b = a
  · subst same
    exact namedArgument?_graft spliced (full.child hb) hv kind splits reread (by omega) read
  · obtain ⟨δ, moves⟩ := Node.moves_beside new spliced full isChild isSplit hb same
    exact namedArgument?_moves moves (full.child hb) (by omega) read

/-- Of the groups of siblings one holds a given node, and every other one is in front
of it or behind it. -/
theorem sides_of_mem_flatten {groups : List (List Node)} {group : List Node} {c : Node}
    (order : Span.Ordered (groups.flatten.map Node.span)) (hgroup : group ∈ groups)
    (hc : c ∈ groups.flatten) :
    c ∈ group ∨ (∀ n ∈ group, n.span.Before c.span) ∨ ∀ n ∈ group, c.span.Before n.span := by
  obtain ⟨earlier, later, rfl⟩ := List.append_of_mem hgroup
  rw [List.flatten_append, List.flatten_cons] at order hc
  rw [List.map_append, List.map_append, Span.Ordered, List.pairwise_append,
    List.pairwise_append] at order
  obtain ⟨-, ⟨-, -, behind⟩, front⟩ := order
  rcases List.mem_append.1 hc with hc | hc
  · refine .inr (.inr fun n hn => front _ (List.mem_map_of_mem hc) _ ?_)
    exact List.mem_append_left _ (List.mem_map_of_mem hn)
  · rcases List.mem_append.1 hc with hc | hc
    · exact .inl hc
    · exact .inr (.inl fun n hn => behind _ (List.mem_map_of_mem hn) _ (List.mem_map_of_mem hc))

/-- A node of a group lies between its first and its last node. -/
theorem inside_through {first : Node} {rest : List Node}
    (order : Span.Ordered ((first :: rest).map Node.span)) (nested : ∀ n ∈ first :: rest, n.Nested)
    {c : Node} (hc : c ∈ first :: rest) :
    c.span.Inside (first.span.through (rest.getLastD first).span) := by
  have start : first.span.start ≤ c.span.start := by
    rcases List.mem_cons.1 hc with rfl | hc
    · exact Int.le_refl _
    · have apart := (List.pairwise_cons.1 order).1 _ (List.mem_map_of_mem hc)
      exact Int.le_trans (nested first List.mem_cons_self).start_le_stop apart
  have stop : c.span.stop ≤ (rest.getLastD first).span.stop := by
    have parts : (first :: rest).dropLast ++ [rest.getLastD first] = first :: rest := by
      rw [← List.getLast_eq_getLastD (List.cons_ne_nil first rest), List.dropLast_concat_getLast]
    rw [← parts] at hc
    rw [← parts, List.map_append, Span.Ordered, List.pairwise_append] at order
    have lastNested : (rest.getLastD first).Nested := nested _ (by rw [← parts]; simp)
    rcases List.mem_append.1 hc with front | last
    · have apart := order.2.2 _ (List.mem_map_of_mem front) (rest.getLastD first).span (by simp)
      exact Int.le_trans apart lastNested.start_le_stop
    · obtain rfl := List.mem_singleton.1 last
      exact Int.le_refl _
  exact ⟨start, (nested c hc).start_le_stop, stop⟩

/-- An element beside the path. -/
theorem ReadsElement.beside {group : List Node} {e : ListElement} {δ : Int}
    (h : ReadsElement (listLiteralTo source depth) source group e)
    (full : ∀ n ∈ group, n.Full source.length) (order : Span.Ordered (group.map Node.span))
    (moves : ∀ n ∈ group, n.Moves source other k d new δ)
    (side : (δ = 0 ∧ ∀ n ∈ group, n.span.stop ≤ k) ∨ δ = d ∧ ∀ n ∈ group, k ≤ n.span.start)
    (low : ∀ n ∈ group, n.height ≤ min depth depth' + 1) :
    ReadsElement (listLiteralTo other depth') other (group.map (Node.graft k d new))
      (ListElementOf.stretch k d changed e) := by
  have grafted : group.map (Node.graft k d new) = group.map (Node.shift δ) :=
    List.map_congr_left fun n hn => (moves n hn).graft_eq
  have stretched : ListElementOf.stretch k d changed e = ListElementOf.shift δ e := by
    obtain ⟨first, rest, rfl, span⟩ := h.span
    have isFirst : first ∈ first :: rest := List.mem_cons_self
    have isLast : rest.getLastD first ∈ first :: rest := by
      rw [← List.getLast_eq_getLastD (List.cons_ne_nil first rest)]
      exact List.getLast_mem _
    have within := inside_through order (fun n hn => (full n hn).nested) isFirst
    have wide := (full first isFirst).wide.self
    rw [← span] at within
    rcases side with ⟨rfl, front⟩ | ⟨rfl, back⟩
    · have stop : e.span.stop ≤ k := by
        rw [span]
        exact front _ isLast
      rw [ListElementOf.stretch, Span.pick_of_stop_le stop, ListElementOf.shift_zero]
    · have start : k ≤ e.span.start := by
        rw [span]
        exact back _ isFirst
      have wide : e.span.start < e.span.stop :=
        Int.lt_of_le_of_lt within.1 (Int.lt_of_lt_of_le wide within.2.2)
      rw [ListElementOf.stretch, Span.pick_of_le_start start (Int.lt_of_le_of_lt start wide)]
  rw [grafted, stretched]
  exact h.shift (carries_listLiteralTo source other δ depth depth')
    (fun n hn => (full n hn).nested) (fun n hn => (moves n hn).same) low

/-- The path from a call to a list in one of its arguments. -/
structure Holds (call arguments a v : Node) : Prop where
  selector : call.kind = .construct .selector
  search : call.descendant? (· = .construct .arguments) 2 = some arguments
  argument : a ∈ arguments.parts
  value : v ∈ a.parts
  list : v.kind = .construct .listLiteral

namespace Holds

variable {call arguments a v : Node}

/-- The arguments of a call are a child of it, or a child of a child. -/
theorem path (h : Holds call arguments a v) :
    arguments ∈ call.children ∨ ∃ c ∈ call.children, arguments ∈ c.children :=
  (Node.descendant?_two h.search).2

theorem mem_nodes (h : Holds call arguments a v) :
    arguments ∈ call.nodes ∧ a ∈ arguments.nodes ∧ v ∈ a.nodes := by
  refine ⟨?_, Node.child_mem_nodes (Node.mem_children_of_mem_parts h.argument),
    Node.child_mem_nodes (Node.mem_children_of_mem_parts h.value)⟩
  rcases h.path with child | ⟨c, child, grandchild⟩
  · exact Node.child_mem_nodes child
  · exact Node.mem_nodes_of_mem_children child (Node.child_mem_nodes grandchild)

theorem value_mem_nodes (h : Holds call arguments a v) : v ∈ call.nodes := by
  obtain ⟨inCall, inArguments, inArgument⟩ := h.mem_nodes
  exact Node.mem_nodes_trans (Node.mem_nodes_trans inArgument inArguments) inCall

/-- On the two levels that are searched for arguments children are grafted one by
one. -/
theorem levels (h : Holds call arguments a v) (spliced : Span.Spliced source other k d)
    (full : call.Full source.length) (splits : v.span.Splits k) :
    (call.graft k d new).children = call.children.map (Node.graft k d new) ∧
      ∀ c ∈ call.children, (c.graft k d new).children = c.children.map (Node.graft k d new) := by
  obtain ⟨inCall, inArguments, inArgument⟩ := h.mem_nodes
  have argumentsFull := full.of_mem_nodes inCall
  have isArgument := Node.mem_children_of_mem_parts h.argument
  have argumentSplits : a.span.Splits k :=
    splits.of_inside ((argumentsFull.child isArgument).nested.of_mem_nodes v inArgument).2
  have argumentsSplits : arguments.span.Splits k :=
    argumentSplits.of_inside (argumentsFull.nested.child_inside a isArgument)
  obtain ⟨p, hp, pSplits, grafted⟩ : ∃ p ∈ call.children, p.span.Splits k ∧
      (p.graft k d new).children = p.children.map (Node.graft k d new) := by
    rcases h.path with child | ⟨c, child, grandchild⟩
    · exact ⟨arguments, child, argumentsSplits,
        Node.children_graft_of_child d new argumentsFull.nested isArgument argumentSplits⟩
    · have cFull := full.child child
      exact ⟨c, child, argumentsSplits.of_inside (cFull.nested.child_inside _ grandchild),
        Node.children_graft_of_child d new cFull.nested grandchild argumentsSplits⟩
  refine ⟨Node.children_graft_of_child d new full.nested hp pSplits, fun c hc => ?_⟩
  by_cases same : c = p
  · rw [same, grafted]
  · obtain ⟨δ, moves⟩ := Node.moves_beside new spliced full hp pSplits hc same
    exact moves.children_graft (full.child hc)

/-- If the call is the one that an element is, its arguments are read with the list
changed. -/
theorem plainCall?_graft (h : Holds call arguments a v) {group : List Node}
    (hcall : call ∈ group) (spliced : Span.Spliced source other k d)
    (full : call.Full source.length) (splits : v.span.Splits k)
    (reread : listLiteralTo other depth' (v.graft k d new) = .ok changed)
    (low : call.height ≤ min depth depth' + 1) {name : Node} {arguments' : Node}
    {as : List NamedArgument} (plain : plainCall? group = some (name, arguments'))
    (read : namedArguments (listLiteralTo source depth) source arguments' = .ok as) :
    namedArguments (listLiteralTo other depth') other (arguments'.graft k d new)
      = .ok (as.map (NamedArgumentOf.stretch k d changed)) := by
  obtain ⟨call', rfl, nameKind, -, search⟩ := plainCall?_eq_some.1 plain
  obtain rfl : call = call' := by
    rcases List.mem_pair.1 hcall with rfl | rfl
    · rw [h.selector] at nameKind
      cases nameKind
    · rfl
  obtain rfl : arguments = arguments' := Option.some.inj (h.search.symm.trans search)
  have inCall := h.mem_nodes.1
  exact namedArguments_graft spliced (full.of_mem_nodes inCall) h.argument h.value h.list splits
    reread (Nat.le_trans (Node.height_le_of_mem_nodes inCall) low) read

end Holds

/-- Where the element is split that some nodes are, its place is the one of their
grafts. -/
theorem through_graft {first : Node} {rest : List Node} {e : ListElement}
    (span : e.span = first.span.through (rest.getLastD first).span) (splits : e.span.Splits k) :
    (first.graft k d new).span.through ((rest.getLastD first).graft k d new).span
      = ⟨e.span.start, e.span.stop + d⟩ := by
  rw [span] at splits ⊢
  have start : first.span.start < k := splits.1
  have stop : k < (rest.getLastD first).span.stop := splits.2
  rw [Node.span_graft, Node.span_graft, Span.through, Span.start_stretch start,
    Span.stop_stretch stop]
  rfl

/-- An element with the list on the path in one of its arguments. -/
theorem ReadsElement.graft {group : List Node} {e : ListElement} {call arguments a v : Node}
    (h : ReadsElement (listLiteralTo source depth) source group e)
    (spliced : Span.Spliced source other k d) (full : ∀ n ∈ group, n.Full source.length)
    (order : Span.Ordered (group.map Node.span)) (hcall : call ∈ group)
    (beside : ∀ n ∈ group, n ≠ call → ∃ δ, n.Moves source other k d new δ)
    (holds : Holds call arguments a v) (splits : v.span.Splits k)
    (reread : listLiteralTo other depth' (v.graft k d new) = .ok changed)
    (low : ∀ n ∈ group, n.height ≤ min depth depth' + 1) :
    ReadsElement (listLiteralTo other depth') other (group.map (Node.graft k d new))
      (ListElementOf.stretch k d changed e) := by
  have callFull := full call hcall
  have callSplits : call.span.Splits k :=
    splits.of_inside (callFull.nested.of_mem_nodes v holds.value_mem_nodes).2
  have levels : ∀ n ∈ group, n.kind = .construct .selector →
      (n.graft k d new).children = n.children.map (Node.graft k d new) ∧
        ∀ c ∈ n.children, (c.graft k d new).children = c.children.map (Node.graft k d new) := by
    intro n hn _
    by_cases same : n = call
    · subst same
      exact holds.levels spliced callFull splits
    · obtain ⟨δ, moves⟩ := beside n hn same
      refine ⟨moves.children_graft (full n hn), fun c hc => ?_⟩
      exact (moves.of_mem_nodes (full n hn) (Node.child_mem_nodes hc)).children_graft
        ((full n hn).child hc)
  have callee : ∀ n ∈ group, n.kind = .identifier →
      (n.graft k d new).span.text other = n.span.text source := by
    intro n hn kind
    have different : n ≠ call := by
      rintro rfl
      rw [holds.selector] at kind
      cases kind
    obtain ⟨δ, moves⟩ := beside n hn different
    exact moves.text (full n hn).nested
  obtain ⟨first, rest, shape, read⟩ := h.map (Node.keeps_graft k d new) levels callee
    fun _ _ _ =>
      holds.plainCall?_graft hcall spliced callFull splits reread (low call hcall)
  obtain ⟨first', rest', shape', span⟩ := h.span
  rw [shape] at shape'
  cases shape'
  subst shape
  have isSplit : e.span.Splits k := by
    rw [span]
    exact callSplits.of_inside (inside_through order (fun n hn => (full n hn).nested) hcall)
  rw [ListElementOf.stretch, Span.pick_of_splits isSplit, ← through_graft span isSplit]
  exact read

/-- The offset of the closing bracket of a list moves if a node inside of its
brackets is split. -/
theorem insideBrackets_graft {n call : Node} (full : n.Full source.length)
    (hcall : call ∈ (insideBrackets n).1) (splits : call.span.Splits k) :
    (insideBrackets (n.graft k d new)).2 = (insideBrackets n).2 + d := by
  obtain ⟨-, -, sub, inside⟩ := insideBrackets_inside full.nested
  have isChild := sub.subset hcall
  have children := Node.children_graft_of_child d new full.nested isChild splits
  have behind : k < (insideBrackets n).2 := Int.lt_of_lt_of_le splits.2 (inside call hcall).2.2
  rw [insideBrackets_snd] at behind
  rw [insideBrackets_map (Node.keeps_graft k d new) children, insideBrackets_snd]
  dsimp only
  cases found : n.children.reverse.find? (·.kind = .terminal .closeBracket) with
  | none =>
      rw [found] at behind
      simp only [Node.span_graft]
      exact Span.stop_stretch behind
  | some closing =>
      rw [found] at behind
      have hclosing := List.mem_reverse.1 (List.mem_of_find?_eq_some found)
      have wide := (full.child hclosing).wide.self
      simp only [Node.span_graft]
      rw [Span.stretch, Span.pick_of_le_start (Int.le_of_lt behind) (Int.lt_trans behind wide),
        Span.start_shift]

/-- The elements of a list with the list on the path in an argument of one of them. -/
theorem ReadsElement.graft_of_group {n call arguments a v : Node}
    (spliced : Span.Spliced source other k d) (full : n.Full source.length)
    (hcall : call ∈ (Node.commaGroups (insideBrackets n).1).groups.flatten)
    (holds : Holds call arguments a v) (splits : v.span.Splits k)
    (reread : listLiteralTo other depth' (v.graft k d new) = .ok changed)
    (low : n.height ≤ min depth depth' + 2) {group : List Node}
    (hgroup : group ∈ (Node.commaGroups (insideBrackets n).1).groups) {e : ListElement}
    (read : ReadsElement (listLiteralTo source depth) source group e) :
    ReadsElement (listLiteralTo other depth') other (group.map (Node.graft k d new))
      (ListElementOf.stretch k d changed e) := by
  have sub := (Node.sublist_flatten_commaGroups _).trans (insideBrackets_sublist n)
  have callChild := sub.subset hcall
  have isChild : ∀ c ∈ group, c ∈ n.children :=
    fun c hc => sub.subset (List.mem_flatten_of_mem hgroup hc)
  have callSplits : call.span.Splits k := splits.of_inside
    ((full.child callChild).nested.of_mem_nodes v holds.value_mem_nodes).2
  have order : Span.Ordered
      ((Node.commaGroups (insideBrackets n).1).groups.flatten.map Node.span) :=
    ordered_of_sublist full.nested.ordered sub
  have groupOrder : Span.Ordered (group.map Node.span) :=
    ordered_of_sublist order (List.sublist_flatten_of_mem hgroup)
  have groupFull : ∀ c ∈ group, c.Full source.length := fun c hc => full.child (isChild c hc)
  have lower : ∀ c ∈ group, c.height ≤ min depth depth' + 1 := by
    intro c hc
    have := Node.height_lt_of_mem_children (isChild c hc)
    omega
  rcases sides_of_mem_flatten order hgroup hcall with around | front | back
  · exact read.graft spliced groupFull groupOrder around
      (fun c hc => Node.moves_beside new spliced full callChild callSplits (isChild c hc)) holds
      splits reread lower
  · have stop : ∀ c ∈ group, c.span.stop ≤ k :=
      fun c hc => Int.le_trans (front c hc) (Int.le_of_lt callSplits.1)
    exact read.beside (δ := 0) groupFull groupOrder
      (fun c hc => Node.moves_of_stop_le new spliced (groupFull c hc) (stop c hc))
      (.inl ⟨rfl, stop⟩) lower
  · have start : ∀ c ∈ group, k ≤ c.span.start :=
      fun c hc => Int.le_trans (Int.le_of_lt callSplits.2) (back c hc)
    exact read.beside (δ := d) groupFull groupOrder
      (fun c hc => Node.moves_of_le_start new spliced (groupFull c hc) (start c hc))
      (.inr ⟨rfl, start⟩) lower

/-- A list with the list on the path in an argument of one of its elements. -/
theorem Reads.graft {n call arguments a v : Node} {l : ListLiteral}
    (spliced : Span.Spliced source other k d) (full : n.Full source.length)
    (hcall : call ∈ (Node.commaGroups (insideBrackets n).1).groups.flatten)
    (holds : Holds call arguments a v) (splits : v.span.Splits k)
    (reread : Reads other (v.graft k d new) changed) (read : Reads source n l) :
    Reads other (n.graft k d new)
      ⟨⟨l.span.start, l.span.stop + d⟩, l.rightBracket + d,
        l.elements.map (ListElementOf.stretch k d changed), l.hasTrailingComma⟩ := by
  intro depth low
  have heights : n.height ≤ (n.graft k d new).height := Node.height_le_graft k d new n
  have heightPos := n.height_pos
  obtain ⟨depth, rfl⟩ := Node.exists_succ_of_height_le low
  have inside := (Node.sublist_flatten_commaGroups _).subset hcall
  have callChild := (insideBrackets_sublist n).subset inside
  have callFull := full.child callChild
  have callSplits : call.span.Splits k :=
    splits.of_inside (callFull.nested.of_mem_nodes v holds.value_mem_nodes).2
  have children := Node.children_graft_of_child d new full.nested callChild callSplits
  have inner : listLiteralTo other depth (v.graft k d new) = .ok changed := by
    have grafted : call.graft k d new ∈ (n.graft k d new).children :=
      children ▸ List.mem_map_of_mem callChild
    have lower := Node.height_lt_of_mem_children grafted
    have inCall := Node.height_le_of_mem_nodes
      (Node.graft_mem_nodes d new callFull.nested splits holds.value_mem_nodes)
    exact reread depth (by omega)
  have read := read (n.height - 1 + 1) (by omega)
  rw [listLiteralTo] at read ⊢
  obtain ⟨span, bracket, -, -⟩ := listLiteralWith_eq_ok.1 read
  have isSplit : l.span.Splits k := span ▸ callSplits.of_inside
    (full.nested.child_inside call callChild)
  rw [listLiteralWith_map (Node.keeps_graft k d new) children
      (fun group hgroup e => ReadsElement.graft_of_group spliced full hcall holds splits inner
        (by omega) hgroup) read,
    insideBrackets_graft full inside callSplits, bracket, Node.span_graft, span, Span.stretch,
    Span.pick_of_splits (span ▸ isSplit)]

end Outline

end RouteGraft
