import RouteGraft.Proofs.Reader
import RouteGraft.Proofs.Shapes

/-!
# Outlines are well nested

Every offset at which a source is changed is taken from its outline, so what an
outline says of places has to be sound.  All that is known of a syntax tree is
that it is nested.  The outline that is read off it is then *well nested* as
well: classes follow one another in the source, the closing brace of a class and
the lists that its members return lie inside of the class, and in a list, at any
depth, the elements stand in order in front of the closing bracket, the
arguments of an element in order inside of the element, and a list that is the
value of an argument inside of that argument.

An element has no node of its own.  It goes from the first node of its group to
the last one (`through_inside`), and as the groups are nodes of the list in order,
the elements are in order too (`elements_ordered`).

Lists are taken care of by induction on the depth down to which they are read.
One level is `listLiteralWith_wellNested`, whose hypothesis is that the inner lists
are read soundly.
-/

namespace RouteGraft

open Dart (Node Kind Field)

/-! ## Well-nested outlines -/

/-- An element whose arguments stand in order inside of it, and the lists among
their values inside of them. -/
structure ListElementOf.Nested (e : ListElement) : Prop where
  ordered : Span.Ordered (e.namedArguments.map (·.span))
  inside : ∀ a ∈ e.namedArguments, a.span.Inside e.span
  value_inside : ∀ a ∈ e.namedArguments, ∀ l, a.value = some l → l.span.Inside a.span

/-- A list whose elements stand in order between its start and its closing
bracket. -/
structure ListLiteral.Nested (l : ListLiteral) : Prop where
  start_le_bracket : l.span.start ≤ l.rightBracket
  bracket_le_stop : l.rightBracket ≤ l.span.stop
  ordered : Span.Ordered (l.elements.map (·.span))
  inside : ∀ e ∈ l.elements, e.span.Inside ⟨l.span.start, l.rightBracket⟩
  elements : ∀ e ∈ l.elements, e.Nested

/-- A list that is nested, with all lists in it, at any depth. -/
inductive ListLiteral.WellNested : ListLiteral → Prop
  | mk {l : ListLiteral} :
      l.Nested → (∀ e ∈ l.elements, ∀ a ∈ e.namedArguments, ∀ v, a.value = some v →
        WellNested v) → WellNested l

/-- The lists that the members of a class return, in order. -/
def ClassOutline.returnedLists (c : ClassOutline) : List ListLiteral :=
  c.members.filterMap (·.returnedList)

/-- A class whose closing brace and returned lists lie inside of it. -/
structure ClassOutline.WellNested (c : ClassOutline) : Prop where
  start_le_brace : c.span.start ≤ c.closingBrace
  brace_le_stop : c.closingBrace ≤ c.span.stop
  ordered : Span.Ordered (c.returnedLists.map (·.span))
  inside : ∀ l ∈ c.returnedLists, l.span.Inside c.span
  lists : ∀ l ∈ c.returnedLists, l.WellNested

/-- An outline whose classes stand in order inside of a source of some length. -/
structure Outline.WellNested (o : Outline) (length : Nat) : Prop where
  ordered : Span.Ordered (o.classes.map (·.span))
  inside : ∀ c ∈ o.classes, c.span.Inside ⟨0, length⟩
  classes : ∀ c ∈ o.classes, c.WellNested

namespace Outline

variable {list : Node → Reading ListLiteral} {source : Bytes}

/-! ## Nodes in order -/

/-- Nodes that are in order stay so if some are left out. -/
theorem ordered_of_sublist {ns ms : List Node} (h : Span.Ordered (ms.map Node.span))
    (sub : ns.Sublist ms) : Span.Ordered (ns.map Node.span) :=
  List.Pairwise.sublist (sub.map Node.span) h

/-- What goes from the first to the last of some nodes in order lies inside of
everything that all of them lie inside of. -/
theorem through_inside {first : Node} {rest : List Node} {outer : Span}
    (order : Span.Ordered ((first :: rest).map Node.span))
    (inside : ∀ n ∈ first :: rest, n.span.Inside outer) :
    (first.span.through (rest.getLastD first).span).Inside outer := by
  have start := inside first List.mem_cons_self
  cases rest with
  | nil => exact start
  | cons n rest =>
      have isLast : (n :: rest).getLastD first ∈ n :: rest := by
        rw [List.getLastD_eq_getLast?, List.getLast?_eq_some_getLast (List.cons_ne_nil n rest)]
        exact List.getLast_mem _
      have stop := inside _ (List.mem_cons_of_mem first isLast)
      have apart : first.span.Before ((n :: rest).getLastD first).span :=
        (List.pairwise_cons.1 order).1 _ (List.mem_map_of_mem isLast)
      unfold Span.Inside Span.Before Span.through at *
      refine ⟨?_, ?_, ?_⟩ <;> dsimp only <;> omega

/-! ## Elements -/

/-- The first and the last node of an element, by which its place is given. -/
theorem ReadsElement.ends {group : List Node} {e : ListElement}
    (h : ReadsElement list source group e) :
    ∃ first ∈ group, ∃ last ∈ group, e.span = first.span.through last.span := by
  obtain ⟨first, rest, shape, place⟩ := h.span
  subst shape
  refine ⟨first, List.mem_cons_self, _, ?_, place⟩
  rw [List.getLastD_eq_getLast?]
  cases rest with
  | nil => exact List.mem_singleton_self first
  | cons n rest =>
      rw [List.getLast?_eq_some_getLast (List.cons_ne_nil n rest)]
      exact List.mem_cons_of_mem first (List.getLast_mem _)

/-- Elements that are read from groups of nodes in order are in order. -/
theorem elements_ordered {groups : List (List Node)} {es : List ListElement}
    (order : Span.Ordered (groups.flatten.map Node.span))
    (read : List.Forall₂ (ReadsElement list source) groups es) :
    Span.Ordered (es.map (·.span)) := by
  induction read with
  | nil => exact List.Pairwise.nil
  | @cons g e groups es first rest ih =>
      rw [List.flatten_cons, List.map_append] at order
      obtain ⟨-, later, across⟩ := List.pairwise_append.1 order
      refine List.pairwise_cons.2 ⟨fun s hs => ?_, ih later⟩
      obtain ⟨e', he', rfl⟩ := List.mem_map.1 hs
      obtain ⟨g', hg', read'⟩ := exists_left_of_mem rest he'
      obtain ⟨_, _, last, hlast, span⟩ := first.ends
      obtain ⟨first', hfirst', _, _, span'⟩ := read'.ends
      dsimp only
      rw [span, span']
      exact across last.span (List.mem_map_of_mem hlast) first'.span
        (List.mem_map_of_mem (List.mem_flatten_of_mem hg' hfirst'))

/-- The arguments of an element were read from nodes of a nested node that lies
inside of the element. -/
theorem ReadsElement.argumentNodes {group : List Node} {e : ListElement}
    (h : ReadsElement list source group e) (nested : ∀ n ∈ group, n.Nested)
    (order : Span.Ordered (group.map Node.span)) :
    ∃ kept, Span.Ordered (kept.map Node.span) ∧
      (∀ n ∈ kept, n.Nested ∧ n.span.Inside e.span) ∧
      List.Forall₂ (fun n a => namedArgument? list source n = .ok (some a)) kept
        e.namedArguments := by
  rcases h.arguments with none | ⟨name, call, arguments, rfl, search, read⟩
  · exact ⟨[], List.Pairwise.nil, fun _ hn => absurd hn List.not_mem_nil, none ▸ .nil⟩
  · have isNode : arguments ∈ call.nodes := Node.mem_nodes_of_descendant? search
    have callNested := nested call (by simp)
    obtain ⟨argumentsNested, within⟩ := callNested.of_mem_nodes _ isNode
    obtain ⟨kept, parts, related⟩ := namedArguments_eq_ok read
    have sub : kept.Sublist arguments.children := parts.trans List.filter_sublist
    refine ⟨kept, ordered_of_sublist argumentsNested.ordered sub, fun n hn => ?_, related⟩
    refine ⟨argumentsNested.child n (sub.subset hn), ?_⟩
    have callInside : call.span.Inside e.span := by
      obtain ⟨_, _, ⟨⟩, span⟩ := h.span
      have apart : name.span.Before call.span := by simpa [Span.Ordered] using order
      have nameWide := (nested name (by simp)).start_le_stop
      have callWide := callNested.start_le_stop
      rw [span]
      unfold Span.Inside Span.Before Span.through at *
      exact ⟨by dsimp only; omega, callWide, Int.le_refl _⟩
    exact ((argumentsNested.child_inside n (sub.subset hn)).trans within).trans callInside

/-- The value of an argument was read from a node inside of it. -/
theorem argumentValue_node {argument : Node} {a : NamedArgument} {v : ListLiteral}
    (nested : argument.Nested) (read : namedArgument? list source argument = .ok (some a))
    (value : a.value = some v) :
    ∃ n, n.Nested ∧ n.span.Inside a.span ∧ list n = .ok v := by
  obtain ⟨span, read⟩ := namedArgument?_eq_some read
  rw [value] at read
  obtain ⟨n, isPart, -, read⟩ := argumentValue_eq_some read
  have child := Node.mem_children_of_mem_parts isPart
  exact ⟨n, nested.child n child, span ▸ nested.child_inside n child, read⟩

/-! ## Lists -/

/-- A reader of lists that keeps their places and reads well-nested ones. -/
def Sound (list : Node → Reading ListLiteral) : Prop :=
  ∀ n l, n.Nested → list n = .ok l → l.span = n.span ∧ l.WellNested

/-- The nodes inside of the brackets of a list stand in order between its start
and its closing bracket. -/
theorem insideBrackets_inside {n : Node} (nested : n.Nested) :
    n.span.start ≤ (insideBrackets n).2 ∧ (insideBrackets n).2 ≤ n.span.stop ∧
      (insideBrackets n).1.Sublist n.children ∧
      ∀ c ∈ (insideBrackets n).1, c.span.Inside ⟨n.span.start, (insideBrackets n).2⟩ := by
  rcases insideBrackets_cases n with ⟨sub, stop⟩ | ⟨front, closing, back, shape, -, sub, stop⟩
  · rw [stop]
    exact ⟨nested.start_le_stop, Int.le_refl _, sub,
      fun c hc => nested.child_inside c (sub.subset hc)⟩
  · have isChild : closing ∈ n.children := by simp [shape]
    have inFront : front.Sublist n.children := by
      rw [shape]
      exact List.sublist_append_left front _
    have order := nested.ordered
    rw [shape, List.map_append] at order
    obtain ⟨-, -, across⟩ := List.pairwise_append.1 order
    have closingInside := nested.child_inside closing isChild
    rw [stop]
    refine ⟨closingInside.1, Int.le_trans closingInside.2.1 closingInside.2.2, sub.trans inFront,
      fun c hc => ?_⟩
    have apart : c.span.Before closing.span :=
      across _ (List.mem_map_of_mem (sub.subset hc)) _ (by simp)
    have inside := nested.child_inside c (inFront.subset (sub.subset hc))
    exact ⟨inside.1, inside.2.1, apart⟩

/-- One level of lists is well nested if the lists in it are. -/
theorem listLiteralWith_wellNested (sound : Sound list) :
    Sound (listLiteralWith list source) := by
  intro n l nested read
  obtain ⟨span, bracket, -, related⟩ := listLiteralWith_eq_ok.1 read
  obtain ⟨start, stop, sub, inside⟩ := insideBrackets_inside nested
  rw [← bracket] at start stop inside
  have groupsSub := Node.sublist_flatten_commaGroups (insideBrackets n).1
  have order := ordered_of_sublist (ordered_of_sublist nested.ordered sub) groupsSub
  have elementOf : ∀ e ∈ l.elements, ∃ g, ReadsElement list source g e ∧
      g.Sublist (insideBrackets n).1 ∧ Span.Ordered (g.map Node.span) := by
    intro e he
    obtain ⟨g, hg, read⟩ := exists_left_of_mem related he
    have gSub := List.sublist_flatten_of_mem hg
    exact ⟨g, read, gSub.trans groupsSub, ordered_of_sublist order gSub⟩
  refine ⟨span, .mk ⟨span ▸ start, span ▸ stop, elements_ordered order related, ?_, ?_⟩ ?_⟩
  · intro e he
    obtain ⟨g, read, gSub, gOrder⟩ := elementOf e he
    obtain ⟨first, rest, rfl, eSpan⟩ := read.span
    rw [eSpan, span]
    exact through_inside gOrder fun c hc => inside c (gSub.subset hc)
  · intro e he
    obtain ⟨g, read, gSub, gOrder⟩ := elementOf e he
    have gNested : ∀ c ∈ g, c.Nested := fun c hc => nested.child c (sub.subset (gSub.subset hc))
    obtain ⟨kept, keptOrder, keptInside, args⟩ := read.argumentNodes gNested gOrder
    have spans : kept.map Node.span = e.namedArguments.map (·.span) :=
      map_eq_map_of_forall₂ args fun c a read => (namedArgument?_eq_some read).1.symm
    refine ⟨spans ▸ keptOrder, fun a ha => ?_, fun a ha v value => ?_⟩
    · obtain ⟨c, hc, read⟩ := exists_left_of_mem args ha
      exact (namedArgument?_eq_some read).1 ▸ (keptInside c hc).2
    · obtain ⟨c, hc, read⟩ := exists_left_of_mem args ha
      obtain ⟨m, mNested, mInside, read⟩ := argumentValue_node (keptInside c hc).1 read value
      exact (sound m v mNested read).1 ▸ mInside
  · intro e he a ha v value
    obtain ⟨g, read, gSub, gOrder⟩ := elementOf e he
    have gNested : ∀ c ∈ g, c.Nested := fun c hc => nested.child c (sub.subset (gSub.subset hc))
    obtain ⟨kept, -, keptInside, args⟩ := read.argumentNodes gNested gOrder
    obtain ⟨c, hc, read⟩ := exists_left_of_mem args ha
    obtain ⟨m, mNested, -, read⟩ := argumentValue_node (keptInside c hc).1 read value
    exact (sound m v mNested read).2

/-- A list below the last level is well nested: it has no elements. -/
theorem listLiteralTo_zero_wellNested : Sound (listLiteralTo source 0) := by
  intro n l nested read
  rw [listLiteralTo] at read
  cases read
  refine ⟨rfl, .mk ⟨nested.start_le_stop, Int.le_refl _, List.Pairwise.nil, ?_, ?_⟩ ?_⟩
  · exact fun e he => absurd he List.not_mem_nil
  · exact fun e he => absurd he List.not_mem_nil
  · exact fun e he => absurd he List.not_mem_nil

theorem listLiteralTo_wellNested (depth : Nat) : Sound (listLiteralTo source depth) := by
  induction depth with
  | zero => exact listLiteralTo_zero_wellNested
  | succ depth ih => exact listLiteralWith_wellNested ih

/-! ## Classes -/

/-- A list that a member returns lies inside of its body. -/
theorem ReadsReturned.wellNested {body : Node} {l : ListLiteral}
    (h : ReadsReturned source body l) (nested : body.Nested) :
    l.span.Inside body.span ∧ l.WellNested := by
  obtain ⟨-, e, parts, -, read⟩ := h
  have child : e ∈ body.children :=
    Node.mem_children_of_mem_parts (parts ▸ List.mem_singleton_self e)
  obtain ⟨span, wellNested⟩ := listLiteralTo_wellNested e.height e l (nested.child e child) read
  exact ⟨span ▸ nested.child_inside e child, wellNested⟩

/-- The closing brace of a class body lies inside of it. -/
theorem closingBrace_inside {body : Node} (nested : body.Nested) :
    body.span.start ≤ closingBrace body ∧ closingBrace body ≤ body.span.stop := by
  unfold closingBrace
  split
  · next brace found =>
      have inside := nested.child_inside brace
        (List.mem_reverse.1 (List.mem_of_find?_eq_some found))
      exact ⟨inside.1, Int.le_trans inside.2.1 inside.2.2⟩
  · exact ⟨nested.start_le_stop, Int.le_refl _⟩

/-- A class that is read from a nested node has its place and is well nested. -/
theorem classOutline?_wellNested {n : Node} {c : ClassOutline} (nested : n.Nested)
    (read : classOutline? source n = .ok (some c)) : c.span = n.span ∧ c.WellNested := by
  obtain ⟨body, -, -, hbody, -, -, -, -, members, span, -, -, brace⟩ :=
    classOutline?_eq_some.1 read
  have isChild : body ∈ n.children := (Node.fieldOrChild?_eq_some hbody).1
  have bodyNested := nested.child body isChild
  have bodyInside := nested.child_inside body isChild
  obtain ⟨bodies, sub, related⟩ := membersFrom_returned members
  have inside : List.Forall₂ Span.Inside (c.returnedLists.map (·.span)) (bodies.map Node.span) :=
    forall₂_map_of_mem related.flip fun _ _ b hb (read : ReadsReturned source b _) =>
      (read.wellNested (bodyNested.child b (sub.subset hb))).1
  have listOf : ∀ l ∈ c.returnedLists, l.span.Inside c.span ∧ l.WellNested := by
    intro l hl
    obtain ⟨b, hb, read⟩ := exists_left_of_mem related hl
    have isChild := sub.subset hb
    obtain ⟨lInside, wellNested⟩ := read.wellNested (bodyNested.child b isChild)
    rw [span]
    exact ⟨(lInside.trans (bodyNested.child_inside b isChild)).trans bodyInside, wellNested⟩
  obtain ⟨braceStart, braceStop⟩ := closingBrace_inside bodyNested
  refine ⟨span, ?_, ?_, ?_, fun l hl => (listOf l hl).1, fun l hl => (listOf l hl).2⟩
  · rw [span, brace]
    exact Int.le_trans bodyInside.1 braceStart
  · rw [span, brace]
    exact Int.le_trans braceStop bodyInside.2.2
  · exact Span.Ordered.of_inside (ordered_of_sublist bodyNested.ordered sub) inside

/-! ## Outlines -/

/-- A class in the outline of a well-nested tree is well nested and lies inside of the
source. -/
theorem class_wellNested {root : Node} {o : Outline} {c : ClassOutline}
    (tree : root.WellNested source.length) (read : ofTree source root = .ok o)
    (hc : c ∈ o.classes) : c.WellNested ∧ c.span.Inside ⟨0, source.length⟩ := by
  obtain ⟨kept, sub, related⟩ := ofTree_eq_ok read
  obtain ⟨n, hn, read⟩ := exists_left_of_mem related hc
  have isChild := (sub.trans List.filter_sublist).subset hn
  obtain ⟨span, wellNested⟩ := classOutline?_wellNested (tree.nested.child n isChild) read
  exact ⟨wellNested, span ▸ (tree.nested.child_inside n isChild).trans tree.inside⟩

/-- The outline that is read off a well-nested tree is well nested. -/
theorem ofTree_wellNested {root : Node} {o : Outline} (tree : root.WellNested source.length)
    (read : ofTree source root = .ok o) : o.WellNested source.length := by
  obtain ⟨kept, sub, related⟩ := ofTree_eq_ok read
  have sub : kept.Sublist root.children := sub.trans List.filter_sublist
  have spans : kept.map Node.span = o.classes.map (·.span) := by
    refine map_eq_map_of_forall₂ related fun n c read => ?_
    obtain ⟨_, _, _, _, _, _, _, _, _, span, _⟩ := classOutline?_eq_some.1 read
    exact span.symm
  exact ⟨spans ▸ ordered_of_sublist tree.nested.ordered sub,
    fun c hc => (class_wellNested tree read hc).2, fun c hc => (class_wellNested tree read hc).1⟩

/-- The tree of a mapper with a list inside of a list. -/
def innerListTree : Node :=
  Node.mapperTree (Node.bracketed 44 56 44 []
    [Node.plainName 45 46, Node.callArguments 46 55
      [Node.argument 47 49 (Node.bracketed 49 54 49 []
        [Node.plainName 50 51, Node.callArguments 51 53 []])]])

theorem ofTree_wellNested_innerList :
    innerListTree.WellNested (mapperSource "[A(b:[C()])]").length ∧
      ∃ o, ofTree (mapperSource "[A(b:[C()])]") innerListTree = .ok o ∧
        o.WellNested (mapperSource "[A(b:[C()])]").length := by
  have tree : innerListTree.WellNested (mapperSource "[A(b:[C()])]").length :=
    Node.wellNested_of_isWellNested (by decide)
  exact ⟨tree, _, rfl, ofTree_wellNested tree rfl⟩

end Outline

end RouteGraft
