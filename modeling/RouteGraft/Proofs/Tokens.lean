import RouteGraft.Proofs.Comments

/-!
# Tokens

A tree without its comments is known by its nodes and by its *tokens*, which are what is left
of the leaves: the nodes that consist of nothing but comments, from left to right.  Between two
tokens there is a gap with blanks, and maybe comments.

Two trees *coincide* but for comments if they are alike, their tokens say the same and the
blanks between their tokens are the same (`Node.Coincide`).  Their comments are taken out of
the gaps byte by byte, so nothing is asked of the places of comments.

A row of nodes of one of these trees then says the same as the row in its place in the other
one, without the comments (`Node.Matched.bytesOutside_through`), since it has the same tokens of
the tree in it.  This takes trees in which a node starts with a token and ends with one
(`Node.Tight`), or else the blanks at its ends would not be between its tokens.
-/

namespace RouteGraft

/-! ## Bytes outside of some spans -/

namespace Span

/-- A span that does not reach into another one. -/
def Apart (a b : Span) : Prop := a.Before b ∨ b.Before a

instance : DecidableRel Apart := fun a b => inferInstanceAs (Decidable (a.Before b ∨ b.Before a))

/-- The offsets of the bytes in a span. -/
def offsets (s : Span) : List Nat := List.range' s.start.toNat (s.stop.toNat - s.start.toNat)

/-- Whether the byte at an offset is in a span. -/
def covers (s : Span) (k : Nat) : Bool := decide (s.start ≤ k ∧ k < s.stop)

/-- The bytes of a source that are in a span, but in none of some others. -/
def bytesOutside (holes : List Span) (source : Bytes) (s : Span) : Bytes :=
  (s.offsets.filter fun k => !holes.any (·.covers k)).filterMap (source[·]?)

theorem bytes_eq_filterMap_offsets (source : Bytes) (s : Span) :
    s.bytes source = s.offsets.filterMap (source[·]?) := by
  unfold bytes offsets
  generalize s.stop.toNat - s.start.toNat = n
  generalize s.start.toNat = k
  induction n generalizing k with
  | zero => rfl
  | succ n ih =>
      rw [List.range'_succ, List.filterMap_cons, ← ih (k + 1)]
      cases byte : source[k]? with
      | none =>
          rw [List.getElem?_eq_none_iff] at byte
          rw [List.drop_eq_nil_of_le byte, List.drop_eq_nil_of_le (Nat.le_succ_of_le byte),
            List.take_nil, List.take_nil]
      | some b =>
          obtain ⟨small, here⟩ := List.getElem?_eq_some_iff.1 byte
          rw [List.drop_eq_getElem_cons small, here, List.take_succ_cons]

theorem offsets_append {a b c : Int} (first : a ≤ b) (second : b ≤ c) :
    offsets ⟨a, b⟩ ++ offsets ⟨b, c⟩ = offsets ⟨a, c⟩ := by
  have first := Int.toNat_le_toNat first
  have second := Int.toNat_le_toNat second
  have joined := @List.range'_append_1 a.toNat (b.toNat - a.toNat) (c.toNat - b.toNat)
  rw [Nat.add_sub_cancel' first, Nat.add_comm, Nat.sub_add_sub_cancel second first] at joined
  exact joined

/-- What is outside in two spans side by side is what is outside in both of them together. -/
theorem bytesOutside_append (holes : List Span) (source : Bytes) {a b c : Int} (first : a ≤ b)
    (second : b ≤ c) :
    bytesOutside holes source ⟨a, c⟩
      = bytesOutside holes source ⟨a, b⟩ ++ bytesOutside holes source ⟨b, c⟩ := by
  rw [bytesOutside, ← offsets_append first second, List.filter_append, List.filterMap_append]
  rfl

theorem bytesOutside_of_apart {holes : List Span} {s : Span}
    (apart : ∀ hole ∈ holes, hole.Apart s) (source : Bytes) :
    s.bytesOutside holes source = s.bytes source := by
  rw [bytes_eq_filterMap_offsets, bytesOutside, List.filter_eq_self.2]
  intro k hk
  have inside : s.start ≤ k ∧ k < s.stop := by
    have := List.mem_range'_1.1 hk
    omega
  simp only [covers, Bool.not_eq_true', List.any_eq_false, decide_eq_true_eq]
  intro hole hhole
  have := apart hole hhole
  unfold Apart Before at this
  omega

/-! ## Spans in a row -/

/-- The gaps between spans in a row. -/
def gaps (spans : List Span) : List Span :=
  List.zipWith (fun a b => ⟨a.stop, b.start⟩) spans spans.tail

theorem gaps_infix (front row back : List Span) :
    gaps row = ((gaps (front ++ (row ++ back))).drop front.length).take (row.length - 1) := by
  rw [gaps, gaps, List.drop_zipWith, List.take_zipWith, List.drop_tail, ← List.tail_drop,
    List.drop_left]
  cases row with
  | nil => rfl
  | cons s rest =>
      have whole : (s :: rest).take rest.length = (s :: (rest ++ back)).take rest.length := by
        rw [← List.cons_append, List.take_append_of_le_length (Nat.le_succ _)]
      rw [List.zipWith_eq_zipWith_take_min]
      simp [whole]

/-- Spans that go forward and stand in order. -/
structure Row (spans : List Span) : Prop where
  ordered : Ordered spans
  forward : ∀ s ∈ spans, s.start ≤ s.stop

theorem Row.tail {s : Span} {rest : List Span} (h : Row (s :: rest)) : Row rest :=
  ⟨(List.pairwise_cons.1 h.ordered).2, fun t ht => h.forward t (List.mem_cons_of_mem s ht)⟩

theorem Row.start_le_stop {s : Span} {rest : List Span} (h : Row (s :: rest)) :
    s.start ≤ (rest.getLastD s).stop := by
  have first := h.forward s List.mem_cons_self
  have last := h.forward _ (List.getLastD_mem_cons (l := rest) (a := s))
  rcases List.mem_cons.1 (List.getLastD_mem_cons (l := rest) (a := s)) with same | later
  · rw [same]
    exact first
  · have apart := (List.pairwise_cons.1 h.ordered).1 _ later
    unfold Before at apart
    omega

/-- Rows that say the same, with the same in their gaps, say the same as a whole. -/
theorem bytesOutside_through {holes holes' : List Span} {source other : Bytes} {s s' : Span}
    {rest rest' : List Span} (row : Row (s :: rest)) (row' : Row (s' :: rest'))
    (words : (s :: rest).map (bytesOutside holes source)
      = (s' :: rest').map (bytesOutside holes' other))
    (blanks : (gaps (s :: rest)).map (bytesOutside holes source)
      = (gaps (s' :: rest')).map (bytesOutside holes' other)) :
    (s.through (rest.getLastD s)).bytesOutside holes source
      = (s'.through (rest'.getLastD s')).bytesOutside holes' other := by
  induction rest generalizing s s' rest' with
  | nil =>
      cases rest' with
      | nil => exact (List.cons.inj words).1
      | cons t' rest' => cases (List.cons.inj words).2
  | cons t rest ih =>
      cases rest' with
      | nil => cases (List.cons.inj words).2
      | cons t' rest' =>
          obtain ⟨word, words⟩ := List.cons.inj words
          obtain ⟨blank, blanks⟩ := List.cons.inj blanks
          have later := ih row.tail row'.tail words blanks
          -- the first span, the gap behind it, and all that follows
          have cut (holes : List Span) (source : Bytes) {s t : Span} {rest : List Span}
              (row : Row (s :: t :: rest)) :
              (s.through ((t :: rest).getLastD s)).bytesOutside holes source
                = s.bytesOutside holes source ++ (bytesOutside holes source ⟨s.stop, t.start⟩
                  ++ (t.through (rest.getLastD t)).bytesOutside holes source) := by
            have gap : s.stop ≤ t.start :=
              (List.pairwise_cons.1 row.ordered).1 t List.mem_cons_self
            have forward := row.forward s List.mem_cons_self
            have last := row.tail.start_le_stop
            rw [List.getLastD_cons, through, through,
              bytesOutside_append holes source forward (Int.le_trans gap last),
              bytesOutside_append holes source gap last]
          rw [cut holes source row, cut holes' other row', word, blank, later]

end Span

namespace Dart.Node

/-! ## The tokens of a tree -/

/-- The tokens of a tree, from left to right.  A node in which there are only comments is a
token itself. -/
def tokens : Node → List Node
  | mk k n f s cs =>
      match tokensOf cs with
      | [] => [mk k n f s cs]
      | t :: ts => t :: ts
where
  /-- The tokens of some trees, of which comments have none. -/
  tokensOf : List Node → List Node
    | [] => []
    | c :: rest => if c.isComment then tokensOf rest else c.tokens ++ tokensOf rest

variable {source other : Bytes} {n n' root root' : Node}

theorem tokensOf_eq (cs : List Node) :
    tokens.tokensOf cs = (cs.filter fun c => !c.isComment).flatMap tokens := by
  induction cs with
  | nil => rfl
  | cons c rest ih =>
      rw [tokens.tokensOf, ih]
      cases comment : c.isComment with
      | true => simp [comment]
      | false => simp [comment]

theorem tokens_ne_nil (n : Node) : n.tokens ≠ [] := by
  cases n
  rw [tokens]
  split
  · exact List.cons_ne_nil _ _
  · exact List.cons_ne_nil _ _

theorem tokens_of_content_eq_nil (h : n.content = []) : n.tokens = [n] := by
  cases n
  rw [content, children_mk] at h
  rw [tokens, tokensOf_eq, h, List.flatMap_nil]

theorem tokens_of_content_ne_nil (h : n.content ≠ []) : n.tokens = n.content.flatMap tokens := by
  cases n
  rw [content, children_mk] at h ⊢
  rw [tokens, tokensOf_eq]
  split
  · next none =>
      obtain ⟨c, hc⟩ := List.exists_mem_of_ne_nil _ h
      exact absurd (List.flatMap_eq_nil_iff.1 none c hc) c.tokens_ne_nil
  · next shape => exact shape.symm

theorem mem_nodes_of_mem_tokens {t : Node} : t ∈ n.tokens → t ∈ n.nodes := by
  induction n using induct with
  | mk kind named field span children ih =>
      intro ht
      by_cases leaf : (mk kind named field span children).content = []
      · rw [tokens_of_content_eq_nil leaf, List.mem_singleton] at ht
        exact ht ▸ self_mem_nodes _
      · rw [tokens_of_content_ne_nil leaf] at ht
        obtain ⟨c, hc, ht⟩ := List.mem_flatMap.1 ht
        have isChild := List.mem_of_mem_filter hc
        exact mem_nodes_of_mem_children isChild (ih c isChild ht)

/-- The tokens of a nested tree stand in a row. -/
theorem row_tokens (nested : n.Nested) : Span.Row (n.tokens.map span) := by
  refine ⟨?_, fun s hs => ?_⟩
  · induction nested with
    | @mk kind named field span children le inside order below ih =>
        by_cases leaf : (mk kind named field span children).content = []
        · rw [tokens_of_content_eq_nil leaf]
          exact List.pairwise_singleton _ _
        · have kept : (mk kind named field span children).content.Sublist children :=
            List.filter_sublist
          have order := List.Pairwise.sublist (kept.map Node.span) order
          rw [tokens_of_content_ne_nil leaf, Span.Ordered, List.pairwise_map,
            List.pairwise_flatMap]
          rw [List.pairwise_map] at order
          refine ⟨fun c hc => List.pairwise_map.1 (ih c (kept.subset hc)), ?_⟩
          refine order.imp_of_mem fun {c d} hc hd apart t ht u hu => ?_
          -- tokens lie inside of the children they are of
          have first := ((below c (kept.subset hc)).of_mem_nodes t (mem_nodes_of_mem_tokens ht)).2
          have second := ((below d (kept.subset hd)).of_mem_nodes u (mem_nodes_of_mem_tokens hu)).2
          unfold Span.Before Span.Inside at *
          omega
  · obtain ⟨t, ht, rfl⟩ := List.mem_map.1 hs
    exact (nested.of_mem_nodes t (mem_nodes_of_mem_tokens ht)).1.start_le_stop

/-- A node that starts where the first of the nodes it consists of does, and ends where the last
one does, comments aside. -/
def Tight (n : Node) : Prop :=
  (∀ c ∈ n.content.head?, c.span.start = n.span.start) ∧
    ∀ c ∈ n.content.getLast?, c.span.stop = n.span.stop

instance : DecidablePred Tight := fun _ => inferInstanceAs (Decidable (_ ∧ _))

/-- The first token of some nodes is that of the first one. -/
theorem head?_tokens {ns : List Node} {c : Node} (h : ns.head? = some c) :
    (ns.flatMap tokens).head? = c.tokens.head? := by
  obtain ⟨rest, rfl⟩ := List.head?_eq_some_iff.1 h
  rw [List.flatMap_cons, List.head?_append_of_ne_nil _ c.tokens_ne_nil]

theorem getLast?_tokens {ns : List Node} {c : Node} (h : ns.getLast? = some c) :
    (ns.flatMap tokens).getLast? = c.tokens.getLast? := by
  obtain ⟨front, rfl⟩ := List.getLast?_eq_some_iff.1 h
  rw [List.flatMap_append, List.flatMap_cons, List.flatMap_nil, List.append_nil,
    List.getLast?_append_of_ne_nil _ c.tokens_ne_nil]

/-- Where nodes are tight they start with a token and end with one. -/
theorem ends_tokens (tight : ∀ m ∈ n.nodes, m.Tight) :
    (∃ t, n.tokens.head? = some t ∧ t.span.start = n.span.start) ∧
      ∃ t, n.tokens.getLast? = some t ∧ t.span.stop = n.span.stop := by
  induction n using induct with
  | mk kind named field span children ih =>
      by_cases leaf : (mk kind named field span children).content = []
      · rw [tokens_of_content_eq_nil leaf]
        exact ⟨⟨_, rfl, rfl⟩, ⟨_, rfl, rfl⟩⟩
      · obtain ⟨start, stop⟩ := tight _ (self_mem_nodes _)
        have below (c : Node) (hc : c ∈ (mk kind named field span children).content) :=
          ih c (List.mem_of_mem_filter hc) fun m hm =>
            tight m (mem_nodes_of_mem_children (List.mem_of_mem_filter hc) hm)
        rw [tokens_of_content_ne_nil leaf]
        constructor
        · have first := List.head?_eq_some_head leaf
          obtain ⟨t, head, same⟩ := (below _ (List.mem_of_head? first)).1
          exact ⟨t, (head?_tokens first).trans head, same.trans (start _ first)⟩
        · have last := List.getLast?_eq_some_getLast leaf
          obtain ⟨t, final, same⟩ := (below _ (List.mem_of_getLast? last)).2
          exact ⟨t, (getLast?_tokens last).trans final, same.trans (stop _ last)⟩

/-- The tokens of some nodes of a nested tree, in a row from the start of the first node to the
end of the last one. -/
theorem exists_row (nested : root.Nested) {front back ns : List Node}
    (shape : root.tokens = front ++ (ns.flatMap tokens ++ back))
    (tight : ∀ n ∈ ns, ∀ m ∈ n.nodes, m.Tight) {first last : Node}
    (head : ns.head? = some first) (final : ns.getLast? = some last) :
    ∃ s rest, (ns.flatMap tokens).map span = s :: rest ∧ Span.Row (s :: rest) ∧
      s.through (rest.getLastD s) = first.span.through last.span := by
  obtain ⟨t, isHead, start⟩ := (ends_tokens (tight _ (List.mem_of_head? head))).1
  obtain ⟨u, isLast, stop⟩ := (ends_tokens (tight _ (List.mem_of_getLast? final))).2
  rw [← head?_tokens head] at isHead
  rw [← getLast?_tokens final] at isLast
  obtain ⟨rest, tokens_⟩ := List.head?_eq_some_iff.1 isHead
  rw [tokens_] at isLast
  have whole := row_tokens nested
  rw [shape, tokens_, List.map_append, List.map_append] at whole
  have part : (t :: rest).map span <:+: front.map span ++ ((t :: rest).map span ++ back.map span) :=
    ⟨front.map span, back.map span, List.append_assoc _ _ _⟩
  refine ⟨t.span, rest.map span, by rw [tokens_, List.map_cons], ⟨?_, ?_⟩, ?_⟩
  · exact whole.ordered.sublist part.sublist
  · exact fun s hs => whole.forward s (part.subset hs)
  · have isLast := congrArg (Option.map span) isLast
    rw [← List.getLast?_map, List.map_cons, List.getLast?_cons, ← List.getLastD_eq_getLast?,
      Option.map_some] at isLast
    rw [Option.some.inj isLast, Span.through, Span.through, start, stop]

/-! ## Trees that coincide -/

/-- The places of the comments of a tree. -/
def comments (n : Node) : List Span := (n.nodes.filter isComment).map span

/-- What the tokens of a tree say. -/
def words (source : Bytes) (n : Node) : List Bytes :=
  (n.tokens.map span).map (·.bytesOutside n.comments source)

/-- What is between the tokens of a tree, without the comments. -/
def blanks (source : Bytes) (n : Node) : List Bytes :=
  (Span.gaps (n.tokens.map span)).map (·.bytesOutside n.comments source)

/-- Two trees, of two sources, that are the same once all comments are taken out, up to what
is between their tokens. -/
structure Coincide (source other : Bytes) (n n' : Node) : Prop where
  alike : Alike source other n n'
  words : n.words source = n'.words other
  blanks : n.blanks source = n'.blanks other

/-- Nodes that are alike both consist of some nodes, or neither does. -/
theorem Alike.content_eq_nil_iff (h : Alike source other n n') :
    n.content = [] ↔ n'.content = [] := by
  rw [← List.length_eq_zero_iff, ← List.length_eq_zero_iff, h.content.length_eq]

theorem Alike.length_tokens (h : Alike source other n n') :
    n.tokens.length = n'.tokens.length := by
  induction n using induct generalizing n' with
  | mk kind named field span children ih =>
      by_cases leaf : (Node.mk kind named field span children).content = []
      · rw [tokens_of_content_eq_nil leaf,
          tokens_of_content_eq_nil (h.content_eq_nil_iff.1 leaf)]
        rfl
      · have lengths := forall₂_map_of_mem (S := Eq) h.content fun c hc c' _ alike =>
          ih c (List.mem_of_mem_filter hc) alike
        rw [List.forall₂_eq_eq_eq] at lengths
        rw [tokens_of_content_ne_nil leaf,
          tokens_of_content_ne_nil (mt h.content_eq_nil_iff.2 leaf), List.length_flatMap,
          List.length_flatMap, lengths]

/-- Rows of nodes of two trees, one in each, that are alike and have as many tokens in front of
them. -/
structure Matched (source other : Bytes) (root root' : Node) (ns ns' : List Node) : Prop where
  alike : List.Forall₂ (Alike source other) ns ns'
  place : ∃ front back front' back', root.tokens = front ++ (ns.flatMap tokens ++ back) ∧
    root'.tokens = front' ++ (ns'.flatMap tokens ++ back') ∧ front.length = front'.length

namespace Matched

variable {ns ns' ms ms' : List Node}

theorem length_tokens (h : List.Forall₂ (Alike source other) ns ns') :
    (ns.flatMap tokens).length = (ns'.flatMap tokens).length := by
  rw [List.length_flatMap, List.length_flatMap,
    map_eq_map_of_forall₂ h fun _ _ alike => alike.length_tokens]

theorem of_alike (alike : Alike source other n n') : Matched source other n n' [n] [n'] :=
  ⟨.cons alike .nil, [], [], [], [], by simp, by simp, rfl⟩

/-- The nodes that matched nodes consist of are matched, without comments. -/
theorem content (h : Matched source other root root' [n] [n']) :
    Matched source other root root' n.content n'.content := by
  obtain ⟨alike, front, back, front', back', shape, shape', length⟩ := h
  have alike := (List.forall₂_cons.1 alike).1
  refine ⟨alike.content, ?_⟩
  by_cases leaf : n.content = []
  · rw [leaf, alike.content_eq_nil_iff.1 leaf]
    exact ⟨front, _, front', _, shape, shape', length⟩
  · rw [← tokens_of_content_ne_nil leaf,
      ← tokens_of_content_ne_nil (mt alike.content_eq_nil_iff.2 leaf)]
    rw [List.flatMap_singleton] at shape shape'
    exact ⟨front, back, front', back', shape, shape', length⟩

/-- A row that is cut in two is matched with two rows. -/
theorem split (h : Matched source other root root' (ns ++ ms) ns') :
    ∃ xs ys, ns' = xs ++ ys ∧ Matched source other root root' ns xs ∧
      Matched source other root root' ms ys := by
  obtain ⟨alike, front, back, front', back', shape, shape', place⟩ := h
  have first := List.forall₂_take ns.length alike
  have second := List.forall₂_drop ns.length alike
  have cut := List.take_append_drop ns.length ns'
  rw [List.take_left] at first
  rw [List.drop_left] at second
  generalize ns'.take ns.length = xs at first cut
  generalize ns'.drop ns.length = ys at second cut
  rw [List.flatMap_append, List.append_assoc] at shape
  rw [← cut, List.flatMap_append, List.append_assoc] at shape'
  refine ⟨xs, ys, cut.symm, ⟨first, front, _, front', _, shape, shape', place⟩, second,
    front ++ ns.flatMap tokens, back, front' ++ xs.flatMap tokens, back', ?_, ?_, ?_⟩
  · rw [shape, List.append_assoc]
  · rw [shape', List.append_assoc]
  · rw [List.length_append, List.length_append, place, length_tokens first]

/-- The nodes of matched rows are matched one by one. -/
theorem each (h : Matched source other root root' ns ns') :
    List.Forall₂ (fun n n' => Matched source other root root' [n] [n']) ns ns' := by
  induction ns generalizing ns' with
  | nil => exact List.forall₂_nil_left_iff.2 (List.forall₂_nil_left_iff.1 h.alike)
  | cons n ns ih =>
      have cut : Matched source other root root' ([n] ++ ns) ns' := h
      obtain ⟨xs, ys, rfl, first, later⟩ := cut.split
      obtain ⟨n', rest, -, none, rfl⟩ := List.forall₂_cons_left_iff.1 first.alike
      rw [List.forall₂_nil_left_iff] at none
      subst none
      exact .cons first (ih later)

/-- Matched rows say the same, without comments, and so does what is between their tokens. -/
theorem words_blanks (coincide : Coincide source other root root')
    (h : Matched source other root root' ns ns') :
    ((ns.flatMap tokens).map span).map (·.bytesOutside root.comments source)
        = ((ns'.flatMap tokens).map span).map (·.bytesOutside root'.comments other) ∧
      (Span.gaps ((ns.flatMap tokens).map span)).map (·.bytesOutside root.comments source)
        = (Span.gaps ((ns'.flatMap tokens).map span)).map
            (·.bytesOutside root'.comments other) := by
  obtain ⟨alike, front, back, front', back', shape, shape', place⟩ := h
  have length := length_tokens alike
  have words := coincide.words
  have blanks := coincide.blanks
  unfold Node.words at words
  unfold Node.blanks at blanks
  rw [shape, shape'] at words blanks
  simp only [List.map_append] at words blanks
  constructor
  · have later := List.append_inj_right words (by simp [place])
    exact List.append_inj_left later (by simp [length])
  · rw [Span.gaps_infix (front.map span) ((ns.flatMap tokens).map span) (back.map span),
      Span.gaps_infix (front'.map span) ((ns'.flatMap tokens).map span) (back'.map span),
      List.map_take, List.map_take, List.map_drop, List.map_drop, blanks]
    simp only [List.length_map, place, length]

/-- From the first node of a row to the last one matched rows say the same, without comments. -/
theorem bytesOutside_through (coincide : Coincide source other root root')
    (nested : root.Nested) (nested' : root'.Nested) (h : Matched source other root root' ns ns')
    (tight : ∀ n ∈ ns, ∀ m ∈ n.nodes, m.Tight) (tight' : ∀ n ∈ ns', ∀ m ∈ n.nodes, m.Tight)
    {first last first' last' : Node} (head : ns.head? = some first)
    (final : ns.getLast? = some last) (head' : ns'.head? = some first')
    (final' : ns'.getLast? = some last') :
    (first.span.through last.span).bytesOutside root.comments source
      = (first'.span.through last'.span).bytesOutside root'.comments other := by
  obtain ⟨words, blanks⟩ := h.words_blanks coincide
  obtain ⟨-, front, back, front', back', shape, shape', -⟩ := h
  obtain ⟨s, rest, spans, row, ends⟩ := exists_row nested shape tight head final
  obtain ⟨s', rest', spans', row', ends'⟩ := exists_row nested' shape' tight' head' final'
  rw [spans, spans'] at words blanks
  rw [← ends, ← ends']
  exact Span.bytesOutside_through row row' words blanks

end Matched

end Dart.Node

end RouteGraft
