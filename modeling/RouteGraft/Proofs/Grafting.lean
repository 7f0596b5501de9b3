import RouteGraft.Proofs.Gaps
import RouteGraft.Proofs.Shift
import RouteGraft.Splice

/-!
# Trees with nodes put in

When a text is put into a source at an offset, a reader may see the old tree again,
with the nodes of the text put in among the children of one node, everything in
front of the offset where it was, and everything behind it moved by the length of
the text.  This tree is the *graft* of the old one.  It is found by going down the
nodes that the offset splits, as far as there is one.

Nodes that are not split stay or move as a whole (`exists_moves`).  A node that is
split has either a split child, and then all its children are grafted one by one
(`children_graft_of_child`), or it is the one that takes the new nodes
(`children_graft_of_between`).
-/

namespace RouteGraft

open Dart (Node Kind Field)

/-! ## Spans around an offset -/

namespace Span

instance (k : Int) (s : Span) : Decidable (s.Splits k) :=
  inferInstanceAs (Decidable (s.start < k ∧ k < s.stop))

/-- One of three things, for a span in front of an offset, behind it and around it. -/
def pick {α : Type} (k : Int) (s : Span) (front back around : α) : α :=
  if s.stop ≤ k then front else if k ≤ s.start then back else around

section pick

variable {α : Type} {k : Int} {s : Span} {front back around : α}

theorem pick_of_stop_le (h : s.stop ≤ k) : s.pick k front back around = front := if_pos h

theorem pick_of_le_start (h : k ≤ s.start) (behind : k < s.stop) :
    s.pick k front back around = back := by
  rw [pick, if_neg (Int.not_le.2 behind), if_pos h]

theorem pick_of_splits (h : s.Splits k) : s.pick k front back around = around := by
  rw [pick, if_neg (Int.not_le.2 h.2), if_neg (Int.not_le.2 h.1)]

end pick

/-- What becomes of a span when some bytes are put in at an offset. -/
def stretch (k d : Int) (s : Span) : Span := s.pick k s (s.shift d) ⟨s.start, s.stop + d⟩

theorem start_stretch {k d : Int} {s : Span} (h : s.start < k) :
    (s.stretch k d).start = s.start := by
  unfold stretch pick
  split
  · rfl
  · rw [if_neg (Int.not_le.2 h)]

theorem stop_stretch {k d : Int} {s : Span} (h : k < s.stop) :
    (s.stretch k d).stop = s.stop + d := by
  unfold stretch pick
  rw [if_neg (Int.not_le.2 h)]
  split <;> rfl

/-- What is inside of a span stays inside of it, if it is split. -/
theorem Inside.stretch {k d : Int} {s t : Span} (h : s.Inside t) (le : 0 ≤ d) :
    (s.stretch k d).Inside ⟨t.start, t.stop + d⟩ := by
  unfold Inside at h
  unfold Span.stretch pick Inside
  repeat' split
  all_goals simp only [start_shift, stop_shift]; omega

/-- Spans in order stay so. -/
theorem Before.stretch {k d : Int} {s t : Span} (h : s.Before t) (wide : t.start < t.stop)
    (le : 0 ≤ d) : (s.stretch k d).Before (t.stretch k d) := by
  unfold Before at *
  rcases Int.lt_or_le k s.stop with behind | front
  · rw [stop_stretch behind, Span.stretch, pick_of_le_start (by omega) (by omega), start_shift]
    omega
  · have same : s.stretch k d = s := pick_of_stop_le front
    have kept : t.Inside t := ⟨Int.le_refl _, Int.le_of_lt wide, Int.le_refl _⟩
    rw [same]
    exact Int.le_trans h (kept.stretch le).1

theorem Splits.of_inside {k : Int} {inner outer : Span} (h : inner.Splits k)
    (inside : inner.Inside outer) : outer.Splits k :=
  ⟨Int.lt_of_le_of_lt inside.1 h.1, Int.lt_of_lt_of_le h.2 inside.2.2⟩

/-- A source has the text of another one in front of an offset, and behind it, moved
by some bytes. -/
structure Spliced (source other : Bytes) (k d : Int) : Prop where
  front : SameText source other 0 ⟨0, k⟩
  back : SameText source other d ⟨k, source.length⟩

/-- What is put into a content leaves the text around it as it was. -/
theorem spliced_of_splice {content piece after : Bytes} {k : Int}
    (h : splice content k piece = .ok after) : Spliced content after k piece.length := by
  obtain ⟨positive, inside, rfl⟩ := splice_ok h
  have front : (content.take k.toNat).length = k.toNat :=
    List.length_take_of_le (by omega)
  constructor
  · rintro s ⟨start, le, stop⟩
    dsimp only at start stop
    have inFront : s.start.toNat + (s.stop.toNat - s.start.toNat) ≤ k.toNat := by omega
    rw [shift_zero, bytes, bytes, List.append_assoc, List.drop_append_of_le_length (by omega),
      List.take_append_of_le_length (by rw [List.length_drop, front]; omega), List.drop_take,
      List.take_take, Nat.min_eq_left (by omega)]
  · rintro s ⟨start, le, stop⟩
    dsimp only at start stop
    have moved : (s.start + piece.length).toNat
        = (content.take k.toNat ++ piece).length + (s.start.toNat - k.toNat) := by
      rw [List.length_append, front]
      omega
    have same : (s.stop + piece.length).toNat - (s.start + piece.length).toNat
        = s.stop.toNat - s.start.toNat := by omega
    have begin_ : k.toNat + (s.start.toNat - k.toNat) = s.start.toNat := by omega
    rw [bytes, bytes, start_shift, stop_shift, same, moved, List.drop_length_add_append,
      List.drop_drop, begin_]

end Span

namespace Dart.Node

/-! ## Grafts -/

/-- A tree whose nodes all cover some text. -/
def Wide (n : Node) : Prop := ∀ m ∈ n.nodes, m.span.start < m.span.stop

theorem Wide.self {n : Node} (h : n.Wide) : n.span.start < n.span.stop := h n n.self_mem_nodes

theorem Wide.child {n c : Node} (h : n.Wide) (hc : c ∈ n.children) : c.Wide :=
  fun m hm => h m (mem_nodes_of_mem_children hc hm)

/-- A tree with some new nodes at an offset, and what is behind the offset moved by
some bytes. -/
def graft (k d : Int) (new : List Node) : Node → Node
  | mk kind named field span cs =>
      if span.stop ≤ k then mk kind named field span cs
      else if k ≤ span.start then (mk kind named field span cs).shift d
      else mk kind named field ⟨span.start, span.stop + d⟩
        (if cs.any (·.span.Splits k) then graftAll k d new cs
        else cs.takeWhile (·.span.stop ≤ k) ++ new
          ++ (cs.dropWhile (·.span.stop ≤ k)).map (shift d))
where
  /-- Trees with some new nodes at an offset. -/
  graftAll (k d : Int) (new : List Node) : List Node → List Node
    | [] => []
    | n :: rest => n.graft k d new :: graftAll k d new rest

variable {k d : Int} {new : List Node} {n : Node}

theorem graftAll_eq_map (cs : List Node) : graft.graftAll k d new cs = cs.map (graft k d new) := by
  induction cs with
  | nil => rfl
  | cons c rest ih => rw [graft.graftAll, ih, List.map_cons]

/-- What ends in front of the offset stays. -/
theorem graft_of_stop_le (h : n.span.stop ≤ k) : n.graft k d new = n := by
  cases n
  exact if_pos h

/-- What starts behind the offset moves. -/
theorem graft_of_le_start (h : k ≤ n.span.start) (wide : n.span.start < n.span.stop) :
    n.graft k d new = n.shift d := by
  cases n
  rw [span_mk] at h wide
  rw [graft, if_neg (by omega), if_pos h]

variable (k d new n)

@[simp] theorem kind_graft : (n.graft k d new).kind = n.kind := by
  cases n
  rw [graft]
  repeat' split
  all_goals rfl

@[simp] theorem named_graft : (n.graft k d new).named = n.named := by
  cases n
  rw [graft]
  repeat' split
  all_goals rfl

@[simp] theorem field_graft : (n.graft k d new).field = n.field := by
  cases n
  rw [graft]
  repeat' split
  all_goals rfl

@[simp] theorem span_graft : (n.graft k d new).span = n.span.stretch k d := by
  cases n
  rw [graft, span_mk, Span.stretch, Span.pick]
  repeat' split
  all_goals rfl

/-- A graft has at least as many levels. -/
theorem height_le_graft : n.height ≤ (n.graft k d new).height := by
  induction n using induct with
  | mk kind named field span cs ih =>
      rw [graft]
      split
      · exact Nat.le_refl _
      · split
        · exact Nat.le_of_eq (height_shift d _).symm
        · rw [height, height]
          refine Nat.succ_le_succ (heights_le_heights fun c hc => ?_)
          split
          · rw [graftAll_eq_map]
            exact ⟨_, List.mem_map_of_mem hc, ih c hc⟩
          · rw [← @List.takeWhile_append_dropWhile _ (fun c => decide (c.span.stop ≤ k)) cs] at hc
            rcases List.mem_append.1 hc with front | back
            · exact ⟨c, by simp [front], Nat.le_refl _⟩
            · exact ⟨c.shift d, by simp [List.mem_map_of_mem back],
                Nat.le_of_eq (height_shift d c).symm⟩

theorem keeps_graft : Keeps (graft k d new) :=
  ⟨kind_graft k d new, named_graft k d new, field_graft k d new⟩

variable {k d new n}

theorem children_graft_of_splits (h : n.span.Splits k) :
    (n.graft k d new).children =
      if n.children.any (·.span.Splits k) then n.children.map (graft k d new)
      else n.children.takeWhile (·.span.stop ≤ k) ++ new
        ++ (n.children.dropWhile (·.span.stop ≤ k)).map (shift d) := by
  cases n
  rw [span_mk] at h
  rw [graft, if_neg (Int.not_le.2 h.2), if_neg (Int.not_le.2 h.1), children_mk, children_mk,
    graftAll_eq_map]

variable (d new) in
/-- The children of a node with a split child are grafted one by one. -/
theorem children_graft_of_child {c : Node} (nested : n.Nested) (hc : c ∈ n.children)
    (h : c.span.Splits k) : (n.graft k d new).children = n.children.map (graft k d new) := by
  have splits := h.of_inside (nested.child_inside c hc)
  have below : n.children.any (·.span.Splits k) = true :=
    List.any_eq_true.2 ⟨c, hc, decide_eq_true h⟩
  rw [children_graft_of_splits splits, if_pos below]

/-- The new nodes go between the children of a node that is split between them. -/
theorem children_graft_of_between {front back : List Node} (splits : n.span.Splits k)
    (shape : n.children = front ++ back) (before : ∀ c ∈ front, c.span.stop ≤ k)
    (behind : ∀ c ∈ back, k ≤ c.span.start ∧ c.span.start < c.span.stop) :
    (n.graft k d new).children = front ++ new ++ back.map (shift d) := by
  have none : n.children.any (·.span.Splits k) = false := by
    rw [List.any_eq_false, shape]
    intro c hc isSplit
    have isSplit := of_decide_eq_true isSplit
    rcases List.mem_append.1 hc with hc | hc
    · exact absurd isSplit.2 (Int.not_lt.2 (before c hc))
    · exact absurd isSplit.1 (Int.not_lt.2 (behind c hc).1)
  have taken : ∀ c ∈ front, decide (c.span.stop ≤ k) = true :=
    fun c hc => decide_eq_true (before c hc)
  have first : back.takeWhile (·.span.stop ≤ k) = [] ∧ back.dropWhile (·.span.stop ≤ k) = back := by
    cases back with
    | nil => exact ⟨rfl, rfl⟩
    | cons c rest =>
        have stays : ¬ decide (c.span.stop ≤ k) = true := by
          have := behind c List.mem_cons_self
          simp only [decide_eq_true_eq]
          omega
        exact ⟨List.takeWhile_cons_of_neg stays, List.dropWhile_cons_of_neg stays⟩
  rw [children_graft_of_splits splits, none, if_neg Bool.false_ne_true, shape,
    List.takeWhile_append_of_pos taken, List.dropWhile_append_of_pos taken, first.1, first.2,
    List.append_nil]

/-- A node of a tree over a source of some length, all of which cover some text. -/
structure Full (n : Node) (length : Nat) : Prop extends n.WellNested length where
  wide : n.Wide

theorem Full.child {length : Nat} {c : Node} (h : n.Full length) (hc : c ∈ n.children) :
    c.Full length :=
  ⟨⟨h.nested.child c hc, (h.nested.child_inside c hc).trans h.inside⟩, h.wide.child hc⟩

theorem Full.of_mem_nodes {length : Nat} {m : Node} (h : n.Full length) (hm : m ∈ n.nodes) :
    m.Full length := by
  obtain ⟨nested, inside⟩ := h.nested.of_mem_nodes m hm
  refine ⟨⟨nested, inside.trans h.inside⟩, fun m' hm' => h.wide m' ?_⟩
  exact mem_nodes_trans hm' hm

/-- How a node is grafted that is not split: it stays, or moves with its text. -/
structure Moves (source other : Bytes) (k d : Int) (new : List Node) (n : Node) (δ : Int) :
    Prop where
  graft_eq : n.graft k d new = n.shift δ
  same : Span.SameText source other δ n.span
  side : δ = 0 ∧ n.span.stop ≤ k ∨ δ = d ∧ k ≤ n.span.start

/-- What depends on the side of an offset a span is on, for a span inside of a node
that moves. -/
theorem Moves.pick_eq {α : Type} {source other : Bytes} {δ : Int} {s : Span}
    (h : n.Moves source other k d new δ) (inside : s.Inside n.span) (wide : s.start < s.stop)
    (around : α) (f : Int → α) : s.pick k (f 0) (f d) around = f δ := by
  unfold Span.Inside at inside
  rcases h.side with ⟨rfl, stop⟩ | ⟨rfl, start⟩
  · exact Span.pick_of_stop_le (by omega)
  · exact Span.pick_of_le_start (by omega) (by omega)

/-- The text of a node that moves is the same. -/
theorem Moves.text {source other : Bytes} {δ : Int} (h : n.Moves source other k d new δ)
    (nested : n.Nested) : (n.graft k d new).span.text other = n.span.text source := by
  rw [h.graft_eq, span_shift]
  exact h.same.text (nested.of_mem_nodes n n.self_mem_nodes).2

section Sides

variable (new) {source other : Bytes} (spliced : Span.Spliced source other k d)
  (full : n.Full source.length)
include spliced full

theorem moves_of_stop_le (h : n.span.stop ≤ k) : n.Moves source other k d new 0 := by
  refine ⟨?_, spliced.front.of_inside ⟨full.inside.1, full.inside.2.1, h⟩, .inl ⟨rfl, h⟩⟩
  rw [graft_of_stop_le h, shift_zero]

theorem moves_of_le_start (h : k ≤ n.span.start) : n.Moves source other k d new d :=
  ⟨graft_of_le_start h full.wide.self,
    spliced.back.of_inside ⟨h, full.inside.2.1, full.inside.2.2⟩, .inr ⟨rfl, h⟩⟩

theorem exists_moves (h : ¬ n.span.Splits k) : ∃ δ, n.Moves source other k d new δ := by
  rcases Int.lt_or_le k n.span.stop with behind | front
  · have start : k ≤ n.span.start := by
      unfold Span.Splits at h
      omega
    exact ⟨d, moves_of_le_start new spliced full start⟩
  · exact ⟨0, moves_of_stop_le new spliced full front⟩

end Sides

/-- The nodes of a node that moves do so as well. -/
theorem Moves.of_mem_nodes {source other : Bytes} {δ : Int} {m : Node}
    (h : n.Moves source other k d new δ) (full : n.Full source.length) (hm : m ∈ n.nodes) :
    m.Moves source other k d new δ := by
  have inside := (full.nested.of_mem_nodes m hm).2
  have wide := full.wide m hm
  refine ⟨?_, h.same.of_inside inside, ?_⟩
  · unfold Span.Inside at inside
    rcases h.side with ⟨rfl, stop⟩ | ⟨rfl, start⟩
    · rw [graft_of_stop_le (by omega), shift_zero]
    · exact graft_of_le_start (by omega) wide
  · unfold Span.Inside at inside
    rcases h.side with ⟨rfl, stop⟩ | ⟨rfl, start⟩
    · exact .inl ⟨rfl, by omega⟩
    · exact .inr ⟨rfl, by omega⟩

theorem Moves.children_graft {source other : Bytes} {δ : Int}
    (h : n.Moves source other k d new δ) (full : n.Full source.length) :
    (n.graft k d new).children = n.children.map (graft k d new) := by
  rw [h.graft_eq, children_shift]
  refine List.map_congr_left fun c hc => ?_
  exact (h.of_mem_nodes full (child_mem_nodes hc)).graft_eq.symm

variable (d new) in
/-- A node that is split is grafted where it is. -/
theorem graft_mem_nodes {m : Node} (nested : n.Nested) (splits : m.span.Splits k) :
    m ∈ n.nodes → m.graft k d new ∈ (n.graft k d new).nodes := by
  induction nested with
  | @mk kind named field span children le inside order below ih =>
      intro hm
      rcases mem_nodes.1 hm with rfl | ⟨c, hc, hm⟩
      · exact self_mem_nodes _
      · have nested : (mk kind named field span children).Nested := .mk le inside order below
        have within := ((below c hc).of_mem_nodes m hm).2
        have grafted := children_graft_of_child d new nested hc
          (splits.of_inside within)
        refine mem_nodes_of_mem_children ?_ (ih c hc hm)
        rw [grafted]
        exact List.mem_map_of_mem hc

/-- Of the children of a nested node at most one is split. -/
theorem Nested.eq_of_splits {c c' : Node} (nested : n.Nested) (hc : c ∈ n.children)
    (hc' : c' ∈ n.children) (h : c.span.Splits k) (h' : c'.span.Splits k) : c' = c := by
  by_contra different
  rcases nested.before_or_before hc' hc different with apart | apart
  · unfold Span.Before Span.Splits at *
    omega
  · unfold Span.Before Span.Splits at *
    omega

variable (new) in
/-- Beside a child that is split, children stay or move. -/
theorem moves_beside {source other : Bytes} (spliced : Span.Spliced source other k d)
    (full : n.Full source.length) {v c : Node} (hv : v ∈ n.children) (splits : v.span.Splits k)
    (hc : c ∈ n.children) (different : c ≠ v) : ∃ δ, c.Moves source other k d new δ :=
  exists_moves new spliced (full.child hc) fun isSplit =>
    different (full.nested.eq_of_splits hv hc splits isSplit)

/-- What holds of the graft of a node holds of the graft of the whole tree, if it holds
of all that stays or moves, and goes up from children to their parents. -/
theorem graft_of_mem_nodes {v : Node} {length : Nat} {P : Node → Prop} (full : n.Full length)
    (splits : v.span.Splits k)
    (old : ∀ m ∈ n.nodes, P m) (moved : ∀ m, P m → P (m.shift d))
    (parent : ∀ m ∈ n.nodes, m.span.Splits k →
      (m.graft k d new).children = m.children.map (graft k d new) →
        (∀ c ∈ m.children, P (c.graft k d new)) → P (m.graft k d new))
    (grafted : P (v.graft k d new)) : v ∈ n.nodes → P (n.graft k d new) := by
  induction n using induct with
  | mk kind named field span children ih =>
      intro hv
      rcases mem_nodes.1 hv with rfl | ⟨c, hc, hv⟩
      · exact grafted
      · have isSplit := splits.of_inside ((full.child hc).nested.of_mem_nodes v hv).2
        refine parent _ (self_mem_nodes _) (isSplit.of_inside (full.nested.child_inside c hc))
          (children_graft_of_child d new full.nested hc isSplit) fun c' hc' => ?_
        by_cases same : c' = c
        · subst same
          exact ih c' hc' (full.child hc') (fun m hm => old m (mem_nodes_of_mem_children hc' hm))
            (fun m hm => parent m (mem_nodes_of_mem_children hc' hm)) hv
        · have whole : ¬ c'.span.Splits k := fun isSplit' =>
            same (full.nested.eq_of_splits hc hc' isSplit isSplit')
          have known := old c' (child_mem_nodes hc')
          rcases Int.lt_or_le k c'.span.stop with behind | front
          · have start : k ≤ c'.span.start := by
              unfold Span.Splits at whole
              omega
            rw [graft_of_le_start start (full.child hc').wide.self]
            exact moved c' known
          · rwa [graft_of_stop_le front]

/-- If the graft of a node is nested, so is the graft of the whole tree. -/
theorem Full.nested_graft {v : Node} {length : Nat} (full : n.Full length)
    (splits : v.span.Splits k) (le : 0 ≤ d)
    (grafted : (v.graft k d new).Nested) (hv : v ∈ n.nodes) : (n.graft k d new).Nested := by
  refine graft_of_mem_nodes full splits (fun m hm => (full.of_mem_nodes hm).nested)
    (fun m nested => nested.shift d) (fun m hm isSplit children below => ?_) grafted hv
  have mFull := full.of_mem_nodes hm
  have span : (m.graft k d new).span = ⟨m.span.start, m.span.stop + d⟩ := by
    rw [span_graft, Span.stretch, Span.pick_of_splits isSplit]
  rw [nested_iff, children, span]
  refine ⟨?_, ?_, ?_, ?_⟩
  · have := mFull.nested.start_le_stop
    dsimp only
    omega
  · intro c hc
    obtain ⟨c', hc', rfl⟩ := List.mem_map.1 hc
    rw [span_graft]
    exact (mFull.nested.child_inside c' hc').stretch le
  · have order := mFull.nested.ordered
    rw [Span.Ordered, List.pairwise_map] at order ⊢
    rw [List.pairwise_map]
    refine order.imp_of_mem fun {a b} _ hb apart => ?_
    rw [span_graft, span_graft]
    exact apart.stretch (mFull.child hb).wide.self le
  · intro c hc
    obtain ⟨c', hc', rfl⟩ := List.mem_map.1 hc
    exact below c' hc'

end Dart.Node

end RouteGraft
