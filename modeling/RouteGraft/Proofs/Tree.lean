import RouteGraft.Dart.Node
import RouteGraft.Proofs.Traversal

/-!
# Well-nested trees

All that is asked of a syntax tree is that it is *nested*: a node lies inside of
its parent, and siblings stand in order and do not overlap.  Nothing is asked of
kinds, flags and fields.  A tree is *well nested* in a source if it is nested and
its root lies inside of the source.

Every way of finding a node, by kind, by field, by level or among the parts,
gives a node of the tree, and the nodes of a nested tree are nested and lie
inside of its root (`Nested.of_mem_nodes`).
-/

namespace RouteGraft

/-! ## Spans -/

namespace Span

/-- A span that lies inside of another one. -/
def Inside (a b : Span) : Prop := b.start ≤ a.start ∧ a.start ≤ a.stop ∧ a.stop ≤ b.stop

/-- A span that ends before another one starts. -/
def Before (a b : Span) : Prop := a.stop ≤ b.start

instance (a b : Span) : Decidable (a.Inside b) :=
  inferInstanceAs (Decidable (b.start ≤ a.start ∧ a.start ≤ a.stop ∧ a.stop ≤ b.stop))

instance : DecidableRel Before := fun a b => inferInstanceAs (Decidable (a.stop ≤ b.start))

/-- Spans in order, none of which overlaps another. -/
def Ordered (spans : List Span) : Prop := spans.Pairwise Before

instance (spans : List Span) : Decidable (Ordered spans) :=
  inferInstanceAs (Decidable (spans.Pairwise Before))

theorem Inside.trans {a b c : Span} (h : a.Inside b) (h' : b.Inside c) : a.Inside c := by
  unfold Inside at *
  omega

/-- Spans inside of ordered ones, one by one, are ordered. -/
theorem Ordered.of_inside {inner outer : List Span} (h : Ordered outer)
    (inside : List.Forall₂ Inside inner outer) : Ordered inner := by
  induction inside with
  | nil => exact List.Pairwise.nil
  | @cons a b inner outer hab rest ih =>
      obtain ⟨first, later⟩ := List.pairwise_cons.1 h
      refine List.pairwise_cons.2 ⟨fun c hc => ?_, ih later⟩
      obtain ⟨d, hd, hcd⟩ := exists_right_of_mem rest hc
      have apart := first d hd
      unfold Before Inside at *
      omega

/-- Spans in front of an offset and spans behind it. -/
theorem Ordered.append {xs ys : List Span} {k : Int} (hx : Ordered xs) (hy : Ordered ys)
    (front : ∀ s ∈ xs, s.stop ≤ k) (back : ∀ s ∈ ys, k ≤ s.start) : Ordered (xs ++ ys) :=
  List.pairwise_append.2 ⟨hx, hy, fun s hs t ht => Int.le_trans (front s hs) (back t ht)⟩

end Span

namespace Dart.Node

/-! ## The nodes of a tree -/

@[simp] theorem kind_mk (k : Kind) (n : Bool) (f : Option Field) (s : Span) (cs : List Node) :
    (mk k n f s cs).kind = k := rfl

@[simp] theorem named_mk (k : Kind) (n : Bool) (f : Option Field) (s : Span) (cs : List Node) :
    (mk k n f s cs).named = n := rfl

@[simp] theorem field_mk (k : Kind) (n : Bool) (f : Option Field) (s : Span) (cs : List Node) :
    (mk k n f s cs).field = f := rfl

@[simp] theorem span_mk (k : Kind) (n : Bool) (f : Option Field) (s : Span) (cs : List Node) :
    (mk k n f s cs).span = s := rfl

@[simp] theorem children_mk (k : Kind) (n : Bool) (f : Option Field) (s : Span)
    (cs : List Node) : (mk k n f s cs).children = cs := rfl

/-- What holds of a node whenever it holds of its children holds of every node. -/
@[elab_as_elim]
theorem induct {P : Node → Prop}
    (mk : ∀ kind named field span children, (∀ c ∈ children, P c) →
      P (.mk kind named field span children)) (n : Node) : P n :=
  Node.rec (motive_2 := fun cs => ∀ c ∈ cs, P c) mk (fun _ hc => absurd hc List.not_mem_nil)
    (fun _ _ first later => List.forall_mem_cons.2 ⟨first, later⟩) n

/-- All nodes of a tree, each before those it consists of. -/
def nodes : Node → List Node
  | mk k n f s cs => mk k n f s cs :: nodesOf cs
where
  /-- All nodes of some trees. -/
  nodesOf : List Node → List Node
    | [] => []
    | n :: rest => n.nodes ++ nodesOf rest

theorem mem_nodesOf {m : Node} {cs : List Node} : m ∈ nodes.nodesOf cs ↔ ∃ c ∈ cs, m ∈ c.nodes := by
  induction cs with
  | nil => simp [nodes.nodesOf]
  | cons c rest ih => simp [nodes.nodesOf, ih]

/-- A node of a tree is its root or a node of one of the trees below the root. -/
theorem mem_nodes {m n : Node} : m ∈ n.nodes ↔ m = n ∨ ∃ c ∈ n.children, m ∈ c.nodes := by
  cases n with
  | mk k named f s cs => simp only [nodes, List.mem_cons, mem_nodesOf, children_mk]

theorem self_mem_nodes (n : Node) : n ∈ n.nodes := mem_nodes.2 (.inl rfl)

theorem mem_nodes_of_mem_children {m c n : Node} (hc : c ∈ n.children) (hm : m ∈ c.nodes) :
    m ∈ n.nodes := mem_nodes.2 (.inr ⟨c, hc, hm⟩)

theorem child_mem_nodes {c n : Node} (hc : c ∈ n.children) : c ∈ n.nodes :=
  mem_nodes_of_mem_children hc c.self_mem_nodes

theorem mem_nodes_trans {l m n : Node} (hl : l ∈ m.nodes) : m ∈ n.nodes → l ∈ n.nodes := by
  induction n using induct with
  | mk kind named field span children ih =>
      intro hm
      rcases mem_nodes.1 hm with rfl | ⟨c, hc, hm⟩
      · exact hl
      · exact mem_nodes_of_mem_children hc (ih c hc hm)

/-! ## The same trees -/

/-- Whether two trees are the same. -/
def same : Node → Node → Bool
  | mk kind named field span children, mk kind' named' field' span' children' =>
      decide (kind = kind' ∧ named = named' ∧ field = field' ∧ span = span') &&
        areSame children children'
where
  /-- Whether some trees are the same, one by one. -/
  areSame : List Node → List Node → Bool
    | [], [] => true
    | n :: rest, n' :: rest' => n.same n' && areSame rest rest'
    | _, _ => false

theorem eq_of_same {n n' : Node} : n.same n' = true → n = n' := by
  induction n using induct generalizing n' with
  | mk kind named field span children ih =>
      cases n' with
      | mk kind' named' field' span' children' =>
          intro h
          simp only [same, Bool.and_eq_true, decide_eq_true_eq] at h
          obtain ⟨⟨rfl, rfl, rfl, rfl⟩, below⟩ := h
          refine congrArg (mk kind named field span) ?_
          induction children generalizing children' with
          | nil =>
              cases children' with
              | nil => rfl
              | cons c' rest' => cases below
          | cons c rest ihRest =>
              cases children' with
              | nil => cases below
              | cons c' rest' =>
                  simp only [same.areSame, Bool.and_eq_true] at below
                  have first := ih c List.mem_cons_self below.1
                  have later := ihRest (fun d hd => ih d (List.mem_cons_of_mem c hd)) rest' below.2
                  rw [first, later]

/-! ## What the searches find -/

theorem mem_children_of_mem_parts {c n : Node} (h : c ∈ n.parts) : c ∈ n.children :=
  List.mem_of_mem_filter h

theorem isComment_of_mem_parts {c n : Node} (h : c ∈ n.parts) : c.isComment = false := by
  have part := List.of_mem_filter h
  simp only [isPart, Bool.and_eq_true, Bool.not_eq_true'] at part
  exact part.2

theorem child?_eq_some {n c : Node} {wanted : Kind → Bool} (h : n.child? wanted = some c) :
    c ∈ n.children ∧ wanted c.kind = true :=
  ⟨List.mem_of_find?_eq_some h, by simpa using List.find?_some h⟩

/-- What is found by a field or a kind is a child of that field or that kind. -/
theorem fieldOrChild?_eq_some {n c : Node} {f : Field} {wanted : Kind → Bool}
    (h : n.fieldOrChild? f wanted = some c) :
    c ∈ n.children ∧ (c.field = some f ∨ wanted c.kind = true) := by
  unfold fieldOrChild? at h
  split at h
  · next found =>
      cases h
      exact ⟨List.mem_of_find?_eq_some found, .inl (by simpa using List.find?_some found)⟩
  · exact ⟨(child?_eq_some h).1, .inr (child?_eq_some h).2⟩

/-- A search over two levels finds a child, or a child of a child. -/
theorem descendant?_two {n m : Node} {wanted : Kind → Bool} (h : n.descendant? wanted 2 = some m) :
    wanted m.kind = true ∧ (m ∈ n.children ∨ ∃ c ∈ n.children, m ∈ c.children) := by
  have passes {level : List Node} (found : level.find? (wanted ·.kind) = some m) :
      wanted m.kind = true := by
    simpa using List.find?_some found
  simp only [descendant?, findOnLevels] at h
  split at h
  · next found =>
      cases h
      exact ⟨passes found, .inl (List.mem_of_find?_eq_some found)⟩
  · split at h
    · next found =>
        cases h
        exact ⟨passes found, .inr (List.mem_flatMap.1 (List.mem_of_find?_eq_some found))⟩
    · cases h

theorem mem_nodes_of_descendant? {n m : Node} {wanted : Kind → Bool}
    (h : n.descendant? wanted 2 = some m) : m ∈ n.nodes := by
  rcases (descendant?_two h).2 with child | ⟨c, child, grandchild⟩
  · exact child_mem_nodes child
  · exact mem_nodes_of_mem_children child (child_mem_nodes grandchild)

/-! ## Nesting -/

/-- A tree in which children lie inside of their parents and siblings stand in
order without overlap. -/
inductive Nested : Node → Prop
  | mk {kind : Kind} {named : Bool} {field : Option Field} {span : Span} {children : List Node} :
      span.start ≤ span.stop → (∀ c ∈ children, c.span.Inside span) →
        Span.Ordered (children.map Node.span) → (∀ c ∈ children, Nested c) →
          Nested (.mk kind named field span children)

namespace Nested

variable {n : Node}

theorem start_le_stop (h : n.Nested) : n.span.start ≤ n.span.stop := by
  cases h
  assumption

theorem child_inside (h : n.Nested) : ∀ c ∈ n.children, c.span.Inside n.span := by
  cases h
  assumption

theorem ordered (h : n.Nested) : Span.Ordered (n.children.map Node.span) := by
  cases h
  assumption

theorem child (h : n.Nested) : ∀ c ∈ n.children, c.Nested := by
  cases h
  assumption

/-- The nodes of a nested tree are nested and lie inside of it. -/
theorem of_mem_nodes (h : n.Nested) : ∀ m ∈ n.nodes, m.Nested ∧ m.span.Inside n.span := by
  induction h with
  | @mk kind named field span children le inside order below ih =>
      intro m hm
      rcases mem_nodes.1 hm with rfl | ⟨c, hc, hm⟩
      · exact ⟨.mk le inside order below, Int.le_refl _, le, Int.le_refl _⟩
      · obtain ⟨nested, within⟩ := ih c hc m hm
        exact ⟨nested, within.trans (inside c hc)⟩

end Nested

theorem nested_iff {n : Node} : n.Nested ↔ n.span.start ≤ n.span.stop ∧
    (∀ c ∈ n.children, c.span.Inside n.span) ∧ Span.Ordered (n.children.map Node.span) ∧
      ∀ c ∈ n.children, c.Nested := by
  constructor
  · intro h
    exact ⟨h.start_le_stop, h.child_inside, h.ordered, h.child⟩
  · intro ⟨le, inside, order, below⟩
    cases n
    exact .mk le inside order below

theorem nested_leaf {n : Node} (leaf : n.children = []) (le : n.span.start ≤ n.span.stop) :
    n.Nested := by
  cases n
  subst leaf
  exact .mk le (fun _ hc => absurd hc List.not_mem_nil) .nil
    fun _ hc => absurd hc List.not_mem_nil

/-- Whether a tree is nested. -/
def isNested : Node → Bool
  | mk _ _ _ span children =>
      decide (span.start ≤ span.stop) && decide (∀ c ∈ children, c.span.Inside span) &&
        decide (Span.Ordered (children.map Node.span)) && areNested children
where
  /-- Whether some trees are nested. -/
  areNested : List Node → Bool
    | [] => true
    | n :: rest => n.isNested && areNested rest

theorem areNested_iff {cs : List Node} :
    isNested.areNested cs = true ↔ ∀ c ∈ cs, c.isNested = true := by
  induction cs with
  | nil => simp [isNested.areNested]
  | cons c rest ih => simp [isNested.areNested, ih]

theorem nested_of_isNested {n : Node} : n.isNested = true → n.Nested := by
  induction n using induct with
  | mk kind named field span children ih =>
      intro h
      simp only [isNested, Bool.and_eq_true, decide_eq_true_eq, areNested_iff] at h
      obtain ⟨⟨⟨le, inside⟩, order⟩, below⟩ := h
      exact .mk le inside order fun c hc => ih c hc (below c hc)

/-- A tree that is nested and lies inside of a source of some length. -/
structure WellNested (root : Node) (length : Nat) : Prop where
  /-- The nodes are nested. -/
  nested : root.Nested
  /-- The root lies inside of the source. -/
  inside : root.span.Inside ⟨0, length⟩

/-- Whether a tree is well nested. -/
def isWellNested (root : Node) (length : Nat) : Bool :=
  root.isNested && decide (root.span.Inside ⟨0, length⟩)

theorem wellNested_of_isWellNested {root : Node} {length : Nat}
    (h : root.isWellNested length = true) : root.WellNested length := by
  simp only [isWellNested, Bool.and_eq_true, decide_eq_true_eq] at h
  exact ⟨nested_of_isNested h.1, h.2⟩

end Dart.Node

end RouteGraft
