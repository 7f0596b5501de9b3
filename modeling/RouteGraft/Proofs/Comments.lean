import RouteGraft.Proofs.Shift

/-!
# Trees with comments

Comments may stand between any two nodes.  Two trees are *alike* if they are the same
once all comments are taken out: nodes stand for the same, the leaves have the same
texts, and what is not a comment stands in the same order (`Node.Alike`).

Searches pass over comments.  They look for kinds that no comment is of, or for a field,
which no comment fills.  A search over two levels also looks into the children of
comments, and finds nothing there as long as these are not of the kinds that named nodes
have (`Node.Readable`).  So a search in one of two trees that are alike finds a node just
if it does so in the other one, and these two nodes are alike again (`Node.Twins`).
-/

namespace RouteGraft.Dart

/-! ## Kinds -/

/-- Whether a kind is one that named nodes have: a construct, or a name.  Nodes that are not
named are signs and keywords. -/
def Kind.isRule : Kind → Bool
  | .construct _ => true
  | k => k.isIdentifier

theorem Kind.isRule_of_isIdentifier (k : Kind) (h : k.isIdentifier = true) : k.isRule = true := by
  cases k with
  | construct c => rfl
  | _ => exact h

theorem Kind.isRule_of_construct {c : Construct} (k : Kind)
    (h : decide (k = .construct c) = true) : k.isRule = true := by
  rw [of_decide_eq_true h]
  rfl

/-- No comment is of such a kind. -/
theorem Kind.isComment_of_isRule {k : Kind} (h : k.isRule = true) : k.isComment = false := by
  cases k with
  | comment => cases h
  | documentationComment => cases h
  | program => rfl
  | construct c => rfl
  | terminal t => rfl
  | typeIdentifier => rfl
  | error => rfl
  | other name => rfl

namespace Node

/-! ## Trees that are alike -/

/-- The children of a node that are no comments. -/
def content (n : Node) : List Node := n.children.filter fun c => !c.isComment

/-- The parts of a node are the named ones of its children that are no comments. -/
theorem parts_eq_content (n : Node) : n.parts = n.content.filter Node.named := by
  rw [parts, content, List.filter_filter]
  exact List.filter_congr fun c _ => rfl

/-- Two trees, of two sources, that are the same once all comments are taken out. -/
inductive Alike (source other : Bytes) : Node → Node → Prop
  | mk {n n' : Node} : n.kind = n'.kind → n.named = n'.named → n.field = n'.field →
      List.Forall₂ (Alike source other) n.content n'.content →
        (n.children = [] → n'.children = [] → n.span.bytes source = n'.span.bytes other) →
          Alike source other n n'

theorem Alike.leaf {source other : Bytes} {k : Kind} {named : Bool} {f : Option Field}
    {s s' : Span} (text : s.bytes source = s'.bytes other) :
    Alike source other (.mk k named f s []) (.mk k named f s' []) :=
  .mk rfl rfl rfl .nil fun _ _ => text

theorem Alike.node {source other : Bytes} {k : Kind} {named : Bool} {f : Option Field}
    {s s' : Span} {c c' : Node} {cs cs' : List Node}
    (content : List.Forall₂ (Alike source other) ((c :: cs).filter fun c => !c.isComment)
      ((c' :: cs').filter fun c => !c.isComment)) :
    Alike source other (.mk k named f s (c :: cs)) (.mk k named f s' (c' :: cs')) :=
  .mk rfl rfl rfl content fun leaf => nomatch leaf

/-- A tree in which comments fill no field and hold no node of a kind that named nodes have,
names are leaves, and every extended type has a name. -/
structure Readable (n : Node) : Prop where
  comments : ∀ m ∈ n.nodes, m.isComment = true →
    m.field = none ∧ ∀ c ∈ m.children, c.kind.isRule = false
  leaves : ∀ m ∈ n.nodes, m.kind.isIdentifier = true ∨ m.field = some .name → m.children = []
  extended : ∀ m ∈ n.nodes, m.kind = .construct .superclass →
    ∃ p ∈ m.parts, p.kind.isIdentifier = true

theorem Readable.of_mem_nodes {n m : Node} (h : n.Readable) (hm : m ∈ n.nodes) : m.Readable :=
  ⟨fun l hl => h.comments l (mem_nodes_trans hl hm), fun l hl => h.leaves l (mem_nodes_trans hl hm),
    fun l hl => h.extended l (mem_nodes_trans hl hm)⟩

theorem Readable.child {n c : Node} (h : n.Readable) (hc : c ∈ n.children) : c.Readable :=
  h.of_mem_nodes (child_mem_nodes hc)

/-- Nodes that are alike, in readable trees of bounded heights. -/
structure Twins (source other : Bytes) (depth depth' : Nat) (n n' : Node) : Prop where
  alike : Alike source other n n'
  readable : n.Readable
  readable' : n'.Readable
  low : n.height ≤ depth
  low' : n'.height ≤ depth'

variable {source other : Bytes} {depth depth' : Nat} {n n' : Node} {wanted : Kind → Bool}

namespace Alike

variable (h : Alike source other n n')
include h

theorem kind : n.kind = n'.kind := by
  cases h
  assumption

theorem named : n.named = n'.named := by
  cases h
  assumption

theorem field : n.field = n'.field := by
  cases h
  assumption

theorem content : List.Forall₂ (Alike source other) n.content n'.content := by
  cases h
  assumption

end Alike

namespace Twins

section

variable (h : Twins source other depth depth' n n')
include h

theorem kind : n.kind = n'.kind := h.alike.kind

theorem named : n.named = n'.named := h.alike.named

theorem field : n.field = n'.field := h.alike.field

theorem isComment : n.isComment = n'.isComment := by
  rw [Node.isComment, Node.isComment, h.kind]

/-- Names have the same texts. -/
theorem text (name : n.kind.isIdentifier = true ∨ n.field = some .name) :
    n.span.text source = n'.span.text other := by
  have leaf := h.readable.leaves n n.self_mem_nodes name
  rw [h.kind, h.field] at name
  have leaf' := h.readable'.leaves n' n'.self_mem_nodes name
  cases h.alike with
  | mk _ _ _ _ bytes => rw [Span.text, Span.text, bytes leaf leaf']

end

/-- Children are twins, if they are low enough. -/
theorem content_of_low {bound bound' : Nat} (h : Twins source other depth depth' n n')
    (low : ∀ c ∈ n.children, c.height ≤ bound) (low' : ∀ c ∈ n'.children, c.height ≤ bound') :
    List.Forall₂ (Twins source other bound bound') n.content n'.content := by
  have isChild {m c : Node} (hc : c ∈ m.content) : c ∈ m.children := List.mem_of_mem_filter hc
  exact forall₂_imp_of_mem h.alike.content fun c hc c' hc' alike =>
    ⟨alike, h.readable.child (isChild hc), h.readable'.child (isChild hc'), low c (isChild hc),
      low' c' (isChild hc')⟩

theorem content (h : Twins source other depth depth' n n') :
    List.Forall₂ (Twins source other depth depth') n.content n'.content :=
  h.content_of_low (fun _ hc => Nat.le_trans (Nat.le_of_lt (height_lt_of_mem_children hc)) h.low)
    fun _ hc => Nat.le_trans (Nat.le_of_lt (height_lt_of_mem_children hc)) h.low'

theorem content_succ (h : Twins source other (depth + 1) (depth' + 1) n n') :
    List.Forall₂ (Twins source other depth depth') n.content n'.content :=
  h.content_of_low
    (fun _ hc => Nat.le_of_lt_succ (Nat.lt_of_lt_of_le (height_lt_of_mem_children hc) h.low))
    fun _ hc => Nat.le_of_lt_succ (Nat.lt_of_lt_of_le (height_lt_of_mem_children hc) h.low')

theorem parts (h : Twins source other depth depth' n n') :
    List.Forall₂ (Twins source other depth depth') n.parts n'.parts := by
  rw [parts_eq_content, parts_eq_content]
  exact forall₂_filter h.content fun c c' twins => twins.named.symm

end Twins

theorem twins_filter (p : Kind → Bool) {cs cs' : List Node}
    (h : List.Forall₂ (Twins source other depth depth') cs cs') :
    List.Forall₂ (Twins source other depth depth') (cs.filter (p ·.kind)) (cs'.filter (p ·.kind)) :=
  forall₂_filter h fun c c' twins => by rw [twins.kind]

/-! ## Searches -/

/-- A search for kinds that no comment is of passes over comments. -/
theorem child?_eq (rule : ∀ k, wanted k = true → k.isRule = true) :
    n.child? wanted = n.content.find? (wanted ·.kind) := by
  refine (find?_filter fun c _ comment => ?_).symm
  cases found : wanted c.kind with
  | false => rfl
  | true => simp [Node.isComment, Kind.isComment_of_isRule (rule c.kind found)] at comment

/-- A search in a field that no comment fills passes over comments. -/
theorem find?_field (fieldless : ∀ c ∈ n.children, c.isComment = true → c.field = none)
    (f : Field) :
    n.children.find? (·.field = some f) = n.content.find? (·.field = some f) := by
  refine (find?_filter fun c hc comment => ?_).symm
  simp [fieldless c hc (by simpa using comment)]

/-- No comment fills a field. -/
theorem Readable.find?_field (h : n.Readable) (f : Field) :
    n.children.find? (·.field = some f) = n.content.find? (·.field = some f) :=
  Node.find?_field (fun c hc comment => (h.comments c (child_mem_nodes hc) comment).1) f

/-- On the second level comments hold nothing that is looked for. -/
theorem Readable.find?_grandchildren (h : n.Readable)
    (rule : ∀ k, wanted k = true → k.isRule = true) :
    (n.children.flatMap children).find? (wanted ·.kind)
      = n.content.findSome? (·.child? wanted) := by
  rw [List.find?_flatMap]
  refine (findSome?_filter fun c hc comment => ?_).symm
  have signs := (h.comments c (child_mem_nodes hc) (by simpa using comment)).2
  rw [List.find?_eq_none]
  intro d hd found
  have sign := signs d hd
  rw [rule d.kind (by simpa using found)] at sign
  cases sign

namespace Twins

variable (h : Twins source other depth depth' n n')
include h

theorem child? (rule : ∀ k, wanted k = true → k.isRule = true) :
    Option.Rel (Twins source other depth depth') (n.child? wanted) (n'.child? wanted) := by
  rw [child?_eq rule, child?_eq rule]
  exact rel_find? h.content fun c c' twins => by rw [twins.kind]

theorem fieldOrChild? (f : Field) (rule : ∀ k, wanted k = true → k.isRule = true) :
    Option.Rel (Twins source other depth depth') (n.fieldOrChild? f wanted)
      (n'.fieldOrChild? f wanted) := by
  have inField : Option.Rel (Twins source other depth depth') (n.children.find? (·.field = some f))
      (n'.children.find? (·.field = some f)) := by
    rw [h.readable.find?_field, h.readable'.find?_field]
    exact rel_find? h.content fun c c' twins => by rw [twins.field]
  unfold Node.fieldOrChild?
  generalize n.children.find? (·.field = some f) = o at inField
  generalize n'.children.find? (·.field = some f) = o' at inField
  cases inField with
  | some twins => exact .some twins
  | none => exact h.child? rule

theorem descendant? (rule : ∀ k, wanted k = true → k.isRule = true) :
    Option.Rel (Twins source other depth depth') (n.descendant? wanted 2)
      (n'.descendant? wanted 2) := by
  have first := h.child? rule
  have second : Option.Rel (Twins source other depth depth')
      ((n.children.flatMap children).find? (wanted ·.kind))
      ((n'.children.flatMap children).find? (wanted ·.kind)) := by
    rw [h.readable.find?_grandchildren rule, h.readable'.find?_grandchildren rule]
    exact rel_findSome? h.content fun c _ c' _ twins => twins.child? rule
  -- the second level only counts if there is nothing on the first one, in both trees
  simp only [Node.descendant?, findOnLevels, Node.child?] at first ⊢
  generalize n.children.find? (wanted ·.kind) = o at first
  generalize n'.children.find? (wanted ·.kind) = o' at first
  cases first with
  | some twins => exact .some twins
  | none =>
      generalize (n.children.flatMap children).find? (wanted ·.kind) = p at second
      generalize (n'.children.flatMap children).find? (wanted ·.kind) = p' at second
      cases second with
      | some twins => exact .some twins
      | none => exact .none

end Twins

/-! ## Groups between commas -/

theorem commaGroupsFrom_filter (open_ : List Node) (trailing : Bool) (cs : List Node) :
    commaGroupsFrom open_ trailing (cs.filter fun c => !c.isComment)
      = commaGroupsFrom open_ trailing cs := by
  induction cs generalizing open_ trailing with
  | nil => rfl
  | cons c cs ih =>
      cases comment : c.isComment with
      | true => simp [commaGroupsFrom, comment, ih]
      | false => simp [commaGroupsFrom, comment, ih]

theorem twins_commaGroupsFrom {open_ open' : List Node} {cs cs' : List Node}
    (opened : List.Forall₂ (Twins source other depth depth') open_ open') (trailing : Bool)
    (h : List.Forall₂ (Twins source other depth depth') cs cs') :
    List.Forall₂ (List.Forall₂ (Twins source other depth depth'))
        (commaGroupsFrom open_ trailing cs).groups (commaGroupsFrom open' trailing cs').groups ∧
      (commaGroupsFrom open_ trailing cs).trailing
        = (commaGroupsFrom open' trailing cs').trailing := by
  induction h generalizing open_ open' trailing with
  | nil =>
      cases opened with
      | nil => exact ⟨.nil, rfl⟩
      | cons first later => exact ⟨.cons (.cons first later) .nil, rfl⟩
  | @cons c c' cs cs' twins _ ih =>
      rw [commaGroupsFrom, commaGroupsFrom, twins.isComment, twins.kind, twins.named]
      split
      · exact ih opened trailing
      · split
        · obtain ⟨groups, last⟩ := ih .nil true
          cases opened with
          | nil => exact ⟨groups, last⟩
          | cons first later => exact ⟨.cons (.cons first later) groups, last⟩
        · split
          · exact ih (List.rel_append opened (.cons twins .nil)) false
          · exact ih opened trailing

/-- Siblings that are alike apart from comments have groups that are. -/
theorem twins_commaGroups {cs cs' : List Node}
    (h : List.Forall₂ (Twins source other depth depth') (cs.filter fun c => !c.isComment)
      (cs'.filter fun c => !c.isComment)) :
    List.Forall₂ (List.Forall₂ (Twins source other depth depth')) (commaGroups cs).groups
        (commaGroups cs').groups ∧
      (commaGroups cs).trailing = (commaGroups cs').trailing := by
  have twins := twins_commaGroupsFrom .nil false h
  rwa [commaGroupsFrom_filter, commaGroupsFrom_filter] at twins

end Node

end RouteGraft.Dart
