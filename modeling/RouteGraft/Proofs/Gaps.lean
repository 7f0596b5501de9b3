import Mathlib.Data.List.Pairwise
import RouteGraft.Proofs.Nesting

/-!
# Gaps of a tree

A text may be put in anywhere between two tokens of a source, and nowhere else.
The offsets between tokens are the *gaps* of its tree: the ends of the nodes that
can be reached without going into a node that has to stay in one piece.  Such a
*solid* node is a leaf or a comment.  A comment of a grammar fills no field and
consists of tokens at most.  A node that is only called a comment, and has a field
or a structure, is a construct like any other.

In a nested tree a gap lies inside of no solid node (`Gap.not_splits`).  All
offsets that an outline gives for the ends of classes, elements and brackets are
gaps (`classEnd_gap`, `closingBrace_gap`, `returnedList_gap`).
-/

namespace RouteGraft

open Dart (Node Kind Field)

/-- Whether an offset lies strictly inside of a span. -/
def Span.Splits (k : Int) (s : Span) : Prop := s.start < k ∧ k < s.stop

namespace Dart.Node

/-! ## Solid nodes -/

/-- Whether a node has to stay in one piece: a leaf, or a comment. -/
def isSolid (n : Node) : Bool :=
  n.children.isEmpty ||
    (n.isComment && n.field.isNone && n.children.all (·.children.isEmpty))

/-- A node that has a child and is no comment can be cut. -/
theorem not_isSolid_of_child {n c : Node} (hc : c ∈ n.children) (h : n.isComment = false) :
    n.isSolid = false := by
  have nonempty : n.children ≠ [] := List.ne_nil_of_mem hc
  simp [isSolid, h, nonempty]

theorem not_isSolid_of_field {n c : Node} {f : Field} (hc : c ∈ n.children)
    (h : n.field = some f) : n.isSolid = false := by
  have nonempty : n.children ≠ [] := List.ne_nil_of_mem hc
  simp [isSolid, h, nonempty]

theorem not_isSolid_of_grandchild {n c d : Node} (hc : c ∈ n.children) (hd : d ∈ c.children) :
    n.isSolid = false := by
  have nonempty : n.children ≠ [] := List.ne_nil_of_mem hc
  have structured : n.children.all (·.children.isEmpty) = false := by
    rw [List.all_eq_false]
    exact ⟨c, hc, by simpa using List.ne_nil_of_mem hd⟩
  simp [isSolid, structured, nonempty]

/-! ## Gaps -/

/-- An offset at an end of a node that is reached without going into a solid one. -/
inductive Gap : Node → Int → Prop
  | start {n : Node} : Gap n n.span.start
  | stop {n : Node} : Gap n n.span.stop
  | child {n c : Node} {k : Int} : c ∈ n.children → n.isSolid = false → Gap c k → Gap n k

namespace Gap

variable {n : Node} {k : Int}

theorem inside (h : Gap n k) (nested : n.Nested) : n.span.start ≤ k ∧ k ≤ n.span.stop := by
  induction h with
  | start => exact ⟨Int.le_refl _, nested.start_le_stop⟩
  | stop => exact ⟨nested.start_le_stop, Int.le_refl _⟩
  | @child n c k hc _ _ ih =>
      obtain ⟨start, stop⟩ := ih (nested.child c hc)
      have within := nested.child_inside c hc
      exact ⟨Int.le_trans within.1 start, Int.le_trans stop within.2.2⟩

/-- A gap is an end of some node of the tree. -/
theorem exists_end (h : Gap n k) : ∃ m ∈ n.nodes, k = m.span.start ∨ k = m.span.stop := by
  induction h with
  | @start n => exact ⟨n, n.self_mem_nodes, .inl rfl⟩
  | @stop n => exact ⟨n, n.self_mem_nodes, .inr rfl⟩
  | child hc _ _ ih =>
      obtain ⟨m, hm, isEnd⟩ := ih
      exact ⟨m, mem_nodes_of_mem_children hc hm, isEnd⟩

end Gap

/-- Of two different children of a nested node one ends before the other starts. -/
theorem Nested.before_or_before {n c d : Node} (nested : n.Nested) (hc : c ∈ n.children)
    (hd : d ∈ n.children) (h : c ≠ d) : c.span.Before d.span ∨ d.span.Before c.span := by
  have order : n.children.Pairwise fun a b => a.span.Before b.span :=
    List.pairwise_map.1 nested.ordered
  have either : n.children.Pairwise fun a b => a.span.Before b.span ∨ b.span.Before a.span :=
    order.imp .inl
  have : Std.Symm fun a b : Node => a.span.Before b.span ∨ b.span.Before a.span :=
    ⟨fun _ _ => Or.symm⟩
  exact either.forall hc hd h

/-- In a nested tree no gap lies inside of a solid node. -/
theorem Gap.not_splits {n : Node} {k : Int} (h : Gap n k) (nested : n.Nested) :
    ∀ m ∈ n.nodes, m.isSolid = true → ¬ m.span.Splits k := by
  induction h with
  | start =>
      rintro m hm - ⟨start, -⟩
      have within := (nested.of_mem_nodes m hm).2
      exact absurd within.1 (by omega)
  | stop =>
      rintro m hm - ⟨-, stop⟩
      have within := (nested.of_mem_nodes m hm).2
      exact absurd within.2.2 (by omega)
  | @child n c k hc hollow below ih =>
      intro m hm solid
      rcases mem_nodes.1 hm with rfl | ⟨d, hd, hm⟩
      · rw [hollow] at solid
        cases solid
      · by_cases same : d = c
        · subst same
          exact ih (nested.child d hd) m hm solid
        · -- the gap lies in one child and the solid node in another one
          obtain ⟨start, stop⟩ := below.inside (nested.child c hc)
          have within := ((nested.child d hd).of_mem_nodes m hm).2
          rintro ⟨mStart, mStop⟩
          rcases nested.before_or_before hd hc same with apart | apart
          · unfold Span.Before Span.Inside at *
            omega
          · unfold Span.Before Span.Inside at *
            omega

end Dart.Node

/-! ## Offsets of lists -/

/-- An offset that matters for what is put into a list, or into a list in it: that
of the closing bracket, and those behind elements. -/
inductive ListLiteral.Offset : ListLiteral → Int → Prop
  | bracket {l : ListLiteral} : Offset l l.rightBracket
  | element {l : ListLiteral} {e : ListElement} : e ∈ l.elements → Offset l e.span.stop
  | inner {l v : ListLiteral} {e : ListElement} {a : NamedArgument} {k : Int} :
      e ∈ l.elements → a ∈ e.namedArguments → a.value = some v → Offset v k → Offset l k

namespace Outline

variable {list : Node → Reading ListLiteral} {source : Bytes}

/-- A reader of lists that only gives gaps as offsets. -/
def AtGaps (list : Node → Reading ListLiteral) : Prop :=
  ∀ n l, n.isComment = false → list n = .ok l → ∀ k, l.Offset k → n.Gap k

theorem isComment_of_construct {n : Node} {c : Dart.Construct} (h : n.kind = .construct c) :
    n.isComment = false := by
  simp [Node.isComment, Kind.isComment, h]

/-- The arguments of a call are reached through nodes that can be cut. -/
theorem descendant?_gap {call arguments : Node} {k : Int} (hcall : call.isComment = false)
    (search : call.descendant? (· = .construct .arguments) 2 = some arguments)
    (nonempty : arguments.children ≠ []) (gap : arguments.Gap k) : call.Gap k := by
  rcases (Node.descendant?_two search).2 with child | ⟨c, hc, child⟩
  · exact .child child (Node.not_isSolid_of_child child hcall) gap
  · obtain ⟨d, hd⟩ := List.exists_mem_of_ne_nil _ nonempty
    refine .child hc (Node.not_isSolid_of_child hc hcall) ?_
    exact .child child (Node.not_isSolid_of_grandchild child hd) gap

/-- The offsets of a list that is the value of an argument are gaps. -/
theorem namedArgument?_gap {argument : Node} {a : NamedArgument} {v : ListLiteral} {k : Int}
    (sound : AtGaps list) (hargument : argument.isComment = false)
    (read : namedArgument? list source argument = .ok (some a)) (value : a.value = some v)
    (hk : v.Offset k) : argument.Gap k := by
  have read := (namedArgument?_eq_some read).2
  rw [value] at read
  obtain ⟨n, isPart, kind, read⟩ := argumentValue_eq_some read
  have isChild := Node.mem_children_of_mem_parts isPart
  exact .child isChild (Node.not_isSolid_of_child isChild hargument)
    (sound n v (isComment_of_construct kind) read k hk)

/-- The offsets of the lists among the arguments of an element are gaps. -/
theorem ReadsElement.gap {group : List Node} {e : ListElement} {a : NamedArgument}
    {v : ListLiteral} {k : Int} (sound : AtGaps list) (h : ReadsElement list source group e)
    (hgroup : ∀ c ∈ group, c.isComment = false) (ha : a ∈ e.namedArguments)
    (value : a.value = some v) (hk : v.Offset k) : ∃ c ∈ group, c.Gap k := by
  rcases h.arguments with none | ⟨name, call, arguments, rfl, search, read⟩
  · rw [none] at ha
    exact absurd ha List.not_mem_nil
  · obtain ⟨kept, sub, related⟩ := namedArguments_eq_ok read
    obtain ⟨n, hn, read⟩ := exists_left_of_mem related ha
    have isPart := sub.subset hn
    have isArgument := Node.mem_children_of_mem_parts isPart
    have kind : arguments.kind = .construct .arguments := by
      simpa using (Node.descendant?_two search).1
    have inArguments : arguments.Gap k := by
      refine .child isArgument ?_ ?_
      · exact Node.not_isSolid_of_child isArgument (isComment_of_construct kind)
      · exact namedArgument?_gap sound (Node.isComment_of_mem_parts isPart) read value hk
    refine ⟨call, by simp, ?_⟩
    exact descendant?_gap (hgroup call (by simp)) search (List.ne_nil_of_mem isArgument) inArguments

/-- One level of lists has gaps as offsets if the lists in it have. -/
theorem listLiteralWith_atGaps (sound : AtGaps list) : AtGaps (listLiteralWith list source) := by
  intro n l hn read k hk
  obtain ⟨-, bracket, -, related⟩ := listLiteralWith_eq_ok.1 read
  have groupOf : ∀ e ∈ l.elements, ∃ g, ReadsElement list source g e ∧
      ∀ c ∈ g, c ∈ n.children ∧ c.isComment = false := by
    intro e he
    obtain ⟨g, hg, read⟩ := exists_left_of_mem related he
    refine ⟨g, read, fun c hc => ?_⟩
    have isItem := List.mem_flatten_of_mem hg hc
    rw [Node.flatten_commaGroups, List.mem_filter] at isItem
    exact ⟨(insideBrackets_sublist n).subset isItem.1, Node.isComment_of_isItem isItem.2⟩
  have below {c : Node} {k : Int} (hc : c ∈ n.children) (gap : c.Gap k) : n.Gap k :=
    .child hc (Node.not_isSolid_of_child hc hn) gap
  cases hk with
  | bracket =>
      rw [bracket]
      rcases insideBrackets_cases n with ⟨-, stop⟩ | ⟨front, closing, back, shape, -, -, stop⟩
      · rw [stop]
        exact .stop
      · rw [stop]
        have isChild : closing ∈ n.children := by simp [shape]
        exact below isChild .start
  | @element l e he =>
      obtain ⟨g, read, inGroup⟩ := groupOf e he
      obtain ⟨_, _, last, hlast, span⟩ := read.ends
      rw [span]
      exact below (inGroup last hlast).1 .stop
  | @inner l v e a k he ha value hk =>
      obtain ⟨g, read, inGroup⟩ := groupOf e he
      obtain ⟨c, hc, gap⟩ := read.gap sound (fun c hc => (inGroup c hc).2) ha value hk
      exact below (inGroup c hc).1 gap

theorem listLiteralTo_atGaps (depth : Nat) : AtGaps (listLiteralTo source depth) := by
  induction depth with
  | zero =>
      intro n l _ read k hk
      rw [listLiteralTo] at read
      cases read
      cases hk with
      | bracket => exact .stop
      | element he => exact absurd he List.not_mem_nil
      | inner he => exact absurd he List.not_mem_nil
  | succ depth ih => exact listLiteralWith_atGaps ih

/-! ## Offsets of classes -/

theorem isComment_of_isClass {n : Node} (h : isClass n.kind = true) : n.isComment = false := by
  simp only [isClass, Bool.or_eq_true, decide_eq_true_eq] at h
  rcases h with h | h <;> simp [Node.isComment, Kind.isComment, h]

/-- The end of a class is a gap. -/
theorem classEnd_gap {root n : Node} {c : ClassOutline} (hn : n ∈ root.children)
    (read : classOutline? source n = .ok (some c)) : root.Gap c.span.stop := by
  obtain ⟨body, -, -, hbody, -, -, -, -, -, span, -⟩ := classOutline?_eq_some.1 read
  have isChild := (Node.fieldOrChild?_eq_some hbody).1
  rw [span]
  exact .child hn (Node.not_isSolid_of_grandchild hn isChild) .stop

/-- What is a gap of the body of a class is one of the tree. -/
theorem classBody_gap {root n body : Node} {k : Int} (hn : n ∈ root.children)
    (isClass : isClass n.kind = true) (hbody : classBody? n = some body) (gap : body.Gap k) :
    root.Gap k := by
  have isChild := (Node.fieldOrChild?_eq_some hbody).1
  refine .child hn (Node.not_isSolid_of_grandchild hn isChild) ?_
  exact .child isChild (Node.not_isSolid_of_child isChild (isComment_of_isClass isClass)) gap

/-- The body of a class can be cut, even if it is called a comment. -/
theorem classBody_not_isSolid {n body c : Node} (hbody : classBody? n = some body)
    (hc : c ∈ body.children) : body.isSolid = false := by
  rcases (Node.fieldOrChild?_eq_some hbody).2 with field | kind
  · exact Node.not_isSolid_of_field hc field
  · exact Node.not_isSolid_of_child hc (isComment_of_construct (by simpa using kind))

/-- The closing brace of a class stands at a gap. -/
theorem closingBrace_gap {root n : Node} {c : ClassOutline} (hn : n ∈ root.children)
    (isClass : isClass n.kind = true) (read : classOutline? source n = .ok (some c)) :
    root.Gap c.closingBrace := by
  obtain ⟨body, -, -, hbody, -, -, -, -, -, -, -, -, brace⟩ := classOutline?_eq_some.1 read
  refine classBody_gap hn isClass hbody ?_
  rw [brace, closingBrace]
  split
  · next brace found =>
      have isChild := List.mem_reverse.1 (List.mem_of_find?_eq_some found)
      exact .child isChild (classBody_not_isSolid hbody isChild) .start
  · exact .stop

/-- The offsets of the lists that the members of a class return are gaps. -/
theorem returnedList_gap {root n : Node} {c : ClassOutline} {l : ListLiteral} {k : Int}
    (hn : n ∈ root.children) (isClass : isClass n.kind = true)
    (read : classOutline? source n = .ok (some c)) (hl : l ∈ c.returnedLists) (hk : l.Offset k) :
    root.Gap k := by
  obtain ⟨body, -, -, hbody, -, -, -, -, members, -⟩ := classOutline?_eq_some.1 read
  obtain ⟨bodies, sub, related⟩ := membersFrom_returned members
  obtain ⟨b, hb, isBody, e, parts, kind, read⟩ := exists_left_of_mem related hl
  have bodyChild := sub.subset hb
  have isChild : e ∈ b.children :=
    Node.mem_children_of_mem_parts (parts ▸ List.mem_singleton_self e)
  refine classBody_gap hn isClass hbody ?_
  refine .child bodyChild (classBody_not_isSolid hbody bodyChild) ?_
  refine .child isChild (Node.not_isSolid_of_child isChild (isComment_of_construct isBody)) ?_
  exact listLiteralTo_atGaps e.height e l (isComment_of_construct kind) read k hk

end Outline

end RouteGraft
