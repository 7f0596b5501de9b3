import RouteGraft.Proofs.Appending
import RouteGraft.Proofs.Placement

/-!
# Expressions

An expression is a text with the nodes it is made of, as siblings.  Its nodes say
nothing of the source it is put into, so it is read alone first: if none of its
nodes cuts a character in two, all names in it can be decoded and it is read as an
element (`Expression.exists_reading`).

Put at the end of a list, with the commas it needs there, it is read as the same
element, at its new place (`Expression.append`).
-/

namespace RouteGraft

open Dart (Node Kind Field)

/-! ## Sources in which all names can be decoded -/

/-- A tree of whose nodes each one has a text. -/
def Legible (source : Bytes) (n : Node) : Prop := ∀ m ∈ n.nodes, ∃ s, m.span.text source = .ok s

theorem Legible.child {source : Bytes} {n c : Node} (h : Legible source n) (hc : c ∈ n.children) :
    Legible source c := fun m hm => h m (Node.mem_nodes_of_mem_children hc hm)

/-- In a source of characters every node that starts and stops between characters
has a text. -/
theorem BetweenCharacters.legible {s : String} {n : Node}
    (h : BetweenCharacters (Utf8.encode s) n)
    (inside : ∀ m ∈ n.nodes, m.span.start ≤ m.span.stop) : Legible (Utf8.encode s) n := by
  intro m hm
  obtain ⟨start, stop⟩ := h m hm
  have le := inside m hm
  obtain ⟨-, cs, behind⟩ := (Utf8.encodes_encode s).split start
  have boundary : Utf8.IsBoundary ((Utf8.encode s).drop m.span.start.toNat)
      (m.span.stop.toNat - m.span.start.toNat) := by
    intro b hb
    rw [List.getElem?_drop, Nat.add_sub_cancel' (by omega)] at hb
    exact stop b hb
  obtain ⟨⟨ds, between⟩, -⟩ := behind.split boundary
  refine ⟨String.ofList ds, Utf8.decode_eq_ok.2 ?_⟩
  rwa [String.toList_ofList]

namespace Outline

variable {list : Node → Reading ListLiteral} {source : Bytes}

theorem argumentValue_total {a : Node} (h : ∀ v ∈ a.parts, ∃ l, list v = .ok l) :
    ∃ v, argumentValue list a = .ok v := by
  unfold argumentValue
  split
  · next v parts =>
      obtain ⟨l, read⟩ := h v (List.mem_of_mem_filter (parts ▸ List.mem_singleton_self v))
      split
      · exact ⟨some l, by rw [read]; rfl⟩
      · exact ⟨none, rfl⟩
  · exact ⟨none, rfl⟩

theorem namedArgument?_total {a : Node} (legible : Legible source a)
    (h : ∀ v ∈ a.parts, ∃ l, list v = .ok l) : ∃ o, namedArgument? list source a = .ok o := by
  unfold namedArgument?
  split
  · exact ⟨none, rfl⟩
  · next m found =>
      obtain ⟨v, value⟩ := argumentValue_total h
      obtain ⟨s, name⟩ := legible m (argumentName?_mem found)
      exact ⟨some ⟨s, a.span, v⟩, by rw [value, name]; rfl⟩

theorem namedArguments_total {arguments : Node} (legible : Legible source arguments)
    (h : ∀ a ∈ arguments.parts, ∀ v ∈ a.parts, ∃ l, list v = .ok l) :
    ∃ as, namedArguments list source arguments = .ok as := by
  obtain ⟨os, read⟩ : ∃ os, List.Forall₂ (fun a o => namedArgument? list source a = .ok o)
      (arguments.parts.filter (·.kind = .construct .namedArgument)) os := by
    refine exists_forall₂ fun a ha => ?_
    have isPart := List.mem_of_mem_filter ha
    exact namedArgument?_total (legible.child (Node.mem_children_of_mem_parts isPart)) (h a isPart)
  exact ⟨present os, map_eq_ok.2 ⟨os, mapM_eq_ok.2 read, rfl⟩⟩

/-- A group of nodes is read as an element if the names and lists in it are read. -/
theorem readsElement_total {group : List Node} (nonempty : group ≠ [])
    (legible : ∀ n ∈ group, Legible source n)
    (h : ∀ n ∈ group, ∀ v ∈ n.nodes, ∃ l, list v = .ok l) :
    ∃ e, ReadsElement list source group e := by
  obtain ⟨first, rest, rfl⟩ := List.exists_cons_of_ne_nil nonempty
  suffices ∃ e, listElement list source first rest = .ok e by
    obtain ⟨e, read⟩ := this
    exact ⟨e, first, rest, rfl, read⟩
  unfold listElement
  split
  · exact ⟨_, rfl⟩
  · next name arguments plain =>
      obtain ⟨hname, call, hcall, isNode⟩ := plainCall?_mem plain
      obtain ⟨s, callee⟩ := legible name hname name name.self_mem_nodes
      have argumentsLegible : Legible source arguments :=
        fun m hm => legible call hcall m (Node.mem_nodes_trans hm isNode)
      obtain ⟨as, read⟩ := @namedArguments_total list source arguments argumentsLegible
        fun a ha v hv => h call hcall v (Node.mem_nodes_trans (Node.mem_nodes_of_mem_children
          (Node.mem_children_of_mem_parts ha) (Node.child_mem_nodes
            (Node.mem_children_of_mem_parts hv))) isNode)
      exact ⟨_, by rw [callee, read]; rfl⟩

/-- Every list of a legible tree is read, down to any depth. -/
theorem listLiteralTo_total (depth : Nat) {n : Node} (legible : Legible source n) :
    ∃ l, listLiteralTo source depth n = .ok l := by
  induction depth generalizing n with
  | zero => exact ⟨_, rfl⟩
  | succ depth ih =>
      rw [listLiteralTo]
      obtain ⟨es, related⟩ : ∃ es, List.Forall₂ (ReadsElement (listLiteralTo source depth) source)
          (Node.commaGroups (insideBrackets n).1).groups es := by
        refine exists_forall₂ fun group hgroup => ?_
        have isChild : ∀ c ∈ group, c ∈ n.children := fun c => mem_children_of_mem_group hgroup
        refine readsElement_total (Node.ne_nil_of_mem_commaGroups hgroup)
          (fun c hc => legible.child (isChild c hc)) fun c hc v hv => ih fun m hm => ?_
        exact legible.child (isChild c hc) m (Node.mem_nodes_trans hm hv)
      exact ⟨⟨n.span, _, es, _⟩, listLiteralWith_eq_ok.2 ⟨rfl, rfl, rfl, related⟩⟩

/-- A group of legible nodes is read as an element. -/
theorem exists_readsGroup {group : List Node} (nonempty : group ≠ [])
    (nested : ∀ n ∈ group, n.Nested) (legible : ∀ n ∈ group, Legible source n) :
    ∃ e, ReadsGroup source group e := by
  obtain ⟨e, read⟩ := @readsElement_total (listLiteralTo source (Node.height.heights group)) source
    group nonempty legible fun n hn v hv => listLiteralTo_total _ fun m hm =>
      legible n hn m (Node.mem_nodes_trans hm hv)
  refine ⟨e, fun depth low => ?_⟩
  have moved := read.shift (carries_listLiteralTo source source 0 _ depth) nested
    (fun n _ => Span.SameText.refl source n.span) fun n hn => by
      have := Node.height_le_heights hn
      have := low n hn
      omega
  rwa [Node.map_shift_zero, ListElementOf.shift_zero] at moved

end Outline

/-! ## Expressions -/

/-- A text between two others has the text it has alone. -/
theorem Span.sameText_of_append (front middle back : Bytes) :
    SameText middle (front ++ middle ++ back) front.length ⟨0, middle.length⟩ := by
  rintro s ⟨start, le, stop⟩
  dsimp only at start stop
  have moved : (s.start + front.length).toNat = front.length + s.start.toNat := by omega
  have same : (s.stop + front.length).toNat - (s.start + front.length).toNat
      = s.stop.toNat - s.start.toNat := by omega
  rw [bytes, bytes, start_shift, stop_shift, same, moved, List.append_assoc,
    List.drop_length_add_append, List.drop_append_of_le_length (by omega),
    List.take_append_of_le_length (by rw [List.length_drop]; omega)]

/-- A whole text as a span of itself. -/
theorem Span.text_encode (s : String) : Span.text (Utf8.encode s) ⟨0, Utf8.size s⟩ = .ok s := by
  have whole : Span.bytes (Utf8.encode s) ⟨0, Utf8.size s⟩ = Utf8.encode s := by
    rw [bytes, Utf8.size]
    simp
  rw [text, whole, Utf8.decode_encode]

/-- A text between two others as a span of the whole. -/
theorem Span.text_of_append (front s back : String) :
    Span.text (Utf8.encode (front ++ s ++ back))
      ⟨Utf8.size front, Utf8.size front + Utf8.size s⟩ = .ok s := by
  have same := sameText_of_append (Utf8.encode front) (Utf8.encode s) (Utf8.encode back)
  have whole : Inside ⟨0, Utf8.size s⟩ ⟨0, (Utf8.encode s).length⟩ :=
    ⟨Int.le_refl _, Utf8.size_nonneg s, Int.le_refl _⟩
  have moved := same.text whole
  rw [text_encode] at moved
  rw [Utf8.encode_append, Utf8.encode_append, ← moved, shift, Int.zero_add, Int.add_comm]
  rfl

/-- An expression: a text, and the nodes it is made of, as siblings.  The parts among
them go from the start of the text to its end, and no comma is among them. -/
structure Expression where
  text : String
  nodes : List Node
  nested : ∀ n ∈ nodes, n.Nested
  ordered : Span.Ordered (nodes.map Node.span)
  inside : ∀ n ∈ nodes, n.span.Inside ⟨0, Utf8.size text⟩
  noComma : ∀ n ∈ nodes, n.kind ≠ .terminal .comma
  whole : ∃ first rest, nodes.filter Node.isItem = first :: rest ∧ first.span.start = 0 ∧
    (rest.getLastD first).span.stop = Utf8.size text

namespace Expression

variable (x : Expression)

/-- The parts of an expression. -/
def parts : List Node := x.nodes.filter Node.isItem

/-- An expression is read as an element if it is read at all, and the element goes from
its start to its end. -/
theorem span_of_readsGroup {source : Bytes} {e : ListElement}
    (h : Outline.ReadsGroup source x.parts e) : e.span = ⟨0, Utf8.size x.text⟩ := by
  obtain ⟨first, rest, shape, start, stop⟩ := x.whole
  obtain ⟨first', rest', shape', span⟩ :=
    (h _ fun n hn => Node.height_le_heights hn).span
  rw [parts, shape] at shape'
  cases shape'
  rw [span, Span.through, start, stop]

/-- An expression is read as an element if none of its nodes cuts a character in two. -/
theorem exists_reading (between : ∀ n ∈ x.nodes, BetweenCharacters (Utf8.encode x.text) n) :
    ∃ e, Outline.ReadsGroup (Utf8.encode x.text) x.parts e := by
  obtain ⟨first, rest, shape, -⟩ := x.whole
  refine Outline.exists_readsGroup (by rw [parts, shape]; exact List.cons_ne_nil _ _)
    (fun n hn => x.nested n (List.mem_of_mem_filter hn)) fun n hn => ?_
  have hn := List.mem_of_mem_filter hn
  exact (between n hn).legible fun m hm => ((x.nested n hn).of_mem_nodes m hm).1.start_le_stop

/-! ## Putting an expression into a list -/

/-- What stands in front of a new element at the end of a list. -/
def lead (comma : Bool) : String := if comma then ", " else ""

/-- The text of an expression as a new element at the end of a list. -/
def piece (comma : Bool) : String :=
  lead comma ++ x.text ++ (if comma then "," else ",\n")

theorem piece_eq (comma : Bool) :
    x.piece comma = if comma then ", " ++ (x.text ++ ",") else x.text ++ "," ++ "\n" := by
  cases comma with
  | false =>
      rw [piece, lead, if_neg Bool.false_ne_true, if_neg Bool.false_ne_true,
        if_neg Bool.false_ne_true, String.empty_append, String.append_assoc]
      rfl
  | true => rw [piece, lead, if_pos rfl, if_pos rfl, if_pos rfl, String.append_assoc]

/-- Where an expression starts that is put in at an offset. -/
def start (comma : Bool) (k : Int) : Int := k + Utf8.size (lead comma)

/-- The nodes of an expression as a new element at the end of a list, with the commas
around it. -/
def placed (comma : Bool) (k : Int) : List Node :=
  (if comma then [Node.token .comma k (k + 1)] else [])
    ++ (x.nodes.map (Node.shift (start comma k))
      ++ [Node.token .comma (start comma k + Utf8.size x.text)
        (start comma k + Utf8.size x.text + 1)])

section Placed

variable {x} {comma : Bool} {k : Int}

theorem size_piece : Utf8.size (x.piece comma)
    = Utf8.size (lead comma) + Utf8.size x.text + if comma then 1 else 2 := by
  rw [piece, Utf8.size_append, Utf8.size_append]
  cases comma <;> rfl

/-- What is put in for an expression: the comma in front of it, its nodes, and the
comma behind it. -/
theorem mem_placed {m : Node} (hm : m ∈ x.placed comma k) :
    comma = true ∧ m = Node.token .comma k (k + 1) ∨
      (∃ n ∈ x.nodes, m = n.shift (start comma k)) ∨
      m = Node.token .comma (start comma k + Utf8.size x.text)
        (start comma k + Utf8.size x.text + 1) := by
  simp only [placed, List.mem_append, List.mem_map, List.mem_singleton] at hm
  rcases hm with hm | ⟨n, hn, rfl⟩ | rfl
  · cases comma with
    | false => cases hm
    | true => exact .inl ⟨rfl, List.mem_singleton.1 hm⟩
  · exact .inr (.inl ⟨n, hn, rfl⟩)
  · exact .inr (.inr rfl)

theorem nested_placed : ∀ m ∈ x.placed comma k, m.Nested := by
  intro m hm
  rcases mem_placed hm with ⟨-, rfl⟩ | ⟨n, hn, rfl⟩ | rfl
  · exact Node.nested_token (by omega)
  · exact (x.nested n hn).shift _
  · exact Node.nested_token (by omega)

theorem inside_placed :
    ∀ m ∈ x.placed comma k, m.span.Inside ⟨k, k + Utf8.size (x.piece comma)⟩ := by
  intro m hm
  have size := @size_piece x comma
  have text := Utf8.size_nonneg x.text
  have front := Utf8.size_nonneg (lead comma)
  unfold Span.Inside
  rcases mem_placed hm with ⟨rfl, rfl⟩ | ⟨n, hn, rfl⟩ | rfl
  · simp only [Node.token, Node.span_mk, if_true] at *
    omega
  · have inside := x.inside n hn
    unfold Span.Inside at inside
    rw [Node.span_shift, Span.start_shift, Span.stop_shift, start]
    split at size <;> dsimp only at * <;> omega
  · simp only [Node.token, Node.span_mk, start]
    split at size <;> omega

theorem ordered_placed : Span.Ordered ((x.placed comma k).map Node.span) := by
  have text := Utf8.size_nonneg x.text
  have moved := Node.ordered_shift (start comma k) x.ordered
  have inside : ∀ n ∈ x.nodes, start comma k ≤ (n.shift (start comma k)).span.start ∧
      (n.shift (start comma k)).span.stop ≤ start comma k + Utf8.size x.text := by
    intro n hn
    have inside := x.inside n hn
    unfold Span.Inside at inside
    rw [Node.span_shift, Span.start_shift, Span.stop_shift]
    dsimp only at inside
    omega
  rw [placed, List.map_append, List.map_append]
  refine Span.Ordered.append (k := start comma k) ?_ (Span.Ordered.append
    (k := start comma k + Utf8.size x.text) moved ?_ ?_ ?_) ?_ ?_
  · split <;> simp [Span.Ordered]
  · simp [Span.Ordered]
  · intro s hs
    obtain ⟨m, hm, rfl⟩ := List.mem_map.1 hs
    obtain ⟨n, hn, rfl⟩ := List.mem_map.1 hm
    exact (inside n hn).2
  · simp [Node.token]
  · intro s hs
    cases comma with
    | false => simp at hs
    | true =>
        have two : Utf8.size (lead true) = 2 := rfl
        simp only [if_true, List.map_singleton, List.mem_singleton, Node.token, Node.span_mk] at hs
        subst hs
        rw [start, two]
        dsimp only
        omega
  · intro s hs
    rcases List.mem_append.1 hs with hs | hs
    · obtain ⟨m, hm, rfl⟩ := List.mem_map.1 hs
      obtain ⟨n, hn, rfl⟩ := List.mem_map.1 hm
      exact (inside n hn).1
    · rw [List.map_singleton, List.mem_singleton] at hs
      subst hs
      simp [Node.token]
      omega

end Placed

/-- Behind an offset at which it is put in, an expression has its text. -/
theorem sameText_of_splice {content after : Bytes} {k : Int} {comma : Bool}
    (h : splice content k (Utf8.encode (x.piece comma)) = .ok after) :
    Span.SameText (Utf8.encode x.text) after (start comma k) ⟨0, Utf8.size x.text⟩ := by
  obtain ⟨positive, inside, rfl⟩ := splice_ok h
  have front : (content.take k.toNat).length = k.toNat := List.length_take_of_le (by omega)
  have place : start comma k
      = ((content.take k.toNat ++ Utf8.encode (lead comma)).length : Int) := by
    rw [List.length_append, front, start, Utf8.size]
    omega
  rw [place, piece, Utf8.encode_append, Utf8.encode_append, ← List.append_assoc,
    ← List.append_assoc, List.append_assoc _ (Utf8.encode _) (content.drop _)]
  exact Span.sameText_of_append _ _ _

/-- An expression that is put at the end of a list is its last element, with a comma
behind it. -/
theorem append {content after : Bytes} {k : Int} {comma : Bool}
    (spliced : splice content k (Utf8.encode (x.piece comma)) = .ok after)
    {n opening closing : Node} {front siblings inside gap : List Node} {l : ListLiteral}
    {e : ListElement} (full : n.Full content.length)
    (bracketed : n.Bracketed front opening siblings closing)
    (place : n.Place front opening siblings closing comma k inside gap)
    (element : Outline.ReadsGroup (Utf8.encode x.text) x.parts e)
    (read : Outline.Reads content n l) :
    Outline.Reads after (n.graft k (Utf8.size (x.piece comma)) (x.placed comma k))
      (l.grow (Utf8.size (x.piece comma)) (ListElementOf.shift (start comma k) e)) := by
  have moved : (x.nodes.map (Node.shift (start comma k))).filter Node.isItem
      = x.parts.map (Node.shift (start comma k)) := by
    rw [List.filter_map]
    exact congrArg (List.map _) (List.filter_congr fun n _ => (Node.keeps_shift _).isItem n)
  have noComma : ∀ n ∈ x.nodes.map (Node.shift (start comma k)), n.kind ≠ .terminal .comma := by
    intro n hn
    obtain ⟨m, hm, rfl⟩ := List.mem_map.1 hn
    rw [Node.kind_shift]
    exact x.noComma m hm
  have isNode : ∀ n ∈ x.parts, n ∈ x.nodes := fun n hn => List.mem_of_mem_filter hn
  have items : (x.nodes.map (Node.shift (start comma k))).filter Node.isItem ≠ [] := by
    obtain ⟨first, rest, shape, -⟩ := x.whole
    rw [moved, parts, shape]
    exact List.cons_ne_nil _ _
  have groups := @Node.commaGroups_append inside _ (x.placed comma k)
    (Node.token .comma (start comma k + Utf8.size x.text) (start comma k + Utf8.size x.text + 1))
    rfl noComma items (by
      cases comma with
      | false =>
          rcases place.closed with comma | closed
          · cases comma
          · exact .inr ⟨closed, rfl⟩
      | true => exact .inl ⟨Node.token .comma k (k + 1), rfl, rfl⟩)
  rw [moved] at groups
  refine Outline.Reads.append (Span.spliced_of_splice spliced) full bracketed place groups ?_
    (element.shift (fun n hn => x.nested n (isNode n hn)) fun n hn => ?_) read
  · intro c hc
    obtain ⟨m, hm, rfl⟩ := List.mem_map.1 hc
    exact List.mem_append_right _ (List.mem_append_left _ (List.mem_map_of_mem (isNode m hm)))
  · exact (x.sameText_of_splice spliced).of_inside (x.inside n (isNode n hn))

end Expression

end RouteGraft
