import RouteGraft.Proofs.Changes
import RouteGraft.Proofs.Nesting

/-!
# Parts of a source that move

When something is put into a source, what stands behind it moves as a whole, and
what stands in front of it stays.  A part of a syntax tree that moves with its
text is read as it was read before: every name in it is the same, and every place
is moved by the same number of bytes.

Lists are read down to a depth, and all depths from the height of their tree on
give the same reading.  So a moved list may be read at any other such depth
(`listLiteralTo_shift`), and not moving it at all shows that the depth does not
matter (`reads_iff`).
-/

namespace RouteGraft

open Dart (Node Kind Field)

/-! ## Moved places -/

namespace Span

/-- A span that is moved by some bytes. -/
def shift (d : Int) (s : Span) : Span := ⟨s.start + d, s.stop + d⟩

@[simp] theorem start_shift (d : Int) (s : Span) : (s.shift d).start = s.start + d := rfl

@[simp] theorem stop_shift (d : Int) (s : Span) : (s.shift d).stop = s.stop + d := rfl

@[simp] theorem shift_zero (s : Span) : s.shift 0 = s := by
  cases s
  simp [shift]

theorem through_shift (d : Int) (a b : Span) :
    (a.shift d).through (b.shift d) = (a.through b).shift d := rfl

/-- Whether a source has in a span the text that another one has where the span is
moved to. -/
def SameText (source other : Bytes) (d : Int) (outer : Span) : Prop :=
  ∀ s : Span, s.Inside outer → (s.shift d).bytes other = s.bytes source

theorem SameText.of_inside {source other : Bytes} {d : Int} {inner outer : Span}
    (h : SameText source other d outer) (inside : inner.Inside outer) :
    SameText source other d inner :=
  fun s hs => h s (hs.trans inside)

theorem SameText.refl (source : Bytes) (outer : Span) : SameText source source 0 outer := by
  intro s _
  rw [shift_zero]

theorem SameText.text {source other : Bytes} {d : Int} {s outer : Span}
    (h : SameText source other d outer) (inside : s.Inside outer) :
    (s.shift d).text other = s.text source := by
  rw [Span.text, Span.text, h s inside]

/-- What stays keeps its text. -/
theorem SameText.text_stays {source other : Bytes} {s : Span} (h : SameText source other 0 s)
    (le : s.start ≤ s.stop) : s.text other = s.text source := by
  have same := h.text ⟨Int.le_refl _, le, Int.le_refl _⟩
  rwa [shift_zero] at same

end Span

/-! ## Moved outlines -/

mutual

/-- A list that is moved by some bytes. -/
def ListLiteral.shift (d : Int) : ListLiteral → ListLiteral
  | ⟨span, bracket, es, trailing⟩ =>
      ⟨span.shift d, bracket + d, ListElementOf.shiftAll d es, trailing⟩
termination_by structural l => l

/-- Elements that are moved by some bytes. -/
def ListElementOf.shiftAll (d : Int) : List ListElement → List ListElement
  | [] => []
  | e :: es => ListElementOf.shift d e :: ListElementOf.shiftAll d es
termination_by structural es => es

/-- An element that is moved by some bytes. -/
def ListElementOf.shift (d : Int) : ListElement → ListElement
  | ⟨span, callee, as⟩ => ⟨span.shift d, callee, NamedArgumentOf.shiftAll d as⟩
termination_by structural e => e

/-- Arguments that are moved by some bytes. -/
def NamedArgumentOf.shiftAll (d : Int) : List NamedArgument → List NamedArgument
  | [] => []
  | a :: as => NamedArgumentOf.shift d a :: NamedArgumentOf.shiftAll d as
termination_by structural as => as

/-- An argument that is moved by some bytes. -/
def NamedArgumentOf.shift (d : Int) : NamedArgument → NamedArgument
  | ⟨name, span, value⟩ => ⟨name, span.shift d, NamedArgumentOf.shiftValue d value⟩
termination_by structural a => a

/-- The value of an argument that is moved by some bytes. -/
def NamedArgumentOf.shiftValue (d : Int) : Option ListLiteral → Option ListLiteral
  | none => none
  | some l => some (ListLiteral.shift d l)
termination_by structural v => v

end

theorem ListElementOf.shiftAll_eq_map (d : Int) (es : List ListElement) :
    shiftAll d es = es.map (shift d) := by
  induction es with
  | nil => rfl
  | cons e es ih => rw [shiftAll, ih, List.map_cons]

theorem NamedArgumentOf.shiftAll_eq_map (d : Int) (as : List NamedArgument) :
    shiftAll d as = as.map (shift d) := by
  induction as with
  | nil => rfl
  | cons a as ih => rw [shiftAll, ih, List.map_cons]

theorem NamedArgumentOf.shiftValue_eq_map (d : Int) (v : Option ListLiteral) :
    shiftValue d v = v.map (ListLiteral.shift d) := by
  cases v <;> rfl

mutual

/-- Nothing changes if nothing is moved. -/
theorem ListLiteral.shift_zero : ∀ l : ListLiteral, l.shift 0 = l
  | ⟨span, bracket, es, trailing⟩ => by
      rw [ListLiteral.shift, Span.shift_zero, Int.add_zero, ListElementOf.shiftAll_zero es]
termination_by structural l => l

theorem ListElementOf.shiftAll_zero : ∀ es : List ListElement, ListElementOf.shiftAll 0 es = es
  | [] => rfl
  | e :: es => by
      rw [ListElementOf.shiftAll, ListElementOf.shift_zero e, ListElementOf.shiftAll_zero es]
termination_by structural es => es

theorem ListElementOf.shift_zero : ∀ e : ListElement, ListElementOf.shift 0 e = e
  | ⟨span, callee, as⟩ => by
      rw [ListElementOf.shift, Span.shift_zero, NamedArgumentOf.shiftAll_zero as]
termination_by structural e => e

theorem NamedArgumentOf.shiftAll_zero :
    ∀ as : List NamedArgument, NamedArgumentOf.shiftAll 0 as = as
  | [] => rfl
  | a :: as => by
      rw [NamedArgumentOf.shiftAll, NamedArgumentOf.shift_zero a, NamedArgumentOf.shiftAll_zero as]
termination_by structural as => as

theorem NamedArgumentOf.shift_zero : ∀ a : NamedArgument, NamedArgumentOf.shift 0 a = a
  | ⟨name, span, value⟩ => by
      rw [NamedArgumentOf.shift, Span.shift_zero, NamedArgumentOf.shiftValue_zero value]
termination_by structural a => a

theorem NamedArgumentOf.shiftValue_zero :
    ∀ v : Option ListLiteral, NamedArgumentOf.shiftValue 0 v = v
  | none => rfl
  | some l => by rw [NamedArgumentOf.shiftValue, ListLiteral.shift_zero l]
termination_by structural v => v

end

namespace ListLiteral

@[simp] theorem span_shift (d : Int) (l : ListLiteral) : (l.shift d).span = l.span.shift d := by
  cases l
  rfl

@[simp] theorem rightBracket_shift (d : Int) (l : ListLiteral) :
    (l.shift d).rightBracket = l.rightBracket + d := by
  cases l
  rfl

@[simp] theorem elements_shift (d : Int) (l : ListLiteral) :
    (l.shift d).elements = l.elements.map (ListElementOf.shift d) := by
  cases l
  exact ListElementOf.shiftAll_eq_map d _

@[simp] theorem hasTrailingComma_shift (d : Int) (l : ListLiteral) :
    (l.shift d).hasTrailingComma = l.hasTrailingComma := by
  cases l
  rfl

end ListLiteral

theorem ListElementOf.shift_eq (d : Int) (e : ListElement) :
    shift d e
      = ⟨e.span.shift d, e.callee, e.namedArguments.map (NamedArgumentOf.shift d)⟩ := by
  cases e
  rw [shift, NamedArgumentOf.shiftAll_eq_map]

@[simp] theorem ListElementOf.span_shift (d : Int) (e : ListElement) :
    (shift d e).span = e.span.shift d := by
  cases e
  rfl

@[simp] theorem ListElementOf.callee_shift (d : Int) (e : ListElement) :
    (shift d e).callee = e.callee := by
  cases e
  rfl

@[simp] theorem ListElementOf.namedArguments_shift (d : Int) (e : ListElement) :
    (shift d e).namedArguments = e.namedArguments.map (NamedArgumentOf.shift d) := by
  cases e
  exact NamedArgumentOf.shiftAll_eq_map d _

theorem NamedArgumentOf.shift_eq (d : Int) (a : NamedArgument) :
    shift d a = ⟨a.name, a.span.shift d, a.value.map (ListLiteral.shift d)⟩ := by
  cases a
  rw [shift, shiftValue_eq_map]

theorem ListLiteral.shift_eq (d : Int) (l : ListLiteral) :
    l.shift d = ⟨l.span.shift d, l.rightBracket + d, l.elements.map (ListElementOf.shift d),
      l.hasTrailingComma⟩ := by
  cases l
  rw [shift, ListElementOf.shiftAll_eq_map]

/-! ## Moved trees -/

namespace Dart.Node

/-- A tree that is moved by some bytes. -/
def shift (d : Int) : Node → Node
  | mk k n f s cs => mk k n f (s.shift d) (shiftAll d cs)
where
  /-- Trees that are moved by some bytes. -/
  shiftAll (d : Int) : List Node → List Node
    | [] => []
    | n :: rest => n.shift d :: shiftAll d rest

variable (d : Int) (n : Node)

theorem shiftAll_eq_map (cs : List Node) : shift.shiftAll d cs = cs.map (shift d) := by
  induction cs with
  | nil => rfl
  | cons c rest ih => rw [shift.shiftAll, ih, List.map_cons]

@[simp] theorem kind_shift : (n.shift d).kind = n.kind := by
  cases n
  rfl

@[simp] theorem named_shift : (n.shift d).named = n.named := by
  cases n
  rfl

@[simp] theorem field_shift : (n.shift d).field = n.field := by
  cases n
  rfl

@[simp] theorem span_shift : (n.shift d).span = n.span.shift d := by
  cases n
  rfl

@[simp] theorem children_shift : (n.shift d).children = n.children.map (shift d) := by
  cases n
  exact shiftAll_eq_map d _

@[simp] theorem shift_zero : n.shift 0 = n := by
  induction n using induct with
  | mk kind named field span children ih =>
      rw [shift, shiftAll_eq_map, Span.shift_zero, List.map_congr_left ih, List.map_id']

theorem map_shift_zero (cs : List Node) : cs.map (shift 0) = cs := by
  rw [List.map_congr_left fun c _ => shift_zero c, List.map_id']

theorem heights_eq_of_map {f : Node → Node} {cs : List Node}
    (h : ∀ c ∈ cs, (f c).height = c.height) : height.heights (cs.map f) = height.heights cs := by
  induction cs with
  | nil => rfl
  | cons c rest ih =>
      have same := h c List.mem_cons_self
      have later := ih fun d hd => h d (List.mem_cons_of_mem c hd)
      rw [List.map_cons, height.heights, height.heights, same, later]

@[simp] theorem height_shift : (n.shift d).height = n.height := by
  induction n using induct with
  | mk kind named field span children ih =>
      rw [shift, shiftAll_eq_map, height, height, heights_eq_of_map ih]

theorem height_le_heights {c : Node} {cs : List Node} (h : c ∈ cs) :
    c.height ≤ height.heights cs := by
  induction cs with
  | nil => cases h
  | cons a rest ih =>
      rw [height.heights]
      rcases List.mem_cons.1 h with rfl | h
      · exact Nat.le_max_left _ _
      · exact Nat.le_trans (ih h) (Nat.le_max_right _ _)

theorem heights_le_heights {cs cs' : List Node}
    (h : ∀ c ∈ cs, ∃ c' ∈ cs', c.height ≤ c'.height) : height.heights cs ≤ height.heights cs' := by
  induction cs with
  | nil => exact Nat.zero_le _
  | cons c rest ih =>
      rw [height.heights]
      obtain ⟨c', hc', le⟩ := h c List.mem_cons_self
      refine Nat.max_le.2 ⟨Nat.le_trans le (height_le_heights hc'), ?_⟩
      exact ih fun d hd => h d (List.mem_cons_of_mem c hd)

theorem height_pos : 0 < n.height := by
  cases n
  exact Nat.succ_pos _

variable {d n}

theorem exists_succ_of_height_le {depth : Nat} (low : n.height ≤ depth) : ∃ m, depth = m + 1 :=
  ⟨depth - 1, by have := n.height_pos; omega⟩

theorem height_lt_of_mem_children {c : Node} (h : c ∈ n.children) : c.height < n.height := by
  cases n with
  | mk kind named field span children =>
      rw [height]
      exact Nat.lt_succ_of_le (height_le_heights h)

theorem height_le_of_mem_nodes {m : Node} : m ∈ n.nodes → m.height ≤ n.height := by
  induction n using induct with
  | mk kind named field span children ih =>
      intro h
      rcases mem_nodes.1 h with rfl | ⟨c, hc, hm⟩
      · exact Nat.le_refl _
      · exact Nat.le_trans (ih c hc hm) (Nat.le_of_lt (height_lt_of_mem_children hc))

/-- Nodes in order that are moved together stay in order. -/
theorem ordered_shift {cs : List Node} (d : Int) (h : Span.Ordered (cs.map Node.span)) :
    Span.Ordered ((cs.map (shift d)).map Node.span) := by
  unfold Span.Ordered at h ⊢
  rw [List.pairwise_map, List.pairwise_map]
  rw [List.pairwise_map] at h
  refine h.imp fun {a b} apart => ?_
  unfold Span.Before at apart ⊢
  rw [span_shift, span_shift, Span.stop_shift, Span.start_shift]
  omega

/-- A nested tree that is moved stays one. -/
theorem Nested.shift (h : n.Nested) (d : Int) : (n.shift d).Nested := by
  induction h with
  | @mk kind named field span children le inside order below ih =>
      rw [Node.shift, shiftAll_eq_map]
      refine .mk ?_ ?_ (ordered_shift d order) ?_
      · rw [Span.start_shift, Span.stop_shift]
        omega
      · intro c hc
        obtain ⟨m, hm, rfl⟩ := List.mem_map.1 hc
        have within := inside m hm
        unfold Span.Inside at within ⊢
        simp only [span_shift, Span.start_shift, Span.stop_shift]
        omega
      · intro c hc
        obtain ⟨m, hm, rfl⟩ := List.mem_map.1 hc
        exact ih m hm

theorem keeps_shift (d : Int) : Keeps (shift d) := ⟨kind_shift d, named_shift d, field_shift d⟩

end Dart.Node

namespace Outline

variable {list list' : Node → Reading ListLiteral} {source other : Bytes} {d : Int} {bound : Nat}

/-! ## Moved lists -/

/-- A reader that reads moved lists of some heights like another reader reads
them where they were. -/
def Carries (source other : Bytes) (d : Int) (bound : Nat)
    (list list' : Node → Reading ListLiteral) : Prop :=
  ∀ n l, n.height < bound → n.Nested → Span.SameText source other d n.span →
    list n = .ok l → list' (n.shift d) = .ok (l.shift d)

/-- The name of an argument is a node of it. -/
theorem argumentName?_mem {a m : Node} (h : argumentName? a = some m) : m ∈ a.nodes := by
  obtain ⟨label, found, name⟩ := Option.bind_eq_some_iff.1 h
  exact Node.mem_nodes_of_mem_children (Node.child?_eq_some found).1
    (Node.child_mem_nodes (Node.child?_eq_some name).1)

theorem namedArgument?_shift (carries : Carries source other d bound list list') {a : Node}
    {o : Option NamedArgument} (nested : a.Nested) (same : Span.SameText source other d a.span)
    (low : a.height ≤ bound) (h : namedArgument? list source a = .ok o) :
    namedArgument? list' other (a.shift d) = .ok (o.map (NamedArgumentOf.shift d)) := by
  have name : ∀ m, argumentName? a = some m →
      (m.shift d).span.text other = m.span.text source := by
    intro m found
    rw [Node.span_shift]
    exact same.text (nested.of_mem_nodes m (argumentName?_mem found)).2
  have value : ∀ v, argumentValue list a = .ok v →
      argumentValue list' (a.shift d) = .ok (v.map (ListLiteral.shift d)) := by
    intro v value
    refine argumentValue_map (Node.keeps_shift d) (Node.children_shift d a) ?_ value
    intro w hw _ l read
    have isChild := Node.mem_children_of_mem_parts hw
    exact carries w l (Nat.lt_of_lt_of_le (Node.height_lt_of_mem_children isChild) low)
      (nested.child w isChild) (same.of_inside (nested.child_inside w isChild)) read
  rw [namedArgument?_map (Node.keeps_shift d) (Node.children_shift d a)
    (fun c _ _ => Node.children_shift d c) name value h]
  cases o with
  | none => rfl
  | some x =>
      rw [Option.map_some, Option.map_some, NamedArgumentOf.shift_eq, (namedArgument?_eq_some h).1,
        Node.span_shift]

theorem namedArguments_shift (carries : Carries source other d bound list list')
    {arguments : Node} {as : List NamedArgument} (nested : arguments.Nested)
    (same : Span.SameText source other d arguments.span) (low : arguments.height ≤ bound)
    (h : namedArguments list source arguments = .ok as) :
    namedArguments list' other (arguments.shift d) = .ok (as.map (NamedArgumentOf.shift d)) := by
  refine namedArguments_map (Node.keeps_shift d) (Node.children_shift d arguments) ?_ h
  intro a ha _ o read
  have isChild := Node.mem_children_of_mem_parts ha
  exact namedArgument?_shift carries (nested.child a isChild)
    (same.of_inside (nested.child_inside a isChild))
    (Nat.le_of_lt (Nat.lt_of_lt_of_le (Node.height_lt_of_mem_children isChild) low)) read

/-- The arguments of a call of a plain name are a node of it. -/
theorem plainCall?_mem {group : List Node} {name arguments : Node}
    (h : plainCall? group = some (name, arguments)) :
    name ∈ group ∧ ∃ call ∈ group, arguments ∈ call.nodes := by
  obtain ⟨call, rfl, -, -, search⟩ := plainCall?_eq_some.1 h
  exact ⟨List.mem_cons_self, call, by simp, Node.mem_nodes_of_descendant? search⟩

/-- An element that moves with its text is read as it was. -/
theorem ReadsElement.shift (carries : Carries source other d bound list list')
    {group : List Node} {e : ListElement} (h : ReadsElement list source group e)
    (nested : ∀ n ∈ group, n.Nested) (same : ∀ n ∈ group, Span.SameText source other d n.span)
    (low : ∀ n ∈ group, n.height ≤ bound) :
    ReadsElement list' other (group.map (Node.shift d)) (ListElementOf.shift d e) := by
  have callee : ∀ n ∈ group, n.kind = .identifier →
      (n.shift d).span.text other = n.span.text source := by
    intro n hn _
    rw [Node.span_shift]
    exact (same n hn).text ((nested n hn).of_mem_nodes n n.self_mem_nodes).2
  have each : ∀ name arguments as, plainCall? group = some (name, arguments) →
      namedArguments list source arguments = .ok as →
        namedArguments list' other (arguments.shift d)
          = .ok (as.map (NamedArgumentOf.shift d)) := by
    intro name arguments as plain read
    obtain ⟨-, call, hcall, isNode⟩ := plainCall?_mem plain
    obtain ⟨argumentsNested, inside⟩ := (nested call hcall).of_mem_nodes _ isNode
    exact namedArguments_shift carries argumentsNested ((same call hcall).of_inside inside)
      (Nat.le_trans (Node.height_le_of_mem_nodes isNode) (low call hcall)) read
  obtain ⟨first, rest, shape, read⟩ := h.map (Node.keeps_shift d)
    (fun n _ _ => ⟨Node.children_shift d n, fun c _ => Node.children_shift d c⟩) callee each
  obtain ⟨first', rest', shape', span⟩ := h.span
  rw [shape] at shape'
  cases shape'
  rw [ListElementOf.shift_eq, span, ← Span.through_shift, ← Node.span_shift, ← Node.span_shift]
  exact read

theorem insideBrackets_snd (n : Node) :
    (insideBrackets n).2 = match n.children.reverse.find? (·.kind = .terminal .closeBracket) with
      | none => n.span.stop
      | some closing => closing.span.start := by
  unfold insideBrackets
  split <;> simp [*]

theorem insideBrackets_shift (d : Int) (n : Node) :
    (insideBrackets (n.shift d)).2 = (insideBrackets n).2 + d := by
  rw [insideBrackets_map (Node.keeps_shift d) (Node.children_shift d n), insideBrackets_snd]
  cases n.children.reverse.find? (·.kind = .terminal .closeBracket) with
  | none => simp only [Node.span_shift, Span.stop_shift]
  | some closing => simp only [Node.span_shift, Span.start_shift]

/-- A list that moves with its text is read as it was, down to any depth from its
height on. -/
theorem listLiteralTo_shift {depth depth' : Nat} {n : Node} {l : ListLiteral} (nested : n.Nested)
    (same : Span.SameText source other d n.span) (low : n.height ≤ depth)
    (low' : n.height ≤ depth') (h : listLiteralTo source depth n = .ok l) :
    listLiteralTo other depth' (n.shift d) = .ok (l.shift d) := by
  induction depth generalizing depth' n l with
  | zero => exact absurd n.height_pos (by omega)
  | succ depth ih =>
      obtain ⟨depth', rfl⟩ := Node.exists_succ_of_height_le low'
      have carries : Carries source other d (n.height - 1) (listLiteralTo source depth)
          (listLiteralTo other depth') :=
        fun m l lower nested same read => ih nested same (by omega) (by omega) read
      rw [listLiteralTo] at h ⊢
      have each : ∀ group ∈ (Node.commaGroups (insideBrackets n).1).groups, ∀ e,
          ReadsElement (listLiteralTo source depth) source group e →
            ReadsElement (listLiteralTo other depth') other (group.map (Node.shift d))
              (ListElementOf.shift d e) := by
        intro group hgroup e read
        have isChild : ∀ c ∈ group, c ∈ n.children := fun c => mem_children_of_mem_group hgroup
        refine read.shift carries (fun c hc => nested.child c (isChild c hc))
          (fun c hc => same.of_inside (nested.child_inside c (isChild c hc))) fun c hc => ?_
        have lower := Node.height_lt_of_mem_children (isChild c hc)
        omega
      obtain ⟨span, bracket, -, -⟩ := listLiteralWith_eq_ok.1 h
      rw [listLiteralWith_map (Node.keeps_shift d) (Node.children_shift d n) each h,
        ListLiteral.shift_eq, span, bracket, Node.span_shift, insideBrackets_shift]

/-- A node that is read as a list, down to every depth from its height on. -/
def Reads (source : Bytes) (n : Node) (l : ListLiteral) : Prop :=
  ∀ depth, n.height ≤ depth → listLiteralTo source depth n = .ok l

/-- What is read down to some depth from the height on is read down to every one. -/
theorem reads_of_listLiteralTo {depth : Nat} {n : Node} {l : ListLiteral} (nested : n.Nested)
    (low : n.height ≤ depth) (h : listLiteralTo source depth n = .ok l) : Reads source n l := by
  intro depth' low'
  have read := listLiteralTo_shift nested (Span.SameText.refl source n.span) low low' h
  rwa [Node.shift_zero, ListLiteral.shift_zero] at read

theorem reads_iff {n : Node} {l : ListLiteral} (nested : n.Nested) :
    Reads source n l ↔ listLiteral source n = .ok l :=
  ⟨fun h => h n.height (Nat.le_refl _), reads_of_listLiteralTo nested (Nat.le_refl _)⟩

/-! ## Moved declarations -/

theorem getLastD_map {f : Node → Node} (first : Node) (rest : List Node) :
    (rest.map f).getLastD (f first) = f (rest.getLastD first) := by
  rw [List.getLastD_eq_getLast?, List.getLastD_eq_getLast?, List.getLast?_map]
  cases rest.getLast? <;> rfl

/-- The type that a moved clause names is the same. -/
theorem extendedType_shift {clause : Node} (nested : clause.Nested)
    (same : Span.SameText source other d clause.span) :
    extendedType other (clause.shift d) = extendedType source clause := by
  have keeps := Node.keeps_shift d
  have parts : (clause.shift d).parts.filter (·.kind ≠ .construct .mixins)
      = (clause.parts.filter (·.kind ≠ .construct .mixins)).map (Node.shift d) := by
    rw [keeps.parts (Node.children_shift d clause),
      keeps.filter_kind fun k => decide (k ≠ .construct .mixins)]
  have sub : (clause.parts.filter (·.kind ≠ .construct .mixins)).Sublist clause.children :=
    List.filter_sublist.trans List.filter_sublist
  unfold extendedType
  rw [parts]
  cases shape : clause.parts.filter (·.kind ≠ .construct .mixins) with
  | nil => rfl
  | cons first rest =>
      rw [shape] at sub
      have inside : ∀ n ∈ first :: rest, n.span.Inside clause.span :=
        fun n hn => nested.child_inside n (sub.subset hn)
      have order := ordered_of_sublist nested.ordered sub
      have written : (((first.shift d).span.through ((rest.map (Node.shift d)).getLastD
          (first.shift d)).span)).text other
          = (first.span.through (rest.getLastD first).span).text source := by
        rw [getLastD_map, Node.span_shift, Node.span_shift, Span.through_shift]
        exact same.text (through_inside order inside)
      have names := keeps.filter_kind (fun k => k.isIdentifier) (first :: rest)
      rw [List.map_cons] at names ⊢
      simp only [written, names, List.getLast?_map]
      cases found : ((first :: rest).filter (·.kind.isIdentifier)).getLast? with
      | none => rfl
      | some n =>
          have isPart : n ∈ first :: rest := List.mem_of_mem_filter (List.mem_of_getLast? found)
          simp only [Option.map_some, Node.span_shift, same.text (inside n isPart)]

theorem interfaceName?_shift (group : List Node) :
    interfaceName? (group.map (Node.shift d)) = (interfaceName? group).map (Node.shift d) := by
  have keeps := Node.keeps_shift d
  rw [interfaceName?, interfaceName?, keeps.filter_kind fun k => k.isIdentifier, List.getLast?_map]
  cases (group.filter (·.kind.isIdentifier)).getLast? with
  | some n => rfl
  | none =>
      rw [List.head?_map]
      cases group.head? with
      | none => rfl
      | some first =>
          exact keeps.descendant? (Node.children_shift d first)
            (fun c _ => Node.children_shift d c) _

/-- The name of an interface is a node of the type it names. -/
theorem interfaceName?_mem {group : List Node} {m : Node} (h : interfaceName? group = some m) :
    ∃ n ∈ group, m ∈ n.nodes := by
  unfold interfaceName? at h
  split at h
  · next n found =>
      cases h
      exact ⟨m, List.mem_of_mem_filter (List.mem_of_getLast? found), m.self_mem_nodes⟩
  · obtain ⟨first, isFirst, search⟩ := Option.bind_eq_some_iff.1 h
    exact ⟨first, List.mem_of_head? isFirst, Node.mem_nodes_of_descendant? search⟩

/-- The types that a moved clause names are the same. -/
theorem implementedTypes_shift {clause : Node} {types : List String} (nested : clause.Nested)
    (same : Span.SameText source other d clause.span)
    (h : implementedTypes source clause = .ok types) :
    implementedTypes other (clause.shift d) = .ok types := by
  have names : (Node.commaGroups (clause.shift d).children).groups.filterMap interfaceName?
      = ((Node.commaGroups clause.children).groups.filterMap interfaceName?).map
        (Node.shift d) := by
    rw [Node.children_shift, (Node.keeps_shift d).commaGroups, List.filterMap_map,
      List.map_filterMap]
    exact List.filterMap_congr fun group _ => interfaceName?_shift group
  rw [implementedTypes, mapM_eq_ok] at h ⊢
  rw [names, ← List.map_id types]
  refine forall₂_map_of_mem h fun m hm type _ read => ?_
  obtain ⟨group, hgroup, found⟩ := List.mem_filterMap.1 hm
  obtain ⟨n, hn, isNode⟩ := interfaceName?_mem found
  have isChild : n ∈ clause.children := Node.mem_of_mem_commaGroups hgroup hn
  have inside := ((nested.child n isChild).of_mem_nodes m isNode).2
  rw [Node.span_shift, same.text (inside.trans (nested.child_inside n isChild))]
  exact read

/-- The member that a moved declaration declares is the same. -/
theorem signature?_shift (n : Node) :
    signature? (n.shift d) = (signature? n).map (Prod.map (Node.shift d) id) := by
  have keeps := Node.keeps_shift d
  unfold signature?
  rw [Node.kind_shift]
  split
  · rw [keeps.descendant? (Node.children_shift d n) fun c _ => Node.children_shift d c]
    cases n.descendant? (fun k => (signatureKind? k).isSome) 2 with
    | none => rfl
    | some s =>
        simp only [Option.map_some, Node.kind_shift,
          keeps.fieldOrChild? (Node.children_shift d s)]
        cases s.fieldOrChild? .name (· = .identifier) <;> cases signatureKind? s.kind <;> rfl
  · rfl

/-- The name of a declared member is a node of its declaration. -/
theorem signature?_mem {c n : Node} {kind : MemberKind} (h : signature? c = some (n, kind)) :
    n ∈ c.nodes := by
  unfold signature? at h
  split at h
  · split at h
    · cases h
    · next s search =>
        split at h
        · next name k found _ =>
            cases h
            have isNode := Node.child_mem_nodes (Node.fieldOrChild?_eq_some found).1
            exact Node.mem_nodes_trans isNode (Node.mem_nodes_of_descendant? search)
        · cases h
  · cases h

theorem sameSignature_shift {c : Node} (nested : c.Nested)
    (same : Span.SameText source other d c.span) :
    SameSignature source other c (c.shift d) := by
  refine ⟨Node.shift d, signature?_shift c, fun n kind found => ?_⟩
  rw [Node.span_shift]
  exact same.text (nested.of_mem_nodes n (signature?_mem found)).2

end Outline

end RouteGraft
