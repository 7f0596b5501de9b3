import RouteGraft.Proofs.Characters
import RouteGraft.Proofs.Grafting
import RouteGraft.Proofs.Growth

/-!
# Declarations put into a source

A *declaration* is a class that goes behind another one, or a member that goes in
front of the closing brace of its class.  Both are put in at one offset of a class
and leave all other classes alone: those in front of it stay, and those behind it
move as a whole.

A reader sees a declaration for what it is if it reads the new source as the old one
with the declaration in it (`Declaration.IsReread`).  Nothing else is asked of a
reader here.

In sources whose classes stand in order (`Outline.InOrder`) a declaration that finds
its class is always put in (`Declaration.exists_after`).
-/

namespace RouteGraft

/-! ## Moved twice -/

mutual

/-- Moving a list twice is moving it by both distances at once. -/
theorem ListLiteral.shift_shift (d e : Int) :
    ∀ l : ListLiteral, (l.shift d).shift e = l.shift (d + e)
  | ⟨span, bracket, es, trailing⟩ => by
      simp only [ListLiteral.shift, ListElementOf.shiftAll_shiftAll d e es, Span.shift,
        Int.add_assoc]
termination_by structural l => l

theorem ListElementOf.shiftAll_shiftAll (d e : Int) :
    ∀ es : List ListElement,
      ListElementOf.shiftAll e (ListElementOf.shiftAll d es) = ListElementOf.shiftAll (d + e) es
  | [] => rfl
  | x :: es => by
      simp only [ListElementOf.shiftAll, ListElementOf.shift_shift d e x,
        ListElementOf.shiftAll_shiftAll d e es]
termination_by structural es => es

theorem ListElementOf.shift_shift (d e : Int) :
    ∀ x : ListElement,
      ListElementOf.shift e (ListElementOf.shift d x) = ListElementOf.shift (d + e) x
  | ⟨span, callee, as⟩ => by
      simp only [ListElementOf.shift, NamedArgumentOf.shiftAll_shiftAll d e as, Span.shift,
        Int.add_assoc]
termination_by structural x => x

theorem NamedArgumentOf.shiftAll_shiftAll (d e : Int) :
    ∀ as : List NamedArgument,
      NamedArgumentOf.shiftAll e (NamedArgumentOf.shiftAll d as)
        = NamedArgumentOf.shiftAll (d + e) as
  | [] => rfl
  | a :: as => by
      simp only [NamedArgumentOf.shiftAll, NamedArgumentOf.shift_shift d e a,
        NamedArgumentOf.shiftAll_shiftAll d e as]
termination_by structural as => as

theorem NamedArgumentOf.shift_shift (d e : Int) :
    ∀ a : NamedArgument,
      NamedArgumentOf.shift e (NamedArgumentOf.shift d a) = NamedArgumentOf.shift (d + e) a
  | ⟨name, span, value⟩ => by
      simp only [NamedArgumentOf.shift, NamedArgumentOf.shiftValue_shiftValue d e value, Span.shift,
        Int.add_assoc]
termination_by structural a => a

theorem NamedArgumentOf.shiftValue_shiftValue (d e : Int) :
    ∀ v : Option ListLiteral,
      NamedArgumentOf.shiftValue e (NamedArgumentOf.shiftValue d v)
        = NamedArgumentOf.shiftValue (d + e) v
  | none => rfl
  | some l => by simp only [NamedArgumentOf.shiftValue, ListLiteral.shift_shift d e l]
termination_by structural v => v

end

/-! ## Moved classes -/

/-- A member that is moved by some bytes. -/
def Member.shift (d : Int) (m : Member) : Member := m.mapList (ListLiteral.shift d)

theorem Member.shift_shift (d e : Int) (m : Member) : (m.shift d).shift e = m.shift (d + e) := by
  simp [shift, mapList, Function.comp_def, ListLiteral.shift_shift]

namespace ClassOutline

/-- A class that is moved by some bytes. -/
def shift (d : Int) (c : ClassOutline) : ClassOutline :=
  { c with
    span := c.span.shift d
    closingBrace := c.closingBrace + d
    members := c.members.map (Member.shift d) }

/-- A class with more members in front of its closing brace, which take some bytes. -/
def grow (d : Int) (ms : List Member) (c : ClassOutline) : ClassOutline :=
  { c with
    span := ⟨c.span.start, c.span.stop + d⟩
    closingBrace := c.closingBrace + d
    members := c.members ++ ms }

@[simp] theorem name_shift (d : Int) (c : ClassOutline) : (c.shift d).name = c.name := rfl

@[simp] theorem span_shift (d : Int) (c : ClassOutline) : (c.shift d).span = c.span.shift d := rfl

@[simp] theorem superclass_shift (d : Int) (c : ClassOutline) :
    (c.shift d).superclass = c.superclass := rfl

@[simp] theorem superclassName_shift (d : Int) (c : ClassOutline) :
    (c.shift d).superclassName = c.superclassName := rfl

@[simp] theorem interfaces_shift (d : Int) (c : ClassOutline) :
    (c.shift d).interfaces = c.interfaces := rfl

@[simp] theorem closingBrace_shift (d : Int) (c : ClassOutline) :
    (c.shift d).closingBrace = c.closingBrace + d := rfl

theorem shift_shift (d e : Int) (c : ClassOutline) : (c.shift d).shift e = c.shift (d + e) := by
  simp [shift, Span.shift, Int.add_assoc, Function.comp_def, Member.shift_shift]

theorem map_shift_shift (d e : Int) (cs : List ClassOutline) :
    (cs.map (shift d)).map (shift e) = cs.map (shift (d + e)) := by
  simp [Function.comp_def, shift_shift]

theorem grow_grow (d e : Int) (ms more : List Member) (c : ClassOutline) :
    (c.grow d ms).grow e more = c.grow (d + e) (ms ++ more) := by
  simp [grow, Int.add_assoc]

end ClassOutline

/-! ## The last class that passes a test -/

/-- The anchor is followed by classes that fail the test. -/
theorem Outline.anchor?_eq_some {o : Outline} {test : ClassTest} {c : ClassOutline} :
    o.anchor? test = some c ↔
      ∃ front back, o.classes = front ++ c :: back ∧ test c = true ∧
        ∀ c' ∈ back, test c' = false := by
  unfold anchor?
  constructor
  · intro h
    obtain ⟨passing, shape⟩ := List.getLast?_eq_some_iff.1 h
    obtain ⟨front, rest, whole, -, last⟩ := List.filter_eq_append_iff.1 shape
    obtain ⟨skipped, back, rfl, -, passes, none⟩ := List.filter_eq_cons_iff.1 last
    refine ⟨front ++ skipped, back, by simp [whole], passes, fun c' hc' => ?_⟩
    simpa using List.filter_eq_nil_iff.1 none c' hc'
  · rintro ⟨front, back, whole, passes, none⟩
    have skipped : back.filter test = [] := by
      rw [List.filter_eq_nil_iff]
      intro c' hc'
      simp [none c' hc']
    simp [whole, List.filter_append, passes, skipped]

theorem Outline.anchor?_eq_none {o : Outline} {test : ClassTest} :
    o.anchor? test = none ↔ ∀ c ∈ o.classes, test c = false := by
  simp [anchor?]

/-! ## One more entry -/

/-- What is put in behind one entry keeps an order, if it goes with what is around it
and what is behind it may be moved. -/
theorem pairwise_insert {α : Type} {R : α → α → Prop} {f : α → α} {front back : List α}
    {a new : α} (h : (front ++ a :: back).Pairwise R) (right : ∀ x y, R x y → R x (f y))
    (both : ∀ x y, R x y → R (f x) (f y)) (before : ∀ x ∈ front ++ [a], R x new)
    (behind : ∀ y ∈ back, R new (f y)) : (front ++ a :: new :: back.map f).Pairwise R := by
  rw [List.pairwise_append, List.pairwise_cons] at h
  obtain ⟨inFront, ⟨fromA, inBack⟩, across⟩ := h
  have moved : (back.map f).Pairwise R := by
    rw [List.pairwise_map]
    exact inBack.imp fun h => both _ _ h
  rw [List.pairwise_append, List.pairwise_cons, List.pairwise_cons]
  refine ⟨inFront, ⟨?_, ?_, moved⟩, ?_⟩
  · intro y hy
    rcases List.mem_cons.1 hy with rfl | hy
    · exact before a (by simp)
    · obtain ⟨z, hz, rfl⟩ := List.mem_map.1 hy
      exact right _ _ (fromA z hz)
  · intro y hy
    obtain ⟨z, hz, rfl⟩ := List.mem_map.1 hy
    exact behind z hz
  · intro x hx y hy
    rcases List.mem_cons.1 hy with rfl | hy
    · exact across x hx y List.mem_cons_self
    · rcases List.mem_cons.1 hy with rfl | hy
      · exact before x (List.mem_append_left _ hx)
      · obtain ⟨z, hz, rfl⟩ := List.mem_map.1 hy
        exact right _ _ (across x hx z (List.mem_cons_of_mem _ hz))

/-- What is true of the old entries, the new one and the moved ones is true of all. -/
theorem forall_mem_insert {α : Type} {P : α → Prop} {f : α → α} {front back : List α} {a new : α}
    (old : ∀ x ∈ front ++ [a], P x) (isNew : P new) (moved : ∀ y ∈ back, P (f y)) :
    ∀ x ∈ front ++ a :: new :: back.map f, P x := by
  intro x hx
  simp only [List.mem_append, List.mem_cons, List.mem_map] at hx
  rcases hx with hx | rfl | rfl | ⟨y, hy, rfl⟩
  · exact old x (by simp [hx])
  · exact old x (by simp)
  · exact isNew
  · exact moved y hy

/-! ## Classes in order -/

/-- An outline whose classes stand in order inside of a source of some length, each
with its closing brace inside of it. -/
structure Outline.InOrder (o : Outline) (length : Nat) : Prop where
  ordered : Span.Ordered (o.classes.map (·.span))
  inside : ∀ c ∈ o.classes, c.span.Inside ⟨0, length⟩
  brace : ∀ c ∈ o.classes, c.span.start ≤ c.closingBrace ∧ c.closingBrace ≤ c.span.stop

/-- What is read off a tree whose nodes nest stands in order. -/
theorem Outline.WellNested.inOrder {o : Outline} {length : Nat} (h : o.WellNested length) :
    o.InOrder length :=
  ⟨h.ordered, h.inside, fun c hc =>
    ⟨(h.classes c hc).start_le_brace, (h.classes c hc).brace_le_stop⟩⟩

/-- A class that goes behind another one keeps the order, if it takes up no more than the
classes behind it are moved by. -/
theorem Outline.InOrder.insert {front back : List ClassOutline} {c new : ClassOutline}
    {length length' : Nat} {d : Int} (h : Outline.InOrder ⟨front ++ c :: back⟩ length)
    (longer : (length' : Int) = length + d) (start : c.span.stop ≤ new.span.start)
    (brace : new.span.start ≤ new.closingBrace ∧ new.closingBrace ≤ new.span.stop)
    (stop : new.span.stop ≤ c.span.stop + d) :
    Outline.InOrder ⟨front ++ c :: new :: back.map (ClassOutline.shift d)⟩ length' := by
  have order := h.ordered
  simp only [Span.Ordered, List.pairwise_map] at order
  obtain ⟨-, inBack, across⟩ := List.pairwise_append.1 order
  have fromC := (List.pairwise_cons.1 inBack).1
  obtain ⟨cStart, cWide, cStop⟩ := h.inside c (by simp)
  have inFront {x : ClassOutline} (hx : x ∈ front ++ [c]) : x ∈ front ++ c :: back :=
    List.append_cons front c back ▸ List.mem_append_left back hx
  unfold Span.Before at order across fromC
  dsimp only at cStart cStop
  constructor
  · rw [Span.Ordered, List.pairwise_map]
    unfold Span.Before
    refine pairwise_insert order (fun x y before => ?_) (fun x y before => ?_) (fun x hx => ?_)
      fun y hy => ?_
    · simp only [ClassOutline.span_shift, Span.start_shift]
      omega
    · simp only [ClassOutline.span_shift, Span.start_shift, Span.stop_shift]
      omega
    · rcases List.mem_append.1 hx with hx | hx
      · have before := across x hx c List.mem_cons_self
        omega
      · rwa [List.mem_singleton.1 hx]
    · have behind := fromC y hy
      simp only [ClassOutline.span_shift, Span.start_shift]
      omega
  · refine forall_mem_insert (fun x hx => ?_) ⟨?_, ?_, ?_⟩ fun y hy => ?_
    · obtain ⟨start, wide, stop⟩ := h.inside x (inFront hx)
      exact ⟨start, wide, by dsimp only at stop ⊢; omega⟩
    · dsimp only
      omega
    · omega
    · dsimp only
      omega
    · obtain ⟨start, wide, stop⟩ := h.inside y (by simp [hy])
      dsimp only at start stop
      simp only [Span.Inside, ClassOutline.span_shift, Span.start_shift, Span.stop_shift]
      omega
  · refine forall_mem_insert (fun x hx => h.brace x (inFront hx)) brace fun y hy => ?_
    have old := h.brace y (by simp [hy])
    simp only [ClassOutline.span_shift, ClassOutline.closingBrace_shift, Span.start_shift,
      Span.stop_shift]
    omega

/-! ## Declarations -/

/-- Something that is put into a class of a source, or behind it. -/
structure Declaration where
  /-- How it is inserted. -/
  insertion : Insertion
  /-- The text that is put in. -/
  text : String
  /-- Where the text goes to. -/
  offset : ClassOutline → Int
  /-- What becomes of the class. -/
  result : ClassOutline → List ClassOutline

namespace Declaration

/-- The number of bytes that are put in. -/
def size (x : Declaration) : Int := Utf8.size x.text

/-- The outline of a source with the declaration put into one of its classes. -/
def outline (x : Declaration) (front : List ClassOutline) (c : ClassOutline)
    (back : List ClassOutline) : Outline :=
  ⟨front ++ x.result c ++ back.map (ClassOutline.shift x.size)⟩

/-- A reader that sees the declaration for what it is: where it is put into a source that
was read, the new source is read as the old one with the declaration in it. -/
def IsReread (x : Declaration) (outliner : Outliner) (names : Names) (path : String)
    (content : Bytes) : Prop :=
  ∀ front c back note, outliner content = .ok ⟨front ++ c :: back⟩ →
    x.insertion.plan names path ⟨front ++ c :: back⟩ = .ok ⟨x.offset c, x.text, note⟩ →
      ∀ after, splice content (x.offset c) (Utf8.encode x.text) = .ok after →
        outliner after = .ok (x.outline front c back)

/-- The step that inserts the declaration. -/
def step (x : Declaration) (outliner : Outliner) (names : Names) (path : String) : Step :=
  ⟨outliner, names, path, x.insertion⟩

/-- A reader that sees declarations for what they are, on the way through the steps that
insert them. -/
def AreReread (outliner : Outliner) (names : Names) (path : String) :
    List Declaration → Bytes → Prop
  | [], _ => True
  | x :: xs, content =>
      x.IsReread outliner names path content ∧
        AreReread outliner names path xs ((x.step outliner names path).after content)

variable {x : Declaration} {outliner : Outliner} {names : Names} {path : String}

/-- A declaration that finds its class is put in, and the source is read as the old one
with the declaration in it. -/
theorem exists_after {content : Bytes} {front back : List ClassOutline} {c : ClassOutline}
    {note : String} (read : outliner content = .ok ⟨front ++ c :: back⟩)
    (inside : 0 ≤ x.offset c ∧ x.offset c ≤ content.length)
    (planned : x.insertion.plan names path ⟨front ++ c :: back⟩ = .ok ⟨x.offset c, x.text, note⟩)
    (reread : x.IsReread outliner names path content) :
    ∃ after, (x.step outliner names path).result content = .ok after ∧
      outliner after = .ok (x.outline front c back) ∧
      splice content (x.offset c) (Utf8.encode x.text) = .ok after := by
  obtain ⟨after, spliced⟩ : ∃ after,
      splice content (x.offset c) (Utf8.encode x.text) = .ok after := by
    rw [splice, if_pos inside]
    exact ⟨_, rfl⟩
  refine ⟨after, ?_, reread front c back note read planned after spliced, spliced⟩
  exact insert_eq_ok.2 ⟨_, _, read, planned, spliced⟩

/-- A declaration that does not find its class is refused. -/
theorem result_refused {content : Bytes} {o : Outline} {reason : NoPlace}
    (read : outliner content = .ok o)
    (planned : x.insertion.plan names path o = .error reason) :
    (x.step outliner names path).result content = .error (.noPlace reason path) := by
  simp [Step.result, step, insert, read, planned]

end Declaration

end RouteGraft
