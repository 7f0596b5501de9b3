import RouteGraft.Proofs.Declarations
import RouteGraft.Proofs.Expressions
import RouteGraft.Route.Fragment

/-!
# Classes in the order they came

The classes of routes are put into one source, one after the other, and each goes
behind the last class that extends its base class.  An *arrival* is a class of the
source together with the step that added it, if one did.

What is found after any run (`Arrived`) are the classes the source had, in their
order and with their texts, and between them those that were added.  A class that was
added for a base stands behind every class that extended this base by then.  So the
classes added for one base stand in the order they came, whatever was added for other
bases in between.

A step is refused only while no class extends its base (`Answered`).
-/

namespace RouteGraft

/-! ## Classes that stay -/

/-- Whether a class is the same in another source, with the same text, though maybe at
another place. -/
def ClassOutline.Stays (source other : Bytes) (c c' : ClassOutline) : Prop :=
  ∃ d, c' = c.shift d ∧ Span.SameText source other d c.span

namespace ClassOutline

variable {source other third : Bytes} {c c' c'' : ClassOutline}

theorem shift_zero (c : ClassOutline) : c.shift 0 = c := by
  have same : (Member.shift 0 : Member → Member) = id := by
    funext m
    cases m with
    | mk name kind bodyKind expressionType list =>
        cases list <;> simp [Member.shift, Member.mapList, ListLiteral.shift_zero]
  simp [shift, same]

theorem Stays.refl (source : Bytes) (c : ClassOutline) : c.Stays source source c :=
  ⟨0, c.shift_zero.symm, Span.SameText.refl source c.span⟩

theorem Stays.trans (h : c.Stays source other c') (h' : c'.Stays other third c'') :
    c.Stays source third c'' := by
  obtain ⟨d, rfl, same⟩ := h
  obtain ⟨e, rfl, same'⟩ := h'
  refine ⟨d + e, c.shift_shift d e, fun s inside => ?_⟩
  have moved : (s.shift d).Inside (c.shift d).span := by
    obtain ⟨start, le, stop⟩ := inside
    exact ⟨Int.add_le_add_right start d, Int.add_le_add_right le d, Int.add_le_add_right stop d⟩
  rw [← same s inside, ← same' (s.shift d) moved]
  simp [Span.shift, Int.add_assoc]

/-- A class in front of what is put in stays where it is. -/
theorem stays_of_stop_le {k d : Int} (spliced : Span.Spliced source other k d)
    (inside : c.span.Inside ⟨0, source.length⟩) (h : c.span.stop ≤ k) : c.Stays source other c :=
  ⟨0, c.shift_zero.symm, spliced.front.of_inside ⟨inside.1, inside.2.1, h⟩⟩

/-- A class behind what is put in moves. -/
theorem stays_of_le_start {k d : Int} (spliced : Span.Spliced source other k d)
    (inside : c.span.Inside ⟨0, source.length⟩) (h : k ≤ c.span.start) :
    c.Stays source other (c.shift d) :=
  ⟨d, rfl, spliced.back.of_inside ⟨h, inside.2.1, inside.2.2⟩⟩

end ClassOutline

/-! ## Classes of routes -/

/-- A route that gets a class. -/
structure RouteClass where
  /-- The description of its kind. -/
  kind : RouteMeta
  /-- Its name. -/
  name : String

namespace RouteClass

variable (r : RouteClass)

/-- The class as a text. -/
def fragment : String := Fragment.routeClass r.kind r.name

/-- The class it extends. -/
def base : String := r.kind.baseClass

/-- What the class is read as, where its text starts at an offset. -/
def outline (offset : Int) : ClassOutline where
  name := r.kind.className r.name
  span := ⟨offset, offset + Utf8.size r.fragment⟩
  superclass := some (r.base ++ "<" ++ r.kind.generic ++ ">")
  superclassName := some r.base
  interfaces := []
  closingBrace := offset + Utf8.size r.fragment - 1
  members := []

/-- The class as a declaration behind another class. -/
def declaration : Declaration where
  insertion := .routeClass r.fragment r.base
  text := "\n\n" ++ r.fragment
  offset := fun c => c.span.stop
  result := fun c => [c, r.outline (c.span.stop + 2)]

theorem outline_shift (offset d : Int) : (r.outline offset).shift d = r.outline (offset + d) := by
  simp only [outline, ClassOutline.shift, Span.shift, List.map_nil, ClassOutline.mk.injEq,
    Span.mk.injEq, true_and, and_true]
  omega

/-- The class extends its base class. -/
theorem extendsText_outline (offset : Int) :
    ClassTest.extendsText r.base (r.outline offset) = true := by
  simp only [ClassTest.extendsText, outline, Option.any_some, Text.isPart, Text.occurs_iff,
    String.toList_append, List.append_assoc]
  exact (List.prefix_append _ _).isInfix

theorem size_declaration : r.declaration.size = 2 + Utf8.size r.fragment := by
  rw [Declaration.size, declaration, Utf8.size_append]
  rfl

theorem size_fragment_pos : 0 < Utf8.size r.fragment := by
  have brace : Utf8.size "\x7d" = 1 := rfl
  unfold fragment Fragment.routeClass
  rw [Utf8.size_append, brace]
  exact Int.lt_add_one_of_le (Utf8.size_nonneg _)

/-- A class with the text and the outline of the class of the route. -/
def IsClass (source : Bytes) (c : ClassOutline) : Prop :=
  ∃ offset, c = r.outline offset ∧ c.span.text source = .ok r.fragment

theorem IsClass.stays {r : RouteClass} {source other : Bytes} {c c' : ClassOutline}
    (h : r.IsClass source c) (stays : c.Stays source other c') : r.IsClass other c' := by
  obtain ⟨offset, rfl, read⟩ := h
  obtain ⟨d, rfl, same⟩ := stays
  refine ⟨offset + d, r.outline_shift offset d, ?_⟩
  have wide : (r.outline offset).span.Inside (r.outline offset).span :=
    ⟨Int.le_refl _, Int.le_add_of_nonneg_right (Utf8.size_nonneg _), Int.le_refl _⟩
  rw [← read]
  exact same.text wide

/-- Behind the class it is put in, the new class has its text. -/
theorem isClass_of_splice {content after : Bytes} {c : ClassOutline}
    (h : splice content (r.declaration.offset c) (Utf8.encode r.declaration.text) = .ok after) :
    r.IsClass after (r.outline (c.span.stop + 2)) := by
  obtain ⟨positive, inside, rfl⟩ := splice_ok h
  refine ⟨_, rfl, ?_⟩
  have front : (content.take c.span.stop.toNat).length = c.span.stop.toNat :=
    List.length_take_of_le (by simp only [declaration] at inside; omega)
  have place : c.span.stop + 2
      = ((content.take c.span.stop.toNat ++ Utf8.encode "\n\n").length : Int) := by
    have lines : (Utf8.encode "\n\n").length = 2 := by decide
    simp only [declaration] at positive
    rw [List.length_append, front, lines]
    omega
  have same := Span.sameText_of_append (content.take c.span.stop.toNat ++ Utf8.encode "\n\n")
    (Utf8.encode r.fragment) (content.drop c.span.stop.toNat)
  have whole : Span.Inside ⟨0, Utf8.size r.fragment⟩ ⟨0, (Utf8.encode r.fragment).length⟩ :=
    ⟨Int.le_refl _, Utf8.size_nonneg _, Int.le_refl _⟩
  have moved := same.text whole
  rw [Span.text_encode, ← place] at moved
  rw [← moved, declaration, Utf8.encode_append]
  simp [outline, Span.shift, Int.add_comm]

end RouteClass

/-! ## Arrivals -/

/-- A class with the step that added it, by its number, if one did. -/
structure Arrival where
  /-- The class. -/
  outline : ClassOutline
  /-- The number of the step and its route. -/
  origin : Option (Nat × RouteClass)

namespace Arrival

/-- How many steps had been made when the class was there. -/
def date (a : Arrival) : Nat :=
  match a.origin with
  | none => 0
  | some (n, _) => n + 1

/-- An arrival that is moved by some bytes. -/
def shift (d : Int) (a : Arrival) : Arrival := { a with outline := a.outline.shift d }

@[simp] theorem outline_shift (d : Int) (a : Arrival) :
    (a.shift d).outline = a.outline.shift d := rfl

@[simp] theorem origin_shift (d : Int) (a : Arrival) : (a.shift d).origin = a.origin := rfl

@[simp] theorem date_shift (d : Int) (a : Arrival) : (a.shift d).date = a.date := rfl

/-- Whether the class extends a base class. -/
def extends? (base : String) (a : Arrival) : Bool := ClassTest.extendsText base a.outline

@[simp] theorem extends?_shift (base : String) (d : Int) (a : Arrival) :
    (a.shift d).extends? base = a.extends? base := rfl

end Arrival

/-- The class of a route, as a step adds it behind another class. -/
def RouteClass.arrival (r : RouteClass) (step : Nat) (a : Arrival) : Arrival :=
  ⟨r.outline (a.outline.span.stop + 2), some (step, r)⟩

/-- The classes of a source when a step has added the class of a route behind one of them. -/
def RouteClass.arrivals (r : RouteClass) (step : Nat) (front : List Arrival) (a : Arrival)
    (back : List Arrival) : List Arrival :=
  front ++ a :: r.arrival step a :: back.map (Arrival.shift r.declaration.size)

/-- The classes of a source into which the classes of some routes were put. -/
structure Arrived (first content : Bytes) (originals : List ClassOutline) (rs : List RouteClass)
    (arrivals : List Arrival) : Prop where
  /-- The classes the source had are there, in their order and with their texts. -/
  originals : List.Forall₂ (ClassOutline.Stays first content) originals
    ((arrivals.filter (·.origin.isNone)).map (·.outline))
  /-- All others are the classes of routes, as the steps put them in. -/
  added : ∀ a ∈ arrivals, ∀ n r, a.origin = some (n, r) →
    rs[n]? = some r ∧ r.IsClass content a.outline
  /-- No step added two of them. -/
  once : arrivals.Pairwise fun x y => x.date = y.date → x.date = 0
  /-- No class that was there already stands behind one that was added for its base. -/
  behind : arrivals.Pairwise fun x y => ∀ n r, x.origin = some (n, r) → y.date ≤ n →
    y.extends? r.base = false

namespace Arrived

variable {first content : Bytes} {originals : List ClassOutline} {rs : List RouteClass}
  {arrivals : List Arrival}

theorem start (content : Bytes) (cs : List ClassOutline) :
    Arrived content content cs [] (cs.map (⟨·, none⟩)) where
  originals := by
    simp only [List.filter_map, Function.comp_def, Option.isNone_none, List.filter_true,
      List.map_map, List.map_id']
    exact List.forall₂_same.2 fun c _ => .refl content c
  added := by
    intro a ha n r origin
    obtain ⟨c, -, rfl⟩ := List.mem_map.1 ha
    cases origin
  once := List.pairwise_map.2 (List.pairwise_of_forall fun _ _ _ => rfl)
  behind := by
    refine List.pairwise_map.2 (List.pairwise_of_forall fun _ _ n r origin => ?_)
    cases origin

/-- A class was there before the steps, or one of them added it. -/
theorem date_le (h : Arrived first content originals rs arrivals) {a : Arrival}
    (ha : a ∈ arrivals) : a.date ≤ rs.length := by
  unfold Arrival.date
  split
  · exact Nat.zero_le _
  · next n r origin =>
      obtain ⟨inside, -⟩ := List.getElem?_eq_some_iff.1 (h.added a ha n r origin).1
      exact inside

/-- The classes that were added for one base stand in the order they came. -/
theorem in_order (h : Arrived first content originals rs arrivals) :
    arrivals.Pairwise fun x y => ∀ n r m r', x.origin = some (n, r) → y.origin = some (m, r') →
      r.base = r'.base → n < m := by
  have known := List.pairwise_and_iff.2 ⟨h.once, h.behind⟩
  refine known.imp_of_mem ?_
  rintro x y hx hy ⟨once, behind⟩ n r m r' ofX ofY same
  have dateX : x.date = n + 1 := by simp [Arrival.date, ofX]
  have dateY : y.date = m + 1 := by simp [Arrival.date, ofY]
  rcases Nat.lt_trichotomy n m with before | equal | later
  · exact before
  · have apart := once (by omega)
    omega
  · -- a class for the same base extends it, and so it cannot stand behind
    obtain ⟨-, offset, shape, -⟩ := h.added y hy m r' ofY
    have fails := behind n r ofX (by omega)
    rw [Arrival.extends?, shape, same, r'.extendsText_outline] at fails
    cases fails

/-- A step that is refused leaves all as it is. -/
theorem skip (h : Arrived first content originals rs arrivals) (r : RouteClass) :
    Arrived first content originals (rs ++ [r]) arrivals where
  originals := h.originals
  added := by
    intro a ha n r' origin
    obtain ⟨known, isClass⟩ := h.added a ha n r' origin
    obtain ⟨inside, -⟩ := List.getElem?_eq_some_iff.1 known
    exact ⟨by rw [List.getElem?_append_left inside, known], isClass⟩
  once := h.once
  behind := h.behind

/-! ### One more class -/

/-- Where a class is put in, the classes up to the one it goes behind stay, and the ones
behind that move. -/
theorem forall₂_stays {after : Bytes} {d : Int} {front back : List Arrival} {a : Arrival}
    (inOrder : Outline.InOrder ⟨(front ++ a :: back).map (·.outline)⟩ content.length)
    (spliced : Span.Spliced content after a.outline.span.stop d) :
    List.Forall₂ (fun x y : Arrival => y.origin = x.origin ∧
      x.outline.Stays content after y.outline) (front ++ a :: back)
      (front ++ a :: back.map (Arrival.shift d)) := by
  have order := inOrder.ordered
  have inside : ∀ x ∈ front ++ a :: back, x.outline.span.Inside ⟨0, content.length⟩ :=
    fun x hx => inOrder.inside _ (List.mem_map_of_mem hx)
  simp only [Span.Ordered, List.pairwise_map, List.pairwise_append, List.pairwise_cons] at order
  obtain ⟨-, ⟨fromA, -⟩, across⟩ := order
  have aInside := inside a (by simp)
  refine List.rel_append (List.forall₂_same.2 fun x hx => ?_) (.cons ?_ ?_)
  · have before := across x hx a List.mem_cons_self
    refine ⟨rfl, ClassOutline.stays_of_stop_le spliced (inside x (by simp [hx])) ?_⟩
    exact Int.le_trans before aInside.2.1
  · exact ⟨rfl, ClassOutline.stays_of_stop_le spliced aInside (Int.le_refl _)⟩
  · rw [List.forall₂_map_right_iff]
    refine List.forall₂_same.2 fun y hy => ⟨rfl, ?_⟩
    exact ClassOutline.stays_of_le_start spliced (inside y (by simp [hy])) (fromA y hy)

section Add

variable {r : RouteClass} {front back : List Arrival} {a : Arrival}
  (h : Arrived first content originals rs (front ++ a :: back))
include h

theorem date_arrival {x : Arrival} (hx : x ∈ front ++ a :: back) :
    x.date < (r.arrival rs.length a).date :=
  Nat.lt_succ_of_le (h.date_le hx)

/-- No class has the number of the step that adds one. -/
theorem once_arrivals : (r.arrivals rs.length front a back).Pairwise
    fun x y => x.date = y.date → x.date = 0 := by
  refine pairwise_insert h.once (fun _ _ h => h) (fun _ _ h => h) (fun x hx same => ?_)
    fun y hy same => ?_
  · have older : x ∈ front ++ a :: back :=
      List.append_cons front a back ▸ List.mem_append_left back hx
    exact absurd same (Nat.ne_of_lt (h.date_arrival older))
  · have older : y ∈ front ++ a :: back := by simp [hy]
    rw [Arrival.date_shift] at same
    exact absurd same (Nat.ne_of_gt (h.date_arrival older))

/-- The new class stands behind all that extend its base. -/
theorem behind_arrivals (none : ∀ y ∈ back, y.extends? r.base = false) :
    (r.arrivals rs.length front a back).Pairwise
      fun x y => ∀ n r', x.origin = some (n, r') → y.date ≤ n → y.extends? r'.base = false := by
  refine pairwise_insert h.behind (fun _ _ h => h) (fun _ _ h => h) ?_ ?_
  · intro x hx n r' origin earlier
    have older : x ∈ front ++ a :: back :=
      List.append_cons front a back ▸ List.mem_append_left back hx
    obtain ⟨below, -⟩ := List.getElem?_eq_some_iff.1 (h.added x older n r' origin).1
    exact absurd (Nat.lt_of_lt_of_le below (Nat.le_of_succ_le earlier)) (Nat.lt_irrefl _)
  · intro y hy n r' origin earlier
    cases origin
    exact none y hy

/-- A step puts its class behind one that extends its base and behind which none does. -/
theorem add {after : Bytes}
    (inOrder : Outline.InOrder ⟨(front ++ a :: back).map (·.outline)⟩ content.length)
    (none : ∀ y ∈ back, y.extends? r.base = false)
    (spliced : splice content (r.declaration.offset a.outline) (Utf8.encode r.declaration.text)
      = .ok after) :
    Arrived first after originals (rs ++ [r]) (r.arrivals rs.length front a back) := by
  have stays := forall₂_stays inOrder (Span.spliced_of_splice spliced)
  have size : ((Utf8.encode r.declaration.text).length : Int) = r.declaration.size := rfl
  rw [size] at stays
  refine ⟨?_, ?_, h.once_arrivals, h.behind_arrivals none⟩
  · have kept := forall₂_filter stays (p := (·.origin.isNone)) (q := (·.origin.isNone))
      fun x y same => by rw [same.1]
    have outlines := forall₂_map_of_mem kept (f := (·.outline)) (g := (·.outline))
      fun x _ y _ same => same.2
    have whole := forall₂_trans h.originals outlines fun _ _ _ => ClassOutline.Stays.trans
    simpa [RouteClass.arrivals, RouteClass.arrival, List.filter_append, List.filter_cons]
      using whole
  · intro x hx n r' origin
    by_cases isNew : x = r.arrival rs.length a
    · subst isNew
      cases origin
      exact ⟨by simp, r.isClass_of_splice spliced⟩
    · have old : x ∈ front ++ a :: back.map (Arrival.shift r.declaration.size) := by
        simp only [RouteClass.arrivals, List.mem_append, List.mem_cons] at hx ⊢
        tauto
      obtain ⟨y, hy, same, stayed⟩ := exists_left_of_mem stays old
      obtain ⟨known, isClass⟩ := h.added y hy n r' (by rw [← same, origin])
      obtain ⟨below, -⟩ := List.getElem?_eq_some_iff.1 known
      exact ⟨by rw [List.getElem?_append_left below, known], isClass.stays stayed⟩

end Add

end Arrived

/-! ## Steps and runs -/

section Run

variable (outliner : Outliner) (names : Names) (path : String)

/-- The content with the classes of some routes put in, one after the other. -/
def addRouteClasses (rs : List RouteClass) (content : Bytes) : Bytes :=
  Step.run (rs.map (·.declaration.step outliner names path)) content

/-- What comes of a step behind some others. -/
def RouteClass.resultAfter (r : RouteClass) (rs : List RouteClass) (content : Bytes) :
    Except InsertionError Bytes :=
  (r.declaration.step outliner names path).result (addRouteClasses outliner names path rs content)

/-- Whether a class was there before a step that extends a base class. -/
def Known (arrivals : List Arrival) (n : Nat) (base : String) : Prop :=
  ∃ a ∈ arrivals, a.date ≤ n ∧ a.extends? base = true

/-- Which steps succeed: those that find a class that extends their base, be it one the
source had or one that was added.  All others are refused. -/
def Answered (first : Bytes) (rs : List RouteClass) (arrivals : List Arrival) : Prop :=
  ∀ n r, rs[n]? = some r →
    (Known arrivals n r.base →
      (∃ after, r.resultAfter outliner names path (rs.take n) first = .ok after) ∧
        ∃ a ∈ arrivals, a.origin = some (n, r)) ∧
    (¬ Known arrivals n r.base →
      r.resultAfter outliner names path (rs.take n) first = .error (.noPlace .route path))

/-- A source into which the classes of some routes were put, as it is read. -/
structure Progress (first : Bytes) (originals : List ClassOutline) (rs : List RouteClass)
    (content : Bytes) (arrivals : List Arrival) : Prop where
  reached : addRouteClasses outliner names path rs first = content
  outline : outliner content = .ok ⟨arrivals.map (·.outline)⟩
  inOrder : Outline.InOrder ⟨arrivals.map (·.outline)⟩ content.length
  arrived : Arrived first content originals rs arrivals
  answered : Answered outliner names path first rs arrivals

variable {outliner names path}

theorem addRouteClasses_concat (rs : List RouteClass) (r : RouteClass) (content : Bytes) :
    addRouteClasses outliner names path (rs ++ [r]) content
      = (r.declaration.step outliner names path).after
          (addRouteClasses outliner names path rs content) := by
  simp [addRouteClasses, Step.run]

/-- Where the class of a route goes to, and what the source is read as then. -/
theorem RouteClass.planned (names : Names) (path : String) {r : RouteClass}
    {front back : List ClassOutline} {c : ClassOutline}
    (passes : ClassTest.extendsText r.base c = true)
    (none : ∀ c' ∈ back, ClassTest.extendsText r.base c' = false) :
    ∃ note, r.declaration.insertion.plan names path ⟨front ++ c :: back⟩
      = .ok ⟨r.declaration.offset c, r.declaration.text, note⟩ := by
  have anchor := Outline.anchor?_eq_some.2 ⟨front, back, rfl, passes, none⟩
  simp only [RouteClass.declaration, Insertion.plan, Insertion.planRouteClass, anchor]
  exact ⟨_, rfl⟩

theorem RouteClass.refused (names : Names) (path : String) {r : RouteClass} {o : Outline}
    (none : ∀ c ∈ o.classes, ClassTest.extendsText r.base c = false) :
    r.declaration.insertion.plan names path o = .error .route := by
  have anchor := Outline.anchor?_eq_none.2 none
  simp only [RouteClass.declaration, Insertion.plan, Insertion.planRouteClass, anchor]

/-- A new class keeps the order. -/
theorem RouteClass.inOrder_outline (r : RouteClass) {front back : List ClassOutline}
    {c : ClassOutline} {length length' : Nat} (h : Outline.InOrder ⟨front ++ c :: back⟩ length)
    (longer : (length' : Int) = length + r.declaration.size) :
    (r.declaration.outline front c back).InOrder length' := by
  have size := r.size_declaration
  have positive := r.size_fragment_pos
  have shape : r.declaration.outline front c back
      = ⟨front ++ c :: r.outline (c.span.stop + 2)
        :: back.map (ClassOutline.shift r.declaration.size)⟩ := by
    simp [Declaration.outline, RouteClass.declaration]
  rw [shape]
  refine h.insert longer ?_ ?_ ?_
  all_goals simp only [RouteClass.outline]; omega

/-- All classes that were there are there when one is added. -/
theorem RouteClass.exists_mem_arrivals (r : RouteClass) (step : Nat) {front back : List Arrival}
    {a x : Arrival} (hx : x ∈ front ++ a :: back) :
    ∃ y ∈ r.arrivals step front a back,
      y.origin = x.origin ∧ ∀ base, y.extends? base = x.extends? base := by
  simp only [List.mem_append, List.mem_cons] at hx
  rcases hx with hx | rfl | hx
  · exact ⟨x, by simp [arrivals, hx], rfl, fun _ => rfl⟩
  · exact ⟨x, by simp [arrivals], rfl, fun _ => rfl⟩
  · exact ⟨x.shift r.declaration.size, by simp [arrivals, List.mem_map_of_mem hx], rfl,
      fun _ => rfl⟩

/-- A class that is added was not there before any of the steps up to that one. -/
theorem known_arrivals {r : RouteClass} {step n : Nat} (early : n ≤ step)
    {front back : List Arrival} {a : Arrival} {base : String} :
    Known (r.arrivals step front a back) n base ↔ Known (front ++ a :: back) n base := by
  constructor
  · rintro ⟨x, hx, known, found⟩
    simp only [RouteClass.arrivals, List.mem_append, List.mem_cons, List.mem_map] at hx
    rcases hx with hx | rfl | rfl | ⟨y, hy, rfl⟩
    · exact ⟨x, by simp [hx], known, found⟩
    · exact ⟨x, by simp, known, found⟩
    · exact absurd (Nat.le_trans known early) (Nat.not_succ_le_self step)
    · exact ⟨y, by simp [hy], known, found⟩
  · rintro ⟨x, hx, known, found⟩
    obtain ⟨y, hy, origin, same⟩ := r.exists_mem_arrivals step hx
    exact ⟨y, hy, by rwa [Arrival.date, origin], by rw [same, found]⟩

theorem Answered.concat {first : Bytes} {rs : List RouteClass} {arrivals arrivals' : List Arrival}
    {r : RouteClass} (h : Answered outliner names path first rs arrivals)
    (same : ∀ n ≤ rs.length, ∀ base, Known arrivals' n base ↔ Known arrivals n base)
    (kept : ∀ a ∈ arrivals, ∃ a' ∈ arrivals', a'.origin = a.origin)
    (found : Known arrivals rs.length r.base →
      (∃ after, r.resultAfter outliner names path rs first = .ok after) ∧
        ∃ a ∈ arrivals', a.origin = some (rs.length, r))
    (refused : ¬ Known arrivals rs.length r.base →
      r.resultAfter outliner names path rs first = .error (.noPlace .route path)) :
    Answered outliner names path first (rs ++ [r]) arrivals' := by
  intro n r' isStep
  rcases Nat.lt_or_ge n rs.length with earlier | last
  · rw [List.getElem?_append_left earlier] at isStep
    obtain ⟨succeeds, fails⟩ := h n r' isStep
    rw [same n (Nat.le_of_lt earlier), List.take_append_of_le_length (Nat.le_of_lt earlier)]
    refine ⟨fun known => ?_, fails⟩
    obtain ⟨done, a, ha, origin⟩ := succeeds known
    obtain ⟨a', ha', sameOrigin⟩ := kept a ha
    exact ⟨done, a', ha', sameOrigin.trans origin⟩
  · obtain ⟨below, -⟩ := List.getElem?_eq_some_iff.1 isStep
    obtain rfl : n = rs.length := by
      rw [List.length_append, List.length_singleton] at below
      omega
    rw [List.getElem?_concat_length] at isStep
    cases isStep
    rw [same _ (Nat.le_refl _), List.take_left]
    exact ⟨found, refused⟩

namespace Progress

variable {first content : Bytes} {originals : List ClassOutline} {rs : List RouteClass}
  {arrivals : List Arrival} {r : RouteClass}
  (h : Progress outliner names path first originals rs content arrivals)
include h

theorem result_eq : r.resultAfter outliner names path rs first
    = (r.declaration.step outliner names path).result content := by
  rw [RouteClass.resultAfter, h.reached]

/-- Before any step, all classes that there are are known. -/
theorem known_iff (base : String) :
    Known arrivals rs.length base ↔ ∃ a ∈ arrivals, a.extends? base = true := by
  constructor
  · rintro ⟨a, ha, -, passes⟩
    exact ⟨a, ha, passes⟩
  · rintro ⟨a, ha, passes⟩
    exact ⟨a, ha, h.arrived.date_le ha, passes⟩

/-- A step that finds no class is refused and changes nothing. -/
theorem refuse (none : ∀ a ∈ arrivals, a.extends? r.base = false) :
    Progress outliner names path first originals (rs ++ [r]) content arrivals := by
  have refused : (r.declaration.step outliner names path).result content
      = .error (.noPlace .route path) := by
    refine Declaration.result_refused h.outline (RouteClass.refused names path fun c hc => ?_)
    obtain ⟨a, ha, rfl⟩ := List.mem_map.1 hc
    exact none a ha
  refine ⟨?_, h.outline, h.inOrder, h.arrived.skip r, ?_⟩
  · rw [addRouteClasses_concat, h.reached, Step.after, refused]
  · refine h.answered.concat (fun _ _ _ => Iff.rfl) (fun a ha => ⟨a, ha, rfl⟩) ?_ ?_
    · rw [h.known_iff]
      rintro ⟨a, ha, passes⟩
      rw [none a ha] at passes
      cases passes
    · intro _
      rw [h.result_eq, refused]

/-- A step that finds a class puts the class of its route in behind it. -/
theorem extend {front back : List Arrival} {a : Arrival} (shape : arrivals = front ++ a :: back)
    (passes : a.extends? r.base = true) (none : ∀ y ∈ back, y.extends? r.base = false)
    (reread : r.declaration.IsReread outliner names path content) :
    ∃ after arrivals',
      Progress outliner names path first originals (rs ++ [r]) after arrivals' := by
  subst shape
  have outline := h.outline
  have inOrder := h.inOrder
  rw [List.map_append, List.map_cons] at outline inOrder
  have noneBehind : ∀ c ∈ back.map (·.outline), ClassTest.extendsText r.base c = false := by
    intro c hc
    obtain ⟨y, hy, rfl⟩ := List.mem_map.1 hc
    exact none y hy
  have inside := inOrder.inside a.outline (by simp)
  have place : 0 ≤ a.outline.span.stop ∧ a.outline.span.stop ≤ content.length :=
    ⟨Int.le_trans inside.1 inside.2.1, inside.2.2⟩
  obtain ⟨note, planned⟩ := @RouteClass.planned names path r (front.map (·.outline)) _ _ passes
    noneBehind
  obtain ⟨after, done, read, spliced⟩ :=
    Declaration.exists_after outline place planned reread
  have length := length_of_splice spliced
  have arrived := h.arrived.add h.inOrder none spliced
  have classes : r.declaration.outline (front.map (·.outline)) a.outline (back.map (·.outline))
      = ⟨(r.arrivals rs.length front a back).map (·.outline)⟩ := by
    simp [Declaration.outline, RouteClass.declaration, RouteClass.arrivals, RouteClass.arrival]
  refine ⟨after, _, ?_, classes ▸ read, ?_, arrived, ?_⟩
  · rw [addRouteClasses_concat, h.reached, Step.after, done]
  · rw [← classes]
    exact r.inOrder_outline inOrder (by rw [length, Int.natCast_add]; rfl)
  · refine h.answered.concat (fun n early base => known_arrivals early) (fun x hx => ?_) ?_ ?_
    · obtain ⟨y, hy, origin, -⟩ := r.exists_mem_arrivals rs.length hx
      exact ⟨y, hy, origin⟩
    · intro _
      rw [h.result_eq, done]
      exact ⟨⟨after, rfl⟩, r.arrival rs.length a, by simp [RouteClass.arrivals], rfl⟩
    · intro unknown
      rw [h.known_iff] at unknown
      exact absurd ⟨a, by simp, passes⟩ unknown

theorem step (reread : r.declaration.IsReread outliner names path content) :
    ∃ after arrivals',
      Progress outliner names path first originals (rs ++ [r]) after arrivals' := by
  cases found : Outline.anchor? ⟨arrivals.map (·.outline)⟩ (.extendsText r.base) with
  | none =>
      have none := Outline.anchor?_eq_none.1 found
      exact ⟨content, arrivals, h.refuse fun a ha => none _ (List.mem_map_of_mem ha)⟩
  | some c =>
      obtain ⟨fs, bs, shape, passes, none⟩ := Outline.anchor?_eq_some.1 found
      obtain ⟨front, rest, rfl, -, restShape⟩ := List.map_eq_append_iff.1 shape
      obtain ⟨a, back, rfl, rfl, rfl⟩ := List.map_eq_cons_iff.1 restShape
      exact h.extend rfl passes (fun y hy => none _ (List.mem_map_of_mem hy)) reread

end Progress

/-- More steps. -/
theorem Progress.run {first content : Bytes} {originals : List ClassOutline}
    {rs more : List RouteClass} {arrivals : List Arrival}
    (h : Progress outliner names path first originals rs content arrivals)
    (reread : Declaration.AreReread outliner names path (more.map (·.declaration)) content) :
    ∃ last arrivals', Progress outliner names path first originals (rs ++ more) last arrivals' := by
  induction more generalizing rs content arrivals with
  | nil => exact ⟨content, arrivals, by rwa [List.append_nil]⟩
  | cons r more ih =>
      obtain ⟨now, later⟩ := reread
      obtain ⟨after, arrivals', h'⟩ := h.step now
      have reached := h'.reached
      rw [addRouteClasses_concat, h.reached] at reached
      rw [reached] at later
      obtain ⟨last, arrivals'', h''⟩ := ih h' later
      exact ⟨last, arrivals'', by rwa [List.append_assoc] at h''⟩

/-- Any classes of routes may be put into a source. -/
theorem exists_progress {content : Bytes} {o : Outline} {rs : List RouteClass}
    (read : outliner content = .ok o) (inOrder : o.InOrder content.length)
    (reread : Declaration.AreReread outliner names path (rs.map (·.declaration)) content) :
    ∃ last arrivals, Progress outliner names path content o.classes rs last arrivals := by
  have same : (o.classes.map (Arrival.mk · none)).map (·.outline) = o.classes := by
    simp [Function.comp_def]
  have start : Progress outliner names path content o.classes [] content
      (o.classes.map (Arrival.mk · none)) := by
    refine ⟨rfl, by rw [read, same], by rwa [same], .start content o.classes, ?_⟩
    intro n r isStep
    cases isStep
  exact start.run reread

end Run

end RouteGraft
