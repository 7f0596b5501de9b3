import RouteGraft.Insertion
import RouteGraft.Proofs.Regrowth

/-!
# Lists around an edit

Where a list is added to, no element of it is behind the edit
(`Nested.stop_le_append`), and so all of them keep their places and their texts.  Where
something is added to a list in an element, that element grows, and the ones around it
stay or move as a whole (`WellNested.map_stretch`).
-/

namespace RouteGraft

/-- An element that has grown by some bytes, with a changed list as its only argument. -/
def ListElementOf.grow (d : Int) (name : String) (span : Span) (changed : ListLiteral)
    (e : ListElement) : ListElement :=
  ⟨⟨e.span.start, e.span.stop + d⟩, e.callee, [⟨name, ⟨span.start, span.stop + d⟩, some changed⟩]⟩

namespace ListLiteral

variable {l v : ListLiteral} {e : ListElement}

/-! ## Lists in lists -/

theorem WellNested.nested (h : l.WellNested) : l.Nested := by
  cases h
  assumption

theorem Nested.element_inside (h : l.Nested) {outer : Span} (inside : l.span.Inside outer)
    (he : e ∈ l.elements) : e.span.Inside outer := by
  have inList := h.inside e he
  have bracket := h.bracket_le_stop
  unfold Span.Inside at *
  dsimp only at *
  omega

/-- A list in an argument is nested as well. -/
theorem WellNested.inner (h : l.WellNested) (he : e ∈ l.elements) {a : NamedArgument}
    (ha : a ∈ e.namedArguments) (value : a.value = some v) : v.WellNested := by
  cases h with
  | mk nested inner => exact inner e he a ha v value

theorem WellNested.value_inside (h : l.WellNested) (he : e ∈ l.elements) {a : NamedArgument}
    (ha : a ∈ e.namedArguments) (value : a.value = some v) :
    v.span.Inside a.span ∧ a.span.Inside e.span := by
  have nested := h.nested.elements e he
  exact ⟨nested.value_inside a ha v value, nested.inside a ha⟩

/-- The elements of a list inside of an element lie inside of that element. -/
theorem WellNested.inner_inside (h : l.WellNested) (he : e ∈ l.elements) {a : NamedArgument}
    (ha : a ∈ e.namedArguments) (value : a.value = some v) {b : ListElement}
    (hb : b ∈ v.elements) : b.span.Inside e.span := by
  obtain ⟨inArgument, inElement⟩ := h.value_inside he ha value
  exact (h.inner he ha value).nested.element_inside (inArgument.trans inElement) hb

/-! ## At the end of a list -/

/-- No element of a list goes beyond the place where the list is added to. -/
theorem Nested.stop_le_append (h : l.Nested) (he : e ∈ l.elements) (fragment : String) :
    e.span.stop ≤ (l.append fragment).1 := by
  have bracket := (h.inside e he).2.2
  unfold append
  split
  · exact bracket
  · next last isLast =>
      split
      · exact bracket
      · obtain ⟨earlier, shape⟩ := List.getLast?_eq_some_iff.1 isLast
        have order := h.ordered
        rw [shape, List.map_append, Span.Ordered, List.pairwise_append] at order
        rw [shape] at he
        rcases List.mem_append.1 he with he | he
        · have apart := order.2.2 e.span (List.mem_map_of_mem he) last.span (by simp)
          have wide := (h.inside last (by simp [shape])).2.1
          exact Int.le_trans apart wide
        · obtain rfl := List.mem_singleton.1 he
          exact Int.le_refl _

/-- Where a list is added to, its elements keep their texts. -/
theorem Nested.sameText_append {content after : Bytes} {d : Int} {fragment : String}
    (h : l.Nested) (inside : l.span.Inside ⟨0, content.length⟩)
    (spliced : Span.Spliced content after (l.append fragment).1 d) :
    ∀ e ∈ l.elements, Span.SameText content after 0 e.span := by
  intro e he
  have inSource := h.element_inside inside he
  exact spliced.front.of_inside ⟨inSource.1, inSource.2.1, h.stop_le_append he fragment⟩

/-! ## In an element of a list -/

/-- Where an offset splits a list in an element, the other elements are in front of the
offset or behind it. -/
theorem WellNested.sides (h : l.WellNested) {front back : List ListElement}
    (shape : l.elements = front ++ e :: back) {name : String} {span : Span}
    (arguments : e.namedArguments = [⟨name, span, some v⟩]) {k : Int} (splits : v.span.Splits k) :
    (∀ x ∈ front, x.span.stop ≤ k) ∧ span.Splits k ∧ e.span.Splits k ∧
      ∀ x ∈ back, k < x.span.stop ∧ k ≤ x.span.start := by
  have he : e ∈ l.elements := by simp [shape]
  have ha : (⟨name, span, some v⟩ : NamedArgument) ∈ e.namedArguments := by simp [arguments]
  obtain ⟨inArgument, inElement⟩ := h.value_inside he ha rfl
  have splitsArgument : span.Splits k := splits.of_inside inArgument
  have splitsElement : e.span.Splits k := splitsArgument.of_inside inElement
  have order := h.nested.ordered
  rw [shape, List.map_append, List.map_cons, Span.Ordered, List.pairwise_append,
    List.pairwise_cons] at order
  obtain ⟨-, ⟨behind, -⟩, before⟩ := order
  refine ⟨fun x hx => ?_, splitsArgument, splitsElement, fun x hx => ?_⟩
  · have apart := before x.span (List.mem_map_of_mem hx) e.span List.mem_cons_self
    exact Int.le_trans apart (Int.le_of_lt splitsElement.1)
  · have apart := behind x.span (List.mem_map_of_mem hx)
    have wide := (h.nested.inside x (by simp [shape, hx])).2.1
    have stop := splitsElement.2
    unfold Span.Before at apart
    omega

/-- Around an element with a split list the elements of a list are whole. -/
theorem WellNested.map_stretch (h : l.WellNested) {front back : List ListElement}
    (shape : l.elements = front ++ e :: back) {name : String} {span : Span}
    (arguments : e.namedArguments = [⟨name, span, some v⟩]) {k : Int} (splits : v.span.Splits k)
    (d : Int) (changed : ListLiteral) :
    l.elements.map (ListElementOf.stretch k d changed)
      = front ++ ListElementOf.grow d name span changed e :: back.map (ListElementOf.shift d) := by
  obtain ⟨before, splitsArgument, splitsElement, behind⟩ := h.sides shape arguments splits
  have stays : ∀ x ∈ front, ListElementOf.stretch k d changed x = x :=
    fun x hx => Span.pick_of_stop_le (before x hx)
  have moves : ∀ x ∈ back, ListElementOf.stretch k d changed x = ListElementOf.shift d x :=
    fun x hx => Span.pick_of_le_start (behind x hx).2 (behind x hx).1
  have value : ListLiteral.stretch k d changed v = changed := ListLiteral.stretch_of_splits splits
  have argument : NamedArgumentOf.stretch k d changed ⟨name, span, some v⟩
      = ⟨name, ⟨span.start, span.stop + d⟩, some changed⟩ := by
    rw [NamedArgumentOf.stretch, Span.pick_of_splits splitsArgument, Option.map_some, value]
  rw [shape, List.map_append, List.map_cons, List.map_congr_left stays, List.map_congr_left moves,
    List.map_id', ListElementOf.stretch, Span.pick_of_splits splitsElement, arguments,
    List.map_singleton, argument, ListElementOf.grow]

/-- The elements around that one keep their texts, where they are or as they move. -/
theorem WellNested.sameText_around {content after : Bytes} {k d : Int} (h : l.WellNested)
    (inside : l.span.Inside ⟨0, content.length⟩) {front back : List ListElement}
    (shape : l.elements = front ++ e :: back) {name : String} {span : Span}
    (arguments : e.namedArguments = [⟨name, span, some v⟩]) (splits : v.span.Splits k)
    (spliced : Span.Spliced content after k d) :
    (∀ x ∈ front, Span.SameText content after 0 x.span) ∧
      ∀ x ∈ back, Span.SameText content after d x.span := by
  obtain ⟨before, -, -, behind⟩ := h.sides shape arguments splits
  have inSource : ∀ x ∈ l.elements, x.span.Inside ⟨0, content.length⟩ :=
    fun x hx => h.nested.element_inside inside hx
  refine ⟨fun x hx => ?_, fun x hx => ?_⟩
  · have inSource := inSource x (by simp [shape, hx])
    exact spliced.front.of_inside ⟨inSource.1, inSource.2.1, before x hx⟩
  · have inSource := inSource x (by simp [shape, hx])
    exact spliced.back.of_inside ⟨(behind x hx).2, inSource.2⟩

/-- Where the list in that element is added to, its elements keep their texts. -/
theorem WellNested.inner_texts {content after : Bytes} {d : Int} {fragment : String}
    (h : l.WellNested) (inside : l.span.Inside ⟨0, content.length⟩) (he : e ∈ l.elements)
    {a : NamedArgument} (ha : a ∈ e.namedArguments) (value : a.value = some v)
    (spliced : Span.Spliced content after (v.append fragment).1 d) :
    ∀ b ∈ v.elements, b.span.text after = b.span.text content := by
  obtain ⟨inArgument, inElement⟩ := h.value_inside he ha value
  have nested := (h.inner he ha value).nested
  have inSource := (inArgument.trans inElement).trans (h.nested.element_inside inside he)
  intro b hb
  exact (nested.sameText_append inSource spliced b hb).text_stays (nested.inside b hb).2.1

end ListLiteral

end RouteGraft
