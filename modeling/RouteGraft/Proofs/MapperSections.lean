import Mathlib.Data.List.Induction
import RouteGraft.Proofs.Completeness
import RouteGraft.Proofs.ListEdits

/-!
# Sections of a mapper

Every kind of route that is registered in a mapper has a section of its own among the
routers, a call of the mapper of that kind with a list of its routes.  Where sections
move with their texts they stay sections (`IsSection.shift`), and what is registered
for a kind is put into no other section than the one of that kind.
-/

namespace RouteGraft

open Dart (Node Kind Field)
open Outline (ReadsGroup)

/-! ## Registrations -/

/-- A route to be registered: its kind and result type, its name, and the component
it shows.  The text of its entry is an expression, that is complete, with a comma
behind it. -/
structure Registration where
  kind : RouteKind
  generic : Option String
  name : String
  ui : Option String
  builder : Expression
  entry_eq : builder.text ++ "," = Fragment.mapperEntry (kind.metaFor generic) name ui
  complete : builder.Complete
  between : ∀ n ∈ builder.nodes, BetweenCharacters (Utf8.encode builder.text) n

namespace Registration

variable (r : Registration)

/-- The description of the kind of a route. -/
def description : RouteMeta := r.kind.metaFor r.generic

/-- The section a route gets if it is the first one of its kind. -/
def newSection : Expression :=
  r.builder.newSection r.description.typeName r.description.baseClass

/-- What is inserted for a route. -/
def insertion : Insertion :=
  .mapperEntry (Fragment.mapperSection r.description r.name r.ui)
    (Fragment.mapperEntry r.description r.name r.ui) r.description.typeName

/-- The result type changes nothing else in the description of a kind. -/
theorem names_description : r.description.typeName = r.kind.describe.typeName ∧
    r.description.baseClass = r.kind.describe.baseClass := by
  unfold description RouteKind.metaFor
  split
  · split <;> exact ⟨rfl, rfl⟩
  · exact ⟨rfl, rfl⟩

theorem entry_piece :
    Fragment.mapperEntry r.description r.name r.ui = r.builder.text ++ "," :=
  r.entry_eq.symm

theorem section_piece :
    Fragment.mapperSection r.description r.name r.ui = r.newSection.text ++ "," :=
  mapperSection_eq r.entry_eq

theorem complete_newSection : r.newSection.Complete := by
  refine r.complete.newSection ?_
  rw [r.names_description.2]
  cases r.kind <;> decide

end Registration

/-! ## Kinds and builders -/

/-- The kinds of some routes, in the order of their first use. -/
def kindsUsed (rs : List Registration) : List RouteKind := (rs.map (·.kind)).eraseDups

/-- The builders of the routes of a kind, in order. -/
def buildersOf (rs : List Registration) (kind : RouteKind) : List String :=
  (rs.filter (·.kind = kind)).map (·.builder.text)

theorem kindsUsed_concat (rs : List Registration) (r : Registration) :
    kindsUsed (rs ++ [r])
      = if r.kind ∈ kindsUsed rs then kindsUsed rs else kindsUsed rs ++ [r.kind] := by
  have left : (kindsUsed rs).contains r.kind = (rs.map (·.kind)).contains r.kind := by
    rw [Bool.eq_iff_iff, List.contains_iff_mem, List.contains_iff_mem, kindsUsed,
      List.mem_eraseDups]
  rw [kindsUsed, List.map_append, List.map_singleton, List.eraseDups_append, List.removeAll,
    List.filter_singleton, List.elem_eq_contains, ← left, ← kindsUsed]
  split
  next used =>
    rw [List.contains_iff_mem.2 used, Bool.not_true, cond_false, List.eraseDups_nil,
      List.append_nil]
  next new =>
    rw [Bool.eq_false_iff.2 (mt List.contains_iff_mem.1 new), Bool.not_false, cond_true]
    rfl

theorem nodup_kindsUsed (rs : List Registration) : (kindsUsed rs).Nodup := by
  induction rs using List.reverseRecOn with
  | nil => exact List.nodup_nil
  | append_singleton rs r ih =>
      rw [kindsUsed_concat]
      split
      · exact ih
      · next new =>
          refine List.nodup_append.2 ⟨ih, List.pairwise_singleton _ _, ?_⟩
          rintro kind used _ last rfl
          exact new (List.mem_singleton.1 last ▸ used)

theorem buildersOf_concat_self (rs : List Registration) (r : Registration) :
    buildersOf (rs ++ [r]) r.kind = buildersOf rs r.kind ++ [r.builder.text] := by
  simp [buildersOf]

theorem buildersOf_concat_of_ne {kind : RouteKind} (rs : List Registration) {r : Registration}
    (h : kind ≠ r.kind) : buildersOf (rs ++ [r]) kind = buildersOf rs kind := by
  simp [buildersOf, Ne.symm h]

/-- Of a kind that was not used there are no builders. -/
theorem buildersOf_of_not_mem {kind : RouteKind} {rs : List Registration}
    (h : kind ∉ kindsUsed rs) : buildersOf rs kind = [] := by
  have none : ∀ r ∈ rs, ¬ r.kind = kind := by
    rintro r hr rfl
    exact h (List.mem_eraseDups.2 (List.mem_map_of_mem hr))
  rw [buildersOf, List.filter_eq_nil_iff.2 fun r hr => by simpa using none r hr, List.map_nil]

/-! ## Sections -/

/-- An element that is the section of a kind of route, with the texts of its builders. -/
structure IsSection (content : Bytes) (kind : RouteKind) (builders : List String)
    (e : ListElement) : Prop where
  callee : e.callee = some (kind.describe.typeName ++ "Mapper")
  routes : ∃ span routes, e.namedArguments = [⟨"routes", span, some routes⟩] ∧
    routes.hasTrailingComma = true ∧
      routes.elements.map (·.span.text content) = builders.map Except.ok

/-- A new section is one with a single builder. -/
theorem isSection_newSection {r : Registration} {e : ListElement} {after : Bytes} {δ : Int}
    (read : ReadsGroup (Utf8.encode r.builder.text) r.builder.parts e)
    (same : Span.SameText (Utf8.encode r.newSection.text) after δ
      ⟨0, Utf8.size r.newSection.text⟩) :
    IsSection after r.kind [r.builder.text] (ListElementOf.shift δ
      (r.builder.newElement r.description.typeName r.description.baseClass e)) := by
  refine ⟨?_, _, _, rfl, rfl, ?_⟩
  · rw [← r.names_description.1]
    rfl
  · have span := r.builder.span_of_readsGroup read
    have whole : Span.Inside ⟨0, Utf8.size r.builder.text⟩ ⟨0, Utf8.size r.builder.text⟩ :=
      ⟨Int.le_refl _, Utf8.size_nonneg _, Int.le_refl _⟩
    have inner := (r.builder.sameText_newSection r.description.typeName
      r.description.baseClass).text whole
    rw [Span.text_encode] at inner
    have outer := same.text (s := Span.shift
      (Utf8.size (sectionHead r.description.typeName r.description.baseClass))
      ⟨0, Utf8.size r.builder.text⟩) (r.builder.inside_newSection _ _)
    rw [Registration.newSection, inner] at outer
    rw [ListLiteral.elements_shift, List.map_map]
    simp only [Expression.newRoutes, List.map_singleton, Function.comp_apply,
      ListElementOf.span_shift, span, outer]

/-- With one more builder in its list a section stays one. -/
theorem IsSection.grow {content after : Bytes} {kind : RouteKind} {builders : List String}
    {e last : ListElement} {routes : ListLiteral} {builder : String}
    (h : IsSection content kind builders e) (d : Int) (span : Span)
    (texts : routes.elements.map (·.span.text content) = builders.map Except.ok)
    (stay : ∀ b ∈ routes.elements, b.span.text after = b.span.text content)
    (isLast : last.span.text after = .ok builder) :
    IsSection after kind (builders ++ [builder])
      (ListElementOf.grow d "routes" span (routes.grow d last) e) := by
  refine ⟨h.callee, _, _, rfl, rfl, ?_⟩
  rw [ListLiteral.grow, List.map_append, List.map_append, ← texts, List.map_congr_left stay,
    List.map_singleton, List.map_singleton, isLast]

/-- A section that moves with its text stays one. -/
theorem IsSection.shift {content after : Bytes} {δ : Int} {kind : RouteKind}
    {builders : List String} {e : ListElement} {l : ListLiteral}
    (h : IsSection content kind builders e) (wellNested : l.WellNested) (he : e ∈ l.elements)
    (same : Span.SameText content after δ e.span) :
    IsSection after kind builders (ListElementOf.shift δ e) := by
  obtain ⟨callee, span, routes, arguments, trailing, texts⟩ := h
  refine ⟨by rw [ListElementOf.callee_shift, callee], span.shift δ, routes.shift δ, ?_, ?_, ?_⟩
  · rw [ListElementOf.namedArguments_shift, arguments, List.map_singleton,
      NamedArgumentOf.shift_eq]
    rfl
  · rw [ListLiteral.hasTrailingComma_shift, trailing]
  · rw [ListLiteral.elements_shift, List.map_map, ← texts]
    refine List.map_congr_left fun b hb => ?_
    rw [Function.comp_apply, ListElementOf.span_shift]
    exact same.text (wellNested.inner_inside he (arguments ▸ List.mem_singleton_self _) rfl hb)

/-- Elements that are the sections of some kinds, one by one. -/
def AreSections (content : Bytes) (builders : RouteKind → List String) (kinds : List RouteKind)
    (es : List ListElement) : Prop :=
  List.Forall₂ (fun kind e => IsSection content kind (builders kind) e) kinds es

/-- Sections that move with their texts stay sections, if their kinds get no other
builders. -/
theorem AreSections.shift {content after : Bytes} {δ : Int} {kinds : List RouteKind}
    {builders builders' : RouteKind → List String} {es : List ListElement} {l : ListLiteral}
    (h : AreSections content builders kinds es) (wellNested : l.WellNested)
    (sub : ∀ e ∈ es, e ∈ l.elements) (same : ∀ e ∈ es, Span.SameText content after δ e.span)
    (kept : ∀ kind ∈ kinds, builders' kind = builders kind) :
    AreSections after builders' kinds (es.map (ListElementOf.shift δ)) := by
  rw [AreSections, List.forall₂_map_right_iff]
  refine forall₂_imp_of_mem h fun kind used e he isSection => ?_
  rw [kept kind used]
  exact isSection.shift wellNested (sub e he) (same e he)

/-- Sections that stay where they are. -/
theorem AreSections.stay {content after : Bytes} {kinds : List RouteKind}
    {builders builders' : RouteKind → List String} {es : List ListElement} {l : ListLiteral}
    (h : AreSections content builders kinds es) (wellNested : l.WellNested)
    (sub : ∀ e ∈ es, e ∈ l.elements) (same : ∀ e ∈ es, Span.SameText content after 0 e.span)
    (kept : ∀ kind ∈ kinds, builders' kind = builders kind) :
    AreSections after builders' kinds es := by
  have moved := h.shift wellNested sub same kept
  rwa [List.map_congr_left fun e _ => ListElementOf.shift_zero e, List.map_id'] at moved

/-- With a section for a kind that was not used there is one for each kind again. -/
theorem AreSections.concat_unused {content after : Bytes} {rs : List Registration}
    {r : Registration} {es : List ListElement} {e : ListElement} {l : ListLiteral}
    (h : AreSections content (buildersOf rs) (kindsUsed rs) es) (unused : r.kind ∉ kindsUsed rs)
    (wellNested : l.WellNested) (sub : ∀ x ∈ es, x ∈ l.elements)
    (stay : ∀ x ∈ es, Span.SameText content after 0 x.span)
    (isSection : IsSection after r.kind [r.builder.text] e) :
    AreSections after (buildersOf (rs ++ [r])) (kindsUsed (rs ++ [r])) (es ++ [e]) := by
  have others : ∀ kind ∈ kindsUsed rs, buildersOf (rs ++ [r]) kind = buildersOf rs kind :=
    fun kind used => buildersOf_concat_of_ne rs (ne_of_mem_of_not_mem used unused)
  rw [kindsUsed_concat, if_neg unused]
  refine List.rel_append (h.stay wellNested sub stay others) (.cons ?_ .nil)
  rwa [buildersOf_concat_self, buildersOf_of_not_mem unused, List.nil_append]

/-- With one more builder in the section of its kind, where the sections in front of it
stay and the ones behind it move, there is one for each kind again. -/
theorem AreSections.concat_used {content after : Bytes} {rs : List Registration}
    {r : Registration} {earlier later : List RouteKind} {front back : List ListElement}
    {e : ListElement} {l : ListLiteral} {d : Int}
    (kinds : kindsUsed rs = earlier ++ r.kind :: later) (notEarlier : r.kind ∉ earlier)
    (notLater : r.kind ∉ later) (before : AreSections content (buildersOf rs) earlier front)
    (behind : AreSections content (buildersOf rs) later back) (wellNested : l.WellNested)
    (sub : ∀ x ∈ front ++ back, x ∈ l.elements)
    (stay : ∀ x ∈ front, Span.SameText content after 0 x.span)
    (move : ∀ x ∈ back, Span.SameText content after d x.span)
    (isSection : IsSection after r.kind (buildersOf rs r.kind ++ [r.builder.text]) e) :
    AreSections after (buildersOf (rs ++ [r])) (kindsUsed (rs ++ [r]))
      (front ++ e :: back.map (ListElementOf.shift d)) := by
  have used : r.kind ∈ kindsUsed rs := kinds ▸ List.mem_append_right _ List.mem_cons_self
  rw [kindsUsed_concat, if_pos used, kinds]
  refine List.rel_append ?_ (.cons ?_ ?_)
  · exact before.stay wellNested (fun x hx => sub x (List.mem_append_left _ hx)) stay
      fun kind isEarlier =>
        buildersOf_concat_of_ne rs (ne_of_mem_of_not_mem isEarlier notEarlier)
  · rwa [buildersOf_concat_self]
  · exact behind.shift wellNested (fun x hx => sub x (List.mem_append_right _ hx)) move
      fun kind isLater => buildersOf_concat_of_ne rs (ne_of_mem_of_not_mem isLater notLater)

/-! ## The section of a kind -/

/-- The names of the mappers are told apart by the prefixes of their kinds. -/
theorem startsWith_mapper (kind kind' : RouteKind) :
    Text.startsWith kind.describe.typeName (kind'.describe.typeName ++ "Mapper")
      = decide (kind = kind') := by
  cases kind <;> cases kind' <;> decide

/-- What is registered for a route goes to a section of its kind, and to no other one. -/
theorem IsSection.routesOf?_eq_none {content : Bytes} {kind : RouteKind} {builders : List String}
    {e : ListElement} (h : IsSection content kind builders e) {other : RouteKind}
    (ne : other ≠ kind) : routesOf? {} other.describe.typeName e = none := by
  rw [routesOf?, h.callee]
  dsimp only
  rw [startsWith_mapper, decide_eq_false ne, if_neg Bool.false_ne_true]

theorem IsSection.routesOf?_eq_some {content : Bytes} {kind : RouteKind} {builders : List String}
    {e : ListElement} (h : IsSection content kind builders e) :
    ∃ span routes, e.namedArguments = [⟨"routes", span, some routes⟩] ∧
      routes.elements.map (·.span.text content) = builders.map Except.ok ∧
      routesOf? {} kind.describe.typeName e
        = some (kind.describe.typeName ++ "Mapper", routes) := by
  obtain ⟨callee, span, routes, arguments, -, texts⟩ := h
  refine ⟨span, routes, arguments, texts, ?_⟩
  rw [routesOf?, callee, arguments]
  dsimp only
  rw [startsWith_mapper, decide_eq_true rfl, if_pos rfl]
  rfl

/-- An element that calls no name which starts like the name of a kind of route. -/
def IsForeign (e : ListElement) : Prop :=
  ∀ callee, e.callee = some callee →
    ∀ kind : RouteKind, Text.startsWith kind.describe.typeName callee = false

theorem IsForeign.routesOf?_eq_none {e : ListElement} (h : IsForeign e) (kind : RouteKind) :
    routesOf? {} kind.describe.typeName e = none := by
  unfold routesOf?
  split
  · rfl
  · next callee called => rw [h callee called kind, if_neg Bool.false_ne_true]

section Search

variable {content : Bytes} {builders : RouteKind → List String} {kinds : List RouteKind}
  {originals es : List ListElement} (foreign : ∀ e ∈ originals, IsForeign e)
  (sections : AreSections content builders kinds es)
include foreign sections

/-- For a kind that has no section there is no list of routes. -/
theorem AreSections.routesOf?_eq_none {kind : RouteKind} (unused : kind ∉ kinds) :
    ∀ e ∈ originals ++ es, routesOf? {} kind.describe.typeName e = none := by
  intro e he
  rcases List.mem_append.1 he with he | he
  · exact (foreign e he).routesOf?_eq_none kind
  · obtain ⟨other, used, isSection⟩ := exists_left_of_mem sections he
    refine isSection.routesOf?_eq_none ?_
    rintro rfl
    exact unused used

/-- The list of routes of a kind is the one in the first section of that kind. -/
theorem AreSections.findSome?_eq_some {kind : RouteKind} (unused : kind ∉ kinds)
    {e : ListElement} (back : List ListElement) {found : String × ListLiteral}
    (h : routesOf? {} kind.describe.typeName e = some found) :
    (originals ++ (es ++ e :: back)).findSome? (routesOf? {} kind.describe.typeName)
      = some found := by
  have none := sections.routesOf?_eq_none foreign unused
  rw [← List.append_assoc, List.findSome?_append, List.findSome?_eq_none_iff.2 none,
    Option.none_or, List.findSome?_cons, h]

end Search

/-- The section of a kind that was used, between those of other kinds. -/
theorem AreSections.exists_section {content : Bytes} {rs : List Registration}
    {es : List ListElement} (h : AreSections content (buildersOf rs) (kindsUsed rs) es)
    {kind : RouteKind} (used : kind ∈ kindsUsed rs) :
    ∃ earlier later front e back, kindsUsed rs = earlier ++ kind :: later ∧
      kind ∉ earlier ∧ kind ∉ later ∧ es = front ++ e :: back ∧
      AreSections content (buildersOf rs) earlier front ∧
      IsSection content kind (buildersOf rs kind) e ∧
      AreSections content (buildersOf rs) later back := by
  obtain ⟨earlier, later, kinds⟩ := List.append_of_mem used
  have nodup := nodup_kindsUsed rs
  rw [AreSections, kinds] at h
  rw [kinds, List.nodup_append, List.nodup_cons] at nodup
  obtain ⟨-, ⟨notLater, -⟩, apart⟩ := nodup
  obtain ⟨front, e, back, shape, before, isSection, behind⟩ := exists_append_of_forall₂ h
  have notEarlier : kind ∉ earlier := fun isEarlier =>
    apart kind isEarlier kind List.mem_cons_self rfl
  exact ⟨earlier, later, front, e, back, kinds, notEarlier, notLater, shape, before, isSection,
    behind⟩

end RouteGraft
