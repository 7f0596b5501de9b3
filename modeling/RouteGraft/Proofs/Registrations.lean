import RouteGraft.Proofs.MapperSections
import RouteGraft.Proofs.Routers

/-!
# Registering routes

Routes are registered in a mapper one after the other.  The first route of a kind
gets a section of its own behind the routers that are there, and every further one
of that kind goes to the end of the list in that section.  So what is found after
any run are the routers the mapper had, and one section for each kind that was used,
in the order of their first use, with the builders of its kind in the order of their
registration (`registerAll_sections`).

Nothing is asked of the reader of syntax trees but that it reads again what it read
before, where a complete expression is put in between siblings of a list
(`Rereads`).  What a new section is read as is then known
(`Expression.readsGroup_newSection`), and so is what becomes of the lists around it
(`Reads.append`, `Reads.graft`, `routers?_graft`).  A step is
`Registered.register`, and a run is its iteration.
-/

namespace RouteGraft

open Dart (Node Kind Field)
open Outline (Reads ReadsGroup Returns)

/-- The content with a route registered in it. -/
def Registration.register (r : Registration) (tree : Bytes → Node) (path : String)
    (content : Bytes) : Except InsertionError Bytes :=
  (insert (fun source => Outline.ofTree source (tree source)) {} path r.insertion content).2

/-- The content with some routes registered in it, one after the other. -/
def registerAll (tree : Bytes → Node) (path : String) (rs : List Registration)
    (content : Bytes) : Except InsertionError Bytes :=
  rs.foldlM (fun content r => r.register tree path content) content

/-! ## Faithful readers -/

/-- A reader that sees an edit for what it is: where an expression, with its commas, is
put in a room of a list, the tree read from the new content is the old one with the
nodes of the expression put in there. -/
def Rereads (tree : Bytes → Node) (content : Bytes) (edit : Edit) (x : Expression) : Prop :=
  ∀ list ∈ (tree content).nodes, list.kind = .construct .listLiteral →
    ∀ comma, list.Room comma edit.offset → edit.text = x.piece comma →
      ∀ after, edit.apply content = .ok after →
        tree after = (tree content).graft edit.offset (Utf8.size (x.piece comma))
          (x.placed comma edit.offset)

/-- A reader that rereads every edit on the way, when some routes are registered. -/
def Faithful (tree : Bytes → Node) (path : String) : List Registration → Bytes → Prop
  | [], _ => True
  | r :: rs, content =>
      ∀ o edit, Outline.ofTree content (tree content) = .ok o →
        r.insertion.plan {} path o = .ok edit →
          Rereads tree content edit r.builder ∧ Rereads tree content edit r.newSection ∧
            ∀ after, edit.apply content = .ok after → Faithful tree path rs after

/-- Whether a reader rereads an edit. -/
def isReread (tree : Bytes → Node) (content : Bytes) (edit : Edit) (x : Expression) : Bool :=
  match edit.apply content with
  | .error _ => true
  | .ok after =>
      [false, true].all fun comma =>
        decide (edit.text ≠ x.piece comma) || (tree after).same
          ((tree content).graft edit.offset (Utf8.size (x.piece comma))
            (x.placed comma edit.offset))

theorem rereads_of_isReread {tree : Bytes → Node} {content : Bytes} {edit : Edit} {x : Expression}
    (h : isReread tree content edit x = true) :
    Rereads tree content edit x := by
  intro list _ _ comma _ text after applied
  rw [isReread, applied] at h
  have known := List.all_eq_true.1 h comma (by cases comma <;> simp)
  rw [text] at known
  simp only [ne_eq, not_true_eq_false, decide_false, Bool.false_or] at known
  exact Node.eq_of_same known

/-- Whether a reader rereads every edit on the way. -/
def isFaithful (tree : Bytes → Node) (path : String) : List Registration → Bytes → Bool
  | [], _ => true
  | r :: rs, content =>
      match Outline.ofTree content (tree content) with
      | .error _ => true
      | .ok o =>
          match r.insertion.plan {} path o with
          | .error _ => true
          | .ok edit =>
              isReread tree content edit r.builder && isReread tree content edit r.newSection &&
                match edit.apply content with
                | .error _ => true
                | .ok after => isFaithful tree path rs after

theorem faithful_of_isFaithful {tree : Bytes → Node} {path : String} {rs : List Registration}
    {content : Bytes} (h : isFaithful tree path rs content = true) :
    Faithful tree path rs content := by
  induction rs generalizing content with
  | nil => trivial
  | cons r rs ih =>
      intro o edit read planned
      rw [isFaithful, read] at h
      dsimp only at h
      rw [planned] at h
      simp only [Bool.and_eq_true] at h
      refine ⟨rereads_of_isReread h.1.1, rereads_of_isReread h.1.2, fun after applied => ?_⟩
      have later := h.2
      rw [applied] at later
      exact ih later

/-! ## What is found in a mapper -/

/-- The routers of a content that some routes were registered in: the ones that were in
the first content, with the same texts, and then one section for each kind that was
used. -/
structure Registered (tree : Bytes → Node) (first : Bytes) (originals : List ListElement)
    (rs : List Registration) (content : Bytes) (o : Outline) (routers : ListLiteral)
    (sections : List ListElement) : Prop where
  sound : (tree content).Sound content.length
  outline : Outline.ofTree content (tree content) = .ok o
  returned : o.routers? {} = some routers
  elements : routers.elements = originals ++ sections
  originals : ∀ e ∈ originals, e.span.text content = e.span.text first
  sections : AreSections content (buildersOf rs) (kindsUsed rs) sections

/-! ## Edits at the end of a list -/

/-- What becomes of a tree when an expression is put at the end of a list: the list is
read with one element more, and what is around it has the same text. -/
structure Appended (tree : Bytes → Node) (content after : Bytes) (k : Int) (v : Node)
    (l : ListLiteral) (x : Expression) (e : ListElement) (d : Int) (new : List Node)
    (δ : Int) : Prop where
  tree_eq : tree after = (tree content).graft k d new
  spliced : Span.Spliced content after k d
  length : (after.length : Int) = content.length + d
  nonneg : 0 ≤ d
  same : Span.SameText (Utf8.encode x.text) after δ ⟨0, Utf8.size x.text⟩
  splits : v.span.Splits k
  nested : (v.graft k d new).Nested
  complete : (v.graft k d new).Complete
  read : Reads after (v.graft k d new) (l.grow d (ListElementOf.shift δ e))

/-- An edit that puts an expression at the end of a list succeeds, if the reader
rereads it. -/
theorem exists_appended {tree : Bytes → Node} {content : Bytes} {v : Node} {l : ListLiteral}
    {x : Expression} {e : ListElement} {fragment : String} {edit : Edit}
    (sound : (tree content).Sound content.length) (hv : v ∈ (tree content).nodes)
    (kind : v.kind = .construct .listLiteral) (read : Reads content v l)
    (element : ReadsGroup (Utf8.encode x.text) x.parts e) (complete : x.Complete)
    (piece : fragment = x.text ++ ",") (offset : edit.offset = (l.append fragment).1)
    (text : edit.text = (l.append fragment).2) (rereads : Rereads tree content edit x) :
    ∃ after d new δ, edit.apply content = .ok after ∧
      Appended tree content after edit.offset v l x e d new δ := by
  have vFull := sound.full.of_mem_nodes hv
  obtain ⟨front, opening, siblings, closing, bracketed⟩ := (sound.complete v hv).brackets kind
  obtain ⟨comma, inside, gap, place, shape⟩ :=
    Outline.exists_place vFull bracketed read fragment
  rw [← offset] at place
  rw [← text, piece, ← x.piece_eq comma] at shape
  have splits := place.splits bracketed vFull
  have inSource := vFull.inside
  unfold Span.Splits at splits
  unfold Span.Inside at inSource
  dsimp only at inSource
  obtain ⟨after, spliced⟩ : ∃ after,
      splice content edit.offset (Utf8.encode (x.piece comma)) = .ok after := by
    rw [splice, if_pos (by omega)]
    exact ⟨_, rfl⟩
  have applied : edit.apply content = .ok after := by rw [Edit.apply, shape, spliced]
  have length := length_of_splice spliced
  have size := Utf8.size_nonneg (x.piece comma)
  refine ⟨after, Utf8.size (x.piece comma), x.placed comma edit.offset,
    Expression.start comma edit.offset, applied, ?_⟩
  exact
    { tree_eq := rereads v hv kind comma place.room shape after applied
      spliced := Span.spliced_of_splice spliced
      length := by rw [length, Int.natCast_add, Utf8.size]
      nonneg := size
      same := x.sameText_of_splice spliced
      splits := splits
      nested := place.nested_graft bracketed vFull size Expression.nested_placed
        Expression.inside_placed Expression.ordered_placed
      complete := place.complete_graft bracketed vFull size (sound.complete.of_mem_nodes hv)
        complete.placed
      read := x.append spliced vFull bracketed place element read }

/-- The routers around the list are read with that change, and the tree is sound. -/
theorem Appended.routers? {tree : Bytes → Node} {content after : Bytes} {k d δ : Int} {v : Node}
    {l : ListLiteral} {x : Expression} {e : ListElement} {new : List Node}
    (appended : Appended tree content after k v l x e d new δ)
    (sound : (tree content).Sound content.length) {n body b list : Node}
    (returns : Returns (tree content) n body b list) (hv : v ∈ list.nodes)
    {o : Outline} {routers changed : ListLiteral} (was : Reads content list routers)
    (reread : Reads after (list.graft k d new) changed)
    (read : Outline.ofTree content (tree content) = .ok o)
    (h : o.routers? {} = some routers) :
    (tree after).Sound after.length ∧ ∃ o', Outline.ofTree after (tree after) = .ok o' ∧
      o'.routers? {} = some changed := by
  obtain ⟨-, listFull⟩ := returns.full sound.full
  have splits := appended.splits.of_inside (listFull.nested.of_mem_nodes v hv).2
  rw [appended.tree_eq]
  refine ⟨?_, Outline.routers?_graft returns sound.full splits appended.spliced was reread read h⟩
  exact returns.sound_graft sound appended.splits hv appended.spliced appended.length
    appended.nonneg appended.nested appended.complete

/-! ## Steps -/

section Step

variable {tree : Bytes → Node} {first content : Bytes} {originals : List ListElement}
  {rs : List Registration} {o : Outline} {routers : ListLiteral} {sections : List ListElement}
  {path : String} (state : Registered tree first originals rs content o routers sections)
  (foreign : ∀ e ∈ originals, IsForeign e)
include state

namespace Registered

theorem routers_wellNested :
    routers.WellNested ∧ routers.span.Inside ⟨0, content.length⟩ :=
  Outline.routers?_wellNested state.sound.toWellNested state.outline state.returned

/-- Elements in front of all sections keep their texts where they stay. -/
theorem originals_stay {after : Bytes}
    (same : ∀ e ∈ originals, Span.SameText content after 0 e.span) :
    ∀ e ∈ originals, e.span.text after = e.span.text first := by
  intro e he
  have isRouter : e ∈ routers.elements := by simp [state.elements, he]
  have wide := (state.routers_wellNested.1.nested.inside e isRouter).2.1
  rw [(same e he).text_stays wide, state.originals e he]

variable {r : Registration}
  (rereads : ∀ edit, r.insertion.plan {} path o = .ok edit →
    Rereads tree content edit r.builder ∧ Rereads tree content edit r.newSection)
include foreign rereads

/-- The first route of a kind gets a section of its own. -/
theorem register_unused (unused : r.kind ∉ kindsUsed rs) :
    ∃ edit after o' routers' sections', r.insertion.plan {} path o = .ok edit ∧
      edit.apply content = .ok after ∧
      Registered tree first originals (rs ++ [r]) after o' routers' sections' := by
  have none := List.findSome?_eq_none_iff.2 (state.sections.routesOf?_eq_none foreign unused)
  rw [← state.elements, ← r.names_description.1] at none
  obtain ⟨note, planned⟩ := Insertion.planMapperEntry_of_none
    (Fragment.mapperSection r.description r.name r.ui)
    (Fragment.mapperEntry r.description r.name r.ui) path state.returned none
  obtain ⟨n, body, b, list, returns, kind, read⟩ :=
    Outline.exists_routers state.sound state.outline state.returned
  obtain ⟨isNode, -⟩ := returns.full state.sound.full
  obtain ⟨builder, builderRead⟩ := r.builder.exists_reading r.between
  obtain ⟨after, d, new, δ, applied, appended⟩ := exists_appended state.sound isNode kind read
    (r.builder.readsGroup_newSection r.description.typeName r.description.baseClass builderRead)
    r.complete_newSection r.section_piece rfl rfl (rereads _ planned).2
  obtain ⟨sound, o', outline, returned⟩ := appended.routers? state.sound returns
    list.self_mem_nodes read appended.read state.outline state.returned
  obtain ⟨wellNested, inside⟩ := state.routers_wellNested
  have same := wellNested.nested.sameText_append inside appended.spliced
  have isRouter : ∀ e ∈ originals ++ sections, e ∈ routers.elements :=
    fun e he => state.elements ▸ he
  refine ⟨_, after, o', _, sections ++ [ListElementOf.shift δ (r.builder.newElement
    r.description.typeName r.description.baseClass builder)], planned, applied, sound, outline,
    returned, ?_, ?_, ?_⟩
  · rw [ListLiteral.grow, state.elements, List.append_assoc]
  · exact state.originals_stay fun e he => same e (isRouter e (List.mem_append_left _ he))
  · exact state.sections.concat_unused unused wellNested
      (fun e he => isRouter e (List.mem_append_right _ he))
      (fun e he => same e (isRouter e (List.mem_append_right _ he)))
      (isSection_newSection builderRead appended.same)

/-- A further route of a kind goes to the end of the list in its section. -/
theorem register_used (used : r.kind ∈ kindsUsed rs) :
    ∃ edit after o' routers' sections', r.insertion.plan {} path o = .ok edit ∧
      edit.apply content = .ok after ∧
      Registered tree first originals (rs ++ [r]) after o' routers' sections' := by
  obtain ⟨earlier, later, front, e, back, kinds, notEarlier, notLater, shape, before, isSection,
    behind⟩ := state.sections.exists_section used
  obtain ⟨span, routes, arguments, texts, isFound⟩ := isSection.routesOf?_eq_some
  have found := before.findSome?_eq_some foreign notEarlier back isFound
  have elements : routers.elements = (originals ++ front) ++ e :: back := by
    rw [state.elements, shape, List.append_assoc]
  rw [← List.append_assoc, ← elements, ← r.names_description.1] at found
  obtain ⟨note, planned⟩ := Insertion.planMapperEntry_of_routes
    (Fragment.mapperSection r.description r.name r.ui)
    (Fragment.mapperEntry r.description r.name r.ui) path state.returned found
  obtain ⟨n, body, b, list, returns, kind, read⟩ :=
    Outline.exists_routers state.sound state.outline state.returned
  obtain ⟨isNode, listFull⟩ := returns.full state.sound.full
  have he : e ∈ routers.elements := elements ▸ List.mem_append_right _ List.mem_cons_self
  have ha : (⟨"routes", span, some routes⟩ : NamedArgument) ∈ e.namedArguments :=
    arguments ▸ List.mem_singleton_self _
  obtain ⟨call, callArguments, argument, v, hcall, hv, holds, vRead⟩ :=
    Outline.exists_routes listFull read he ha rfl
  obtain ⟨builder, element⟩ := r.builder.exists_reading r.between
  obtain ⟨after, d, new, δ, applied, appended⟩ := exists_appended state.sound
    (Node.mem_nodes_trans hv isNode) holds.list vRead element r.complete r.entry_piece rfl rfl
    (rereads _ planned).1
  obtain ⟨sound, o', outline, returned⟩ := appended.routers? state.sound returns hv read
    (Reads.graft appended.spliced listFull hcall holds appended.splits appended.read read)
    state.outline state.returned
  obtain ⟨wellNested, inside⟩ := state.routers_wellNested
  have splits := appended.splits
  rw [← Outline.listLiteralTo_span (vRead _ (Nat.le_refl _))] at splits
  obtain ⟨stay, move⟩ :=
    wellNested.sameText_around inside elements arguments splits appended.spliced
  have others : ∀ x ∈ front ++ back, x ∈ routers.elements := by
    intro x hx
    rcases List.mem_append.1 hx with hx | hx <;> simp [elements, hx]
  have builders := wellNested.inner_texts inside he ha rfl appended.spliced
  have newBuilder : (ListElementOf.shift δ builder).span.text after = .ok r.builder.text := by
    have same := appended.same.text ⟨Int.le_refl _, Utf8.size_nonneg _, Int.le_refl _⟩
    rwa [Span.text_encode, ← r.builder.span_of_readsGroup element,
      ← ListElementOf.span_shift] at same
  refine ⟨_, after, o', _, front ++ ListElementOf.grow d "routes" span
    (routes.grow d (ListElementOf.shift δ builder)) e :: back.map (ListElementOf.shift d), planned,
    applied, sound, outline, returned, ?_, ?_, ?_⟩
  · rw [← List.append_assoc]
    exact wellNested.map_stretch elements arguments splits d _
  · exact state.originals_stay fun x hx => stay x (List.mem_append_left _ hx)
  · exact AreSections.concat_used kinds notEarlier notLater before behind wellNested
      others (fun x hx => stay x (List.mem_append_right _ hx)) move
      (isSection.grow d span texts builders newBuilder)

end Registered

end Step

/-! ## Runs -/

section Run

variable {tree : Bytes → Node} {first content : Bytes} {originals : List ListElement}
  {rs : List Registration} {o : Outline} {routers : ListLiteral} {sections : List ListElement}
  {path : String}

/-- The routes of one more registration are found behind the ones before. -/
theorem Registered.register {r : Registration}
    (state : Registered tree first originals rs content o routers sections)
    (foreign : ∀ e ∈ originals, IsForeign e)
    (rereads : ∀ edit, r.insertion.plan {} path o = .ok edit →
      Rereads tree content edit r.builder ∧ Rereads tree content edit r.newSection) :
    ∃ edit after o' routers' sections', r.insertion.plan {} path o = .ok edit ∧
      edit.apply content = .ok after ∧ r.register tree path content = .ok after ∧
      Registered tree first originals (rs ++ [r]) after o' routers' sections' := by
  obtain ⟨edit, after, o', routers', sections', planned, applied, state'⟩ :
      ∃ edit after o' routers' sections', r.insertion.plan {} path o = .ok edit ∧
        edit.apply content = .ok after ∧
        Registered tree first originals (rs ++ [r]) after o' routers' sections' := by
    by_cases used : r.kind ∈ kindsUsed rs
    · exact state.register_used foreign rereads used
    · exact state.register_unused foreign rereads used
  have done : r.register tree path content = .ok after :=
    insert_eq_ok.2 ⟨o, edit, state.outline, planned, applied⟩
  exact ⟨edit, after, o', routers', sections', planned, applied, done, state'⟩

/-- Whatever was registered before, more routes can be registered. -/
theorem Registered.registerAll {more : List Registration}
    (state : Registered tree first originals rs content o routers sections)
    (foreign : ∀ e ∈ originals, IsForeign e) (faithful : Faithful tree path more content) :
    ∃ last o' routers' sections', registerAll tree path more content = .ok last ∧
      Registered tree first originals (rs ++ more) last o' routers' sections' := by
  induction more generalizing rs content o routers sections with
  | nil => exact ⟨content, o, routers, sections, rfl, by rwa [List.append_nil]⟩
  | cons r more ih =>
      obtain ⟨edit, after, o', routers', sections', planned, applied, done, state'⟩ :=
        state.register foreign fun edit planned =>
          ⟨(faithful o edit state.outline planned).1, (faithful o edit state.outline planned).2.1⟩
      obtain ⟨last, o'', routers'', sections'', run, state''⟩ :=
        ih state' ((faithful o edit state.outline planned).2.2 after applied)
      rw [List.append_assoc, List.singleton_append] at state''
      refine ⟨last, o'', routers'', sections'', ?_, state''⟩
      rw [RouteGraft.registerAll, List.foldlM_cons, done]
      exact run

end Run

/-- The builder of a page. -/
def pageBuilder : Expression where
  text := "MadRouteBuilder<PageX>((_) => Y())"
  nodes := [Node.pageBuilder]
  nested := by
    intro n hn
    rw [List.mem_singleton.1 hn]
    exact Node.nested_of_isNested (by decide)
  ordered := List.pairwise_singleton _ _
  inside := by decide +kernel
  noComma := by decide
  whole := ⟨_, [], rfl, rfl, by decide +kernel⟩

/-- A page, to be registered. -/
def pageRegistration : Registration where
  kind := .page
  generic := none
  name := "X"
  ui := some "Y()"
  builder := pageBuilder
  entry_eq := by decide
  complete := by
    intro n hn
    rw [List.mem_singleton.1 hn]
    exact Node.complete_of_isComplete (by decide)
  between := by
    unfold BetweenCharacters Utf8.IsBoundary
    decide +kernel

/-- The tree of a mapper without sections. -/
def foreignTree : Node :=
  Node.mapperTree (Node.bracketed 44 49 44 []
    [Node.plainName 45 46, Node.callArguments 46 48 []])

/-- A reader of that mapper, before and after the page is registered in it, and when it
is registered once more. -/
def pageReader (content : Bytes) : Node :=
  let once := foreignTree.graft 48 (Utf8.size (pageRegistration.newSection.piece true))
    (pageRegistration.newSection.placed true 48)
  let twice := once.graft 163 (Utf8.size (pageBuilder.piece false)) (pageBuilder.placed false 163)
  if content.length = 51 then foreignTree else if content.length = 175 then once else twice

end RouteGraft
