import RouteGraft.Proofs.Declarations
import RouteGraft.Proofs.Tokens
import RouteGraft.Proofs.Undecodable

/-!
# Anchors and comments

An anchor is found by a text in the type that a class extends, as the type is written.  So it
should not matter what comments there are in a source.  It does: a type is written from its
first node to its last one, and with the comments in between.

In two sources whose trees coincide but for comments, the types that classes extend are written
in the same way, if the comments are taken out of them (`Outline.rel_writtenSpan?`).  A text is
then found in a type of one source and not in that of the other one only if there is a comment
in one of them.  So the anchors stand at the same index, or there is such a class
(`Outline.anchors_apart_by_comments`).

A comment behind the name of a type and in front of its arguments does make a class an anchor
(`Outline.comment_makesAnchor`).
-/

namespace RouteGraft

open Dart (Node Kind Field)

/-! ## Rows of entries that pass a test -/

section

variable {α : Type} {p : α → Bool}

/-- The entries from the first one that passes a test to the last one. -/
theorem exists_row_of_filter {xs rest : List α} {x : α} (h : xs.filter p = x :: rest) :
    ∃ front row back, xs = front ++ (row ++ back) ∧ row.head? = some x ∧
      row.getLast? = some (rest.getLastD x) ∧ front.filter p = [] ∧ back.filter p = [] := by
  obtain ⟨front, behind, rfl, skipped, -, later⟩ := List.filter_eq_cons_iff.1 h
  have skipped : front.filter p = [] := List.filter_eq_nil_iff.2 skipped
  rcases List.eq_nil_or_concat rest with rfl | ⟨init, last, rfl⟩
  · exact ⟨front, [x], behind, rfl, rfl, rfl, skipped, later⟩
  · rw [List.concat_eq_append, List.filter_eq_append_iff] at later
    obtain ⟨inner, tail, rfl, -, later⟩ := later
    obtain ⟨skip, back, rfl, -, -, none⟩ := List.filter_eq_cons_iff.1 later
    refine ⟨front, x :: (inner ++ skip ++ [last]), back, by simp, rfl, ?_, skipped, none⟩
    simp [List.getLast?_cons, List.getLastD_eq_getLast?]

/-- A row that starts and ends with entries that pass a test. -/
theorem filter_row {row : List α} {x z : α} (head : row.head? = some x)
    (final : row.getLast? = some z) (first : p x = true) (last : p z = true) :
    ∃ rest, row.filter p = x :: rest ∧ rest.getLastD x = z := by
  obtain ⟨later, rfl⟩ := List.head?_eq_some_iff.1 head
  obtain ⟨init, shape⟩ := List.getLast?_eq_some_iff.1 final
  have kept : (x :: later).filter p = x :: later.filter p := by rw [List.filter_cons, if_pos first]
  have ends : ((x :: later).filter p).getLast? = some z := by
    rw [shape, List.filter_append, List.filter_cons, if_pos last, List.filter_nil,
      List.getLast?_append, List.getLast?_singleton, Option.some_or]
  rw [kept, List.getLast?_cons, ← List.getLastD_eq_getLast?] at ends
  exact ⟨_, kept, Option.some.inj ends⟩

end

namespace Dart.Node

/-- A nested tree in which comments fill no field and all nodes are tight, but for the root,
at whose ends there may be blanks. -/
structure Regular (root : Node) : Prop where
  nested : root.Nested
  fieldless : ∀ m ∈ root.nodes, m.isComment = true → m.field = none
  tight : ∀ c ∈ root.children, ∀ m ∈ c.nodes, m.Tight

/-- In matched rows the nodes from the first one that passes a test to the last one are matched,
if nodes that are alike pass it together. -/
theorem Matched.exists_ends {source other : Bytes} {root root' first : Node}
    {ns ns' rest : List Node} {p : Node → Bool} (h : Matched source other root root' ns ns')
    (same : ∀ c c', Alike source other c c' → p c' = p c) (passing : ns.filter p = first :: rest) :
    ∃ row row' first' rest', Matched source other root root' row row' ∧
      row ⊆ ns ∧ row.head? = some first ∧ row.getLast? = some (rest.getLastD first) ∧
      row' ⊆ ns' ∧ row'.head? = some first' ∧ row'.getLast? = some (rest'.getLastD first') ∧
      ns'.filter p = first' :: rest' := by
  have passes (c : Node) (hc : c ∈ first :: rest) : p c = true := List.of_mem_filter (passing ▸ hc)
  obtain ⟨front, row, back, rfl, head, final, skipped, behind⟩ := exists_row_of_filter passing
  obtain ⟨front', _, rfl, fronts, later⟩ := h.split
  obtain ⟨row', back', rfl, rows, backs⟩ := later.split
  obtain ⟨first', head', heads⟩ := exists_head? rows.alike head
  obtain ⟨last', final', finals⟩ := exists_getLast? rows.alike final
  obtain ⟨rest', kept, rfl⟩ := filter_row head' final'
    ((same _ _ heads).trans (passes _ List.mem_cons_self))
    ((same _ _ finals).trans (passes _ List.getLastD_mem_cons))
  have skipped' := forall₂_filter fronts.alike same
  have behind' := forall₂_filter backs.alike same
  rw [skipped, List.forall₂_nil_left_iff] at skipped'
  rw [behind, List.forall₂_nil_left_iff] at behind'
  refine ⟨row, row', first', rest', rows, fun c hc => by simp [hc], head, final,
    fun c hc => by simp [hc], head', final', ?_⟩
  rw [List.filter_append, List.filter_append, skipped', behind', kept, List.nil_append,
    List.append_nil]

end Dart.Node

namespace Outline

variable {source other : Bytes} {root root' n n' : Node}

/-! ## Types as they are written -/

/-- Whether a node is a part of the type that a clause names, or else a comment. -/
def isTypePart (c : Node) : Bool := c.named && decide (c.kind ≠ .construct .mixins)

theorem typeParts_eq (clause : Node) :
    clause.parts.filter (·.kind ≠ .construct .mixins) = clause.content.filter isTypePart := by
  rw [Node.parts_eq_content, List.filter_filter]
  exact List.filter_congr fun c _ => Bool.and_comm _ _

theorem typeSpan?_of_nil {clause : Node} (parts : clause.content.filter isTypePart = []) :
    typeSpan? clause = none := by
  unfold typeSpan?
  simp only [typeParts_eq, parts]

/-- The type that a clause names goes from its first part to its last one. -/
theorem typeSpan?_of_cons {clause first : Node} {rest : List Node}
    (parts : clause.content.filter isTypePart = first :: rest) :
    typeSpan? clause = some (first.span.through (rest.getLastD first).span) := by
  unfold typeSpan?
  simp only [typeParts_eq, parts]

/-- The type that a class extends, as it is written. -/
def writtenSpan? (n : Node) : Option Span :=
  (n.child? (· = .construct .superclass)).bind typeSpan?

/-- No comment of a tree stands in the type that a class in it extends. -/
def PlainType (root n : Node) : Prop := ∀ s ∈ writtenSpan? n, ∀ hole ∈ root.comments, hole.Apart s

instance : DecidableRel PlainType := fun root n =>
  inferInstanceAs (Decidable (∀ s ∈ writtenSpan? n, ∀ hole ∈ root.comments, hole.Apart s))

section

variable (coincide : Node.Coincide source other root root') (nested : root.Nested)
  (nested' : root'.Nested) (matched : Node.Matched source other root root' [n] [n'])
  (tight : ∀ m ∈ n.nodes, m.Tight) (tight' : ∀ m ∈ n'.nodes, m.Tight)
include coincide nested nested' matched tight tight'

/-- Two clauses name types that say the same, without comments, or both name none. -/
theorem rel_typeSpan? :
    Option.Rel (fun s s' => s.bytesOutside root.comments source
        = s'.bytesOutside root'.comments other)
      (typeSpan? n) (typeSpan? n') := by
  have kinds (c c' : Node) (alike : Node.Alike source other c c') :
      isTypePart c' = isTypePart c := by
    rw [isTypePart, isTypePart, alike.kind, alike.named]
  cases parts : n.content.filter isTypePart with
  | nil =>
      have parts' := forall₂_filter matched.content.alike kinds
      rw [parts, List.forall₂_nil_left_iff] at parts'
      rw [typeSpan?_of_nil parts, typeSpan?_of_nil parts']
      exact .none
  | cons first rest =>
      obtain ⟨row, row', first', rest', rows, kept, head, final, kept', head', final', parts'⟩ :=
        matched.content.exists_ends kinds parts
      have below {n : Node} (tight : ∀ m ∈ n.nodes, m.Tight) (c : Node) (hc : c ∈ n.content) :
          ∀ m ∈ c.nodes, m.Tight := fun m hm =>
        tight m (Node.mem_nodes_of_mem_children (List.mem_of_mem_filter hc) hm)
      rw [typeSpan?_of_cons parts, typeSpan?_of_cons parts']
      exact .some (rows.bytesOutside_through coincide nested nested'
        (fun c hc => below tight c (kept hc)) (fun c hc => below tight' c (kept' hc))
        head final head' final')

/-- Two classes extend types that say the same, without comments, or both extend none. -/
theorem rel_writtenSpan? :
    Option.Rel (fun s s' => s.bytesOutside root.comments source
        = s'.bytesOutside root'.comments other)
      (writtenSpan? n) (writtenSpan? n') := by
  have clauses : Option.Rel (fun c c' => Node.Matched source other root root' [c] [c'])
      (n.child? (· = .construct .superclass)) (n'.child? (· = .construct .superclass)) := by
    rw [Node.child?_eq Kind.isRule_of_construct, Node.child?_eq Kind.isRule_of_construct]
    refine rel_find? matched.content.each fun c c' matched => ?_
    rw [(List.forall₂_cons.1 matched.alike).1.kind]
  refine rel_bind clauses fun c hc c' hc' matched => ?_
  refine rel_typeSpan? coincide nested nested' matched (fun m hm => ?_) fun m hm => ?_
  · exact tight m (Node.mem_nodes_of_mem_children (Node.child?_eq_some hc).1 hm)
  · exact tight' m (Node.mem_nodes_of_mem_children (Node.child?_eq_some hc').1 hm)

/-- Types without comments are written in the same way. -/
theorem rel_plainType (plain : PlainType root n) (plain' : PlainType root' n') :
    Option.Rel (fun s s' => s.text source = s'.text other) (writtenSpan? n) (writtenSpan? n') := by
  have spans := rel_writtenSpan? coincide nested nested' matched tight tight'
  unfold PlainType at plain plain'
  generalize writtenSpan? n = o at spans plain
  generalize writtenSpan? n' = o' at spans plain'
  cases spans with
  | none => exact .none
  | some same =>
      rw [Span.bytesOutside_of_apart (plain _ rfl), Span.bytesOutside_of_apart (plain' _ rfl)]
        at same
      exact .some (by rw [Span.text, Span.text, same])

end

/-- A class extends the type that is written in its source, if it is one. -/
theorem rel_superclass {c : ClassOutline} (read : classOutline? source n = .ok (some c)) :
    Option.Rel (fun s w => s.text source = .ok w) (writtenSpan? n) c.superclass := by
  obtain ⟨-, -, extended, -, -, read, -, -, -, -, written, -⟩ := classOutline?_eq_some.1 read
  rw [written]
  unfold writtenSpan?
  unfold classExtends at read
  cases found : n.child? (· = .construct .superclass) with
  | none =>
      rw [found] at read
      cases read
      exact .none
  | some clause =>
      rw [found] at read
      rw [Option.bind_some]
      dsimp only at read
      unfold extendedType at read
      rw [typeParts_eq] at read
      cases parts : clause.content.filter isTypePart with
      | nil =>
          rw [parts] at read
          cases read
          rw [typeSpan?_of_nil parts]
          exact .none
      | cons first rest =>
          rw [parts] at read
          rw [typeSpan?_of_cons parts]
          obtain ⟨w, decoded, read⟩ := bind_eq_ok.1 read
          split at read
          · obtain ⟨name, -, read⟩ := bind_eq_ok.1 read
            cases read
            exact .some decoded
          · cases read
            exact .some decoded

/-- Two outlines of classes agree in what is extended if it is written in the same way. -/
theorem superclass_eq {c c' : ClassOutline}
    (same : Option.Rel (fun s s' => s.text source = s'.text other) (writtenSpan? n)
      (writtenSpan? n'))
    (read : classOutline? source n = .ok (some c))
    (read' : classOutline? other n' = .ok (some c')) : c.superclass = c'.superclass := by
  have written := rel_superclass read
  have written' := rel_superclass read'
  generalize writtenSpan? n = o at same written
  generalize writtenSpan? n' = o' at same written'
  generalize c.superclass = w at written ⊢
  generalize c'.superclass = w' at written' ⊢
  cases same with
  | none =>
      cases written
      cases written'
      rfl
  | some texts =>
      cases written with
      | some decoded =>
          cases written' with
          | some decoded' =>
              rw [decoded, decoded'] at texts
              exact congrArg some (Except.ok.inj texts)

/-! ## The classes of an outline -/

/-- The nodes of a tree that are classes in its outline, in order. -/
def classNodes (root : Node) : List Node :=
  (root.children.filter fun n => n.named && isClass n.kind).filter fun n =>
    (classBody? n).isSome && (className? n).isSome

theorem classOutline?_isSome {o : Option ClassOutline} (read : classOutline? source n = .ok o) :
    ((classBody? n).isSome && (className? n).isSome) = o.isSome := by
  unfold classOutline? at read
  split at read
  · next body name isBody isName =>
      simp only [bind_eq_ok] at read
      obtain ⟨-, -, -, -, -, -, -, -, ⟨⟩⟩ := read
      rw [isBody, isName]
      rfl
  · next missing =>
      cases read
      cases isBody : classBody? n with
      | none => rfl
      | some body =>
          cases isName : className? n with
          | none => rfl
          | some name => exact absurd isName (missing body name isBody)

/-- The classes of an outline are read from these nodes, one by one. -/
theorem classNodes_classes {o : Outline} (h : ofTree source root = .ok o) :
    List.Forall₂ (fun n c => classOutline? source n = .ok (some c)) (classNodes root)
      o.classes := by
  obtain ⟨cs, some_, rfl⟩ := map_eq_ok.1 h
  obtain ⟨os, each, rfl⟩ := map_eq_ok.1 some_
  rw [mapM_eq_ok] at each
  clear h some_
  unfold classNodes
  generalize root.children.filter _ = ns at each
  induction each with
  | nil => exact .nil
  | @cons n o ns os first _ ih =>
      rw [List.filter_cons, classOutline?_isSome first]
      cases o with
      | none => exact ih
      | some c => exact .cons first ih

/-- What fills a field, or is of a kind of named nodes, is there in both of two nodes that are
alike, or in neither. -/
theorem isSome_fieldOrChild? {f : Field} {wanted : Kind → Bool}
    (alike : Node.Alike source other n n')
    (fieldless : ∀ c ∈ n.children, c.isComment = true → c.field = none)
    (fieldless' : ∀ c ∈ n'.children, c.isComment = true → c.field = none)
    (rule : ∀ k, wanted k = true → k.isRule = true) :
    (n.fieldOrChild? f wanted).isSome = (n'.fieldOrChild? f wanted).isSome := by
  have fields := rel_find? (p := (·.field = some f)) (q := (·.field = some f)) alike.content
    fun c c' alike => by rw [alike.field]
  have kinds := rel_find? (p := (wanted ·.kind)) (q := (wanted ·.kind)) alike.content
    fun c c' alike => by rw [alike.kind]
  rw [← Node.find?_field fieldless, ← Node.find?_field fieldless'] at fields
  rw [← Node.child?_eq rule, ← Node.child?_eq rule] at kinds
  unfold Node.fieldOrChild?
  generalize n.children.find? (·.field = some f) = o at fields
  generalize n'.children.find? (·.field = some f) = o' at fields
  cases fields with
  | some => rfl
  | none =>
      generalize n.child? wanted = o at kinds
      generalize n'.child? wanted = o' at kinds
      cases kinds <;> rfl

/-- The classes of two trees that coincide are matched, one by one. -/
theorem matched_classNodes (coincide : Node.Coincide source other root root')
    (regular : root.Regular) (regular' : root'.Regular) :
    List.Forall₂ (fun n n' => Node.Matched source other root root' [n] [n'] ∧
      n ∈ root.children ∧ n' ∈ root'.children) (classNodes root) (classNodes root') := by
  have kept (m : Node) : (m.children.filter fun n => n.named && isClass n.kind)
      = m.content.filter fun n => n.named && isClass n.kind := by
    rw [Node.content, List.filter_filter]
    refine List.filter_congr fun c _ => ?_
    cases comment : c.isComment with
    | false => simp
    | true => simp [isClass_of_isComment comment]
  have below (m : Node) (regular : m.Regular) (n : Node) (hn : n ∈ m.children) :
      ∀ c ∈ n.children, c.isComment = true → c.field = none := fun c hc =>
    regular.fieldless c (Node.mem_nodes_of_mem_children hn (Node.child_mem_nodes hc))
  have content := (Node.Matched.of_alike coincide.alike).content.each
  have each : List.Forall₂ (fun n n' => Node.Matched source other root root' [n] [n'] ∧
      n ∈ root.children ∧ n' ∈ root'.children) root.content root'.content :=
    forall₂_imp_of_mem content fun n hn n' hn' matched =>
      ⟨matched, List.mem_of_mem_filter hn, List.mem_of_mem_filter hn'⟩
  unfold classNodes
  rw [kept, kept]
  refine forall₂_filter (forall₂_filter each fun n n' related => ?_) fun n n' related => ?_
  · have alike := (List.forall₂_cons.1 related.1.alike).1
    rw [alike.kind, alike.named]
  · obtain ⟨matched, hn, hn'⟩ := related
    have alike := (List.forall₂_cons.1 matched.alike).1
    have bodies := isSome_fieldOrChild? (f := .body) alike (below root regular n hn)
      (below root' regular' n' hn') (Kind.isRule_of_construct (c := .classBody))
    have names := isSome_fieldOrChild? (f := .name) alike (below root regular n hn)
      (below root' regular' n' hn') Kind.isRule_of_isIdentifier
    unfold classBody? className?
    rw [bodies, names]

/-! ## Anchors at an index -/

/-- The last class that passes a test is the one at an index. -/
def AnchorAt (o : Outline) (test : ClassTest) (i : Nat) : Prop :=
  (o.classes.map test)[i]? = some true ∧ ∀ b ∈ (o.classes.map test).drop (i + 1), b = false

instance (o : Outline) (test : ClassTest) : DecidablePred (o.AnchorAt test) := fun _ =>
  inferInstanceAs (Decidable (_ ∧ _))

/-- The anchor for a test is the class at that index. -/
theorem anchor?_eq_some_iff_anchorAt {o : Outline} {test : ClassTest} {c : ClassOutline} :
    o.anchor? test = some c ↔ ∃ i, o.AnchorAt test i ∧ o.classes[i]? = some c := by
  rw [anchor?_eq_some]
  constructor
  · rintro ⟨front, back, shape, passes, none⟩
    have behind : o.classes.drop (front.length + 1) = back := by
      rw [shape, List.append_cons, List.drop_left' (by simp)]
    refine ⟨front.length, ⟨by simp [shape, passes], ?_⟩, by simp [shape]⟩
    rw [← List.map_drop, behind]
    simpa using none
  · rintro ⟨i, ⟨passes, none⟩, found⟩
    obtain ⟨small, here⟩ := List.getElem?_eq_some_iff.1 found
    refine ⟨o.classes.take i, o.classes.drop (i + 1), ?_, ?_, fun c' hc' => none _ ?_⟩
    · rw [← here, List.getElem_cons_drop, List.take_append_drop]
    · simpa [found] using passes
    · rw [← List.map_drop]
      exact List.mem_map_of_mem hc'

/-- There is no anchor just if there is no such index. -/
theorem anchor?_eq_none_iff_anchorAt {o : Outline} {test : ClassTest} :
    o.anchor? test = none ↔ ∀ i, ¬ o.AnchorAt test i := by
  rw [Option.eq_none_iff_forall_ne_some]
  simp only [ne_eq, anchor?_eq_some_iff_anchorAt]
  constructor
  · rintro missing i ⟨passes, none⟩
    rw [List.getElem?_map, Option.map_eq_some_iff] at passes
    obtain ⟨c, found, passes⟩ := passes
    refine missing c ⟨i, ⟨?_, none⟩, found⟩
    rw [List.getElem?_map, found, Option.map_some, passes]
  · rintro missing c ⟨i, anchor, -⟩
    exact missing i anchor

/-- A route is refused for want of a class just if no class passes the test. -/
theorem planRouteClass_eq_error {o : Outline} {fragment baseClass path : String} :
    Insertion.planRouteClass fragment baseClass path o = .error .route ↔
      ∀ i, ¬ o.AnchorAt (.extendsText baseClass) i := by
  rw [← anchor?_eq_none_iff_anchorAt, Insertion.planRouteClass]
  cases o.anchor? (.extendsText baseClass) <;> simp

/-- An entry is refused for want of a mapper just if no class passes the test. -/
theorem planMapperEntry_eq_error {o : Outline} {names : Names}
    {addition entry typeName path : String} :
    Insertion.planMapperEntry names addition entry typeName path o = .error .mapper ↔
      ∀ i, ¬ o.AnchorAt (.extendsText names.routeMapperName) i := by
  rw [← anchor?_eq_none_iff_anchorAt, Insertion.planMapperEntry]
  cases o.anchor? (.extendsText names.routeMapperName) with
  | none => simp
  | some c =>
      dsimp only
      split
      · simp
      · split <;> simp

/-! ## Outlines of trees that coincide -/

/-- At some index there are classes of two outlines, one of them with a comment in the type that
it extends, and a text is found in the type of one and not in that of the other. -/
def CommentDecides (root root' : Node) (o o' : Outline) (text : String) : Prop :=
  ∃ (i : Nat) (n n' : Node) (c c' : ClassOutline),
    (classNodes root)[i]? = some n ∧ (classNodes root')[i]? = some n' ∧
      o.classes[i]? = some c ∧ o'.classes[i]? = some c' ∧
        ¬ (PlainType root n ∧ PlainType root' n') ∧
          ClassTest.extendsText text c ≠ ClassTest.extendsText text c'

/-- A source in which all names can be decoded. -/
def NamesWritten (source : Bytes) (root : Node) : Prop :=
  ∀ m ∈ root.nodes, m.kind.isIdentifier = true ∨ m.field = some .name →
    ∃ name, m.span.text source = .ok name

/-- The types that the classes of a tree extend, in order. -/
def writtenSpans (root : Node) : List (Option Span) := (classNodes root).map writtenSpan?

theorem extendsWritten_iff :
    ExtendsWritten source root ↔
      ∀ s, some s ∈ writtenSpans root → ∃ written, s.text source = .ok written := by
  unfold ExtendsWritten IsWritten writtenSpans classNodes writtenSpan?
  constructor
  · intro written s hs
    obtain ⟨n, hn, found⟩ := List.mem_map.1 hs
    obtain ⟨isClass, declares⟩ := List.mem_filter.1 hn
    rw [Bool.and_eq_true] at declares
    obtain ⟨clause, isClause, place⟩ := Option.bind_eq_some_iff.1 found
    exact written n isClass declares.1 declares.2 clause s isClause place
  · intro written n hn hasBody hasName clause s found place
    refine written s (List.mem_map.2 ⟨n, List.mem_filter.2 ⟨hn, ?_⟩, ?_⟩)
    · rw [hasBody, hasName]
      rfl
    · rw [found, Option.bind_some, place]

/-- If the names can be decoded there is an outline just if the extended types can be. -/
theorem exists_outline_iff (names : NamesWritten source root) :
    (∃ o, ofTree source root = .ok o) ↔ ExtendsWritten source root := by
  have fails : FailsOnly (ExtendsFails source root) (ofTree source root) := by
    refine failsOnly_ofTree (fun m hm isName e failed => ?_) fun e => id
    obtain ⟨name, decoded⟩ := names m hm isName
    cases failed.symm.trans decoded
  refine ⟨fun ⟨o, read⟩ => extendsWritten_of_ok read, fun written => ?_⟩
  cases read : ofTree source root with
  | ok o => exact ⟨o, rfl⟩
  | error e => exact absurd written (not_extendsWritten_iff.2 ⟨e, fails e read⟩)

section

variable (coincide : Node.Coincide source other root root') (regular : root.Regular)
  (regular' : root'.Regular)
include coincide regular regular'

/-- Where no comment stands in an extended type, in both trees, the types are the same. -/
theorem forall₂_writtenSpans (plain : ∀ n ∈ classNodes root, PlainType root n)
    (plain' : ∀ n ∈ classNodes root', PlainType root' n) :
    List.Forall₂ (Option.Rel fun s s' => s.text source = s'.text other) (writtenSpans root)
      (writtenSpans root') := by
  have matched := matched_classNodes coincide regular regular'
  refine forall₂_map_of_mem matched fun n hn n' hn' ⟨matched, isChild, isChild'⟩ => ?_
  exact rel_plainType coincide regular.nested regular'.nested matched
    (regular.tight n isChild) (regular'.tight n' isChild') (plain n hn) (plain' n' hn')

/-- If neither of two classes at an index extends a type with a comment in it, both extend the
same type, as it is written. -/
theorem superclass_eq_at {o o' : Outline} (read : ofTree source root = .ok o)
    (read' : ofTree other root' = .ok o') {i : Nat} {c c' : ClassOutline}
    (found : o.classes[i]? = some c) (found' : o'.classes[i]? = some c') :
    ∃ n n', (classNodes root)[i]? = some n ∧ (classNodes root')[i]? = some n' ∧
      (PlainType root n → PlainType root' n' → c.superclass = c'.superclass) := by
  have matched := matched_classNodes coincide regular regular'
  obtain ⟨n', isNode', read'⟩ := exists_getElem?_of_forall₂ (classNodes_classes read') found'
  obtain ⟨n, isNode, matched, isChild, isChild'⟩ := exists_getElem?_of_forall₂ matched isNode'
  obtain ⟨m, isNode_, read⟩ := exists_getElem?_of_forall₂ (classNodes_classes read) found
  cases isNode.symm.trans isNode_
  refine ⟨n, n', isNode, isNode', fun plain plain' => superclass_eq ?_ read read'⟩
  exact rel_plainType coincide regular.nested regular'.nested matched
    (regular.tight n isChild) (regular'.tight n' isChild') plain plain'

/-- The anchors for a text stand at the same index, or a comment in an extended type makes the
difference. -/
theorem anchorAt_or_commentDecides {o o' : Outline} (read : ofTree source root = .ok o)
    (read' : ofTree other root' = .ok o') (text : String) :
    (∀ i, o.AnchorAt (.extendsText text) i ↔ o'.AnchorAt (.extendsText text) i) ∨
      CommentDecides root root' o o' text := by
  by_cases same :
      o.classes.map (ClassTest.extendsText text) = o'.classes.map (ClassTest.extendsText text)
  · left
    intro i
    rw [AnchorAt, AnchorAt, same]
  · right
    have lengths : o.classes.length = o'.classes.length := by
      rw [← (classNodes_classes read).length_eq, ← (classNodes_classes read').length_eq,
        (matched_classNodes coincide regular regular').length_eq]
    by_contra alone
    refine same (List.ext_getElem (by simp [lengths]) fun i small small' => ?_)
    rw [List.getElem_map, List.getElem_map]
    rw [List.length_map] at small small'
    by_contra differ
    have found := List.getElem?_eq_getElem small
    have found' := List.getElem?_eq_getElem small'
    obtain ⟨n, n', isNode, isNode', plain⟩ :=
      superclass_eq_at coincide regular regular' read read' found found'
    refine alone ⟨i, n, n', _, _, isNode, isNode', found, found', fun ⟨first, second⟩ => ?_, differ⟩
    refine differ ?_
    rw [ClassTest.extendsText, ClassTest.extendsText, plain first second]

/-- If no comment stands in an extended type and all names can be decoded, there is an outline
of both trees or of neither. -/
theorem exists_outline_iff_of_plain (plain : ∀ n ∈ classNodes root, PlainType root n)
    (plain' : ∀ n ∈ classNodes root', PlainType root' n) (names : NamesWritten source root)
    (names' : NamesWritten other root') :
    (∃ o, ofTree source root = .ok o) ↔ ∃ o', ofTree other root' = .ok o' := by
  have same := forall₂_writtenSpans coincide regular regular' plain plain'
  rw [exists_outline_iff names, exists_outline_iff names', extendsWritten_iff, extendsWritten_iff]
  constructor
  · intro written s' hs'
    obtain ⟨o, ho, related⟩ := exists_left_of_mem same hs'
    cases related with
    | some texts => exact texts ▸ written _ ho
  · intro written s hs
    obtain ⟨o', ho', related⟩ := exists_right_of_mem same hs
    cases related with
    | some texts => exact texts ▸ written _ ho'

end

/-- In two sources whose trees coincide but for comments, the anchors for a text stand at the
same index, or else a comment in a type that a class extends makes the difference.

If no comment stands in an extended type, then there is an outline of both sources or of
neither, the anchors for every text stand at the same index, and so a route and an entry of a
mapper go to classes at the same index, or they are refused in both sources. -/
theorem anchors_apart_by_comments (coincide : Node.Coincide source other root root')
    (regular : root.Regular) (regular' : root'.Regular) :
    (∀ o o', ofTree source root = .ok o → ofTree other root' = .ok o' → ∀ text,
      (∀ i, o.AnchorAt (.extendsText text) i ↔ o'.AnchorAt (.extendsText text) i) ∨
        CommentDecides root root' o o' text) ∧
    ((∀ n ∈ classNodes root, PlainType root n) → (∀ n ∈ classNodes root', PlainType root' n) →
      (NamesWritten source root → NamesWritten other root' →
        ((∃ o, ofTree source root = .ok o) ↔ ∃ o', ofTree other root' = .ok o')) ∧
      ∀ o o', ofTree source root = .ok o → ofTree other root' = .ok o' →
        (∀ text i, o.AnchorAt (.extendsText text) i ↔ o'.AnchorAt (.extendsText text) i) ∧
        (∀ fragment baseClass path,
          Insertion.planRouteClass fragment baseClass path o = .error .route ↔
            Insertion.planRouteClass fragment baseClass path o' = .error .route) ∧
        ∀ names addition entry typeName path,
          Insertion.planMapperEntry names addition entry typeName path o = .error .mapper ↔
            Insertion.planMapperEntry names addition entry typeName path o' = .error .mapper) := by
  have anchors {o o' : Outline} (read : ofTree source root = .ok o)
      (read' : ofTree other root' = .ok o') (text : String) :=
    anchorAt_or_commentDecides coincide regular regular' read read' text
  refine ⟨fun o o' => anchors, fun plain plain' => ⟨?outlines, fun o o' read read' => ?plans⟩⟩
  case outlines => exact exists_outline_iff_of_plain coincide regular regular' plain plain'
  case plans =>
    have same (text : String) (i : Nat) :
        o.AnchorAt (.extendsText text) i ↔ o'.AnchorAt (.extendsText text) i := by
      rcases anchors read read' text with same | ⟨_, n, n', _, _, hn, hn', -, -, commented, -⟩
      · exact same i
      · exact absurd ⟨plain n (List.mem_of_getElem? hn), plain' n' (List.mem_of_getElem? hn')⟩
          commented
    refine ⟨same, fun fragment baseClass path => ?_, fun names addition entry typeName path => ?_⟩
    · rw [planRouteClass_eq_error, planRouteClass_eq_error]
      exact forall_congr' fun i => not_congr (same baseClass i)
    · rw [planMapperEntry_eq_error, planMapperEntry_eq_error]
      exact forall_congr' fun i => not_congr (same names.routeMapperName i)

/-! ## A class with comments -/

namespace Sample

/-- A comment with a name in it. -/
def namedComment : Bytes := Utf8.encode "/*B*/"

/-- The source of a class with that comment in the type it extends, in its body, or in both. -/
def commentedPage (inType inBody : Bool) : Bytes :=
  pageSource (if inType then namedComment else []) (if inBody then namedComment else [])

theorem regular_pageTree (inType inBody : Bool) : (pageTree inType inBody).Regular := by
  cases inType <;> cases inBody <;>
    exact ⟨Node.nested_of_isNested (by decide), by decide, by decide⟩

theorem alike_pageTree (inType : Bool) :
    Node.Alike (commentedPage inType !inType) (commentedPage false false)
      (pageTree inType !inType) (pageTree false false) := by
  have leaf {k : Kind} {named : Bool} {f : Option Field} {s s' : Span}
      (h : s.bytes (commentedPage inType !inType) = s'.bytes (commentedPage false false)) :
      Node.Alike (commentedPage inType !inType) (commentedPage false false)
        (.mk k named f s []) (.mk k named f s' []) := .leaf h
  cases inType
  all_goals
    refine .node (.cons (.node ?_) .nil)
    refine .cons (leaf ?_) (.cons (leaf ?_) (.cons (.node ?clause) (.cons (.node ?body) .nil)))
    case clause =>
      refine .cons (leaf ?_) (.cons (leaf ?_) (.cons (.node ?arguments) .nil))
      case arguments =>
        refine .cons (leaf ?_) (.cons (leaf ?_) (.cons (leaf ?_) .nil))
        all_goals decide +kernel
      all_goals decide +kernel
    case body =>
      refine .cons (leaf ?_) (.cons (leaf ?_) .nil)
      all_goals decide +kernel
    all_goals decide +kernel

/-- With the comment in one of the two places and without it the trees coincide. -/
theorem coincide_pageTree (inType : Bool) :
    Node.Coincide (commentedPage inType !inType) (commentedPage false false)
      (pageTree inType !inType) (pageTree false false) := by
  refine ⟨alike_pageTree inType, ?_, ?_⟩
  · cases inType <;> decide +kernel
  · cases inType <;> decide +kernel

theorem namesWritten_pageTree (inType inBody : Bool) :
    NamesWritten (commentedPage inType inBody) (pageTree inType inBody) := by
  have ascii : ∀ m ∈ (pageTree inType inBody).nodes,
      m.kind.isIdentifier = true ∨ m.field = some .name →
        ∀ b ∈ m.span.bytes (commentedPage inType inBody), b < 0x80 := by
    cases inType <;> cases inBody <;> decide +kernel
  exact fun m hm isName => Utf8.exists_decode_of_ascii (ascii m hm isName)

end Sample

/-- A comment in the body of a class makes no class an anchor. -/
theorem anchors_apart_by_comments_inBody :
    let source := Sample.commentedPage false true
    let other := Sample.commentedPage false false
    let root := Sample.pageTree false true
    let root' := Sample.pageTree false false
    Node.Coincide source other root root' ∧ root.Regular ∧ root'.Regular ∧
      ∃ o o', ofTree source root = .ok o ∧ ofTree other root' = .ok o' ∧
        (∀ text i, o.AnchorAt (.extendsText text) i ↔ o'.AnchorAt (.extendsText text) i) ∧
        o.AnchorAt (.extendsText "NavPage") 0 ∧ o.anchor? (.extendsText "B") = none := by
  intro source other root root'
  have coincide := Sample.coincide_pageTree false
  have regular := Sample.regular_pageTree false true
  have regular' := Sample.regular_pageTree false false
  have plain : ∀ n ∈ classNodes root, PlainType root n := by decide
  have plain' : ∀ n ∈ classNodes root', PlainType root' n := by decide
  obtain ⟨outlines, anchors⟩ := (anchors_apart_by_comments coincide regular regular').2 plain plain'
  have written := Sample.namesWritten_pageTree
  obtain ⟨o', read'⟩ := (outlines (written false true) (written false false)).1 ⟨_, rfl⟩
  obtain ⟨same, -⟩ := anchors _ o' rfl read'
  exact ⟨coincide, regular, regular', _, o', rfl, read', same, by decide, rfl⟩

/-- The same comment in the type that it extends does. -/
theorem comment_makesAnchor :
    let source := Sample.commentedPage true false
    let other := Sample.commentedPage false false
    let root := Sample.pageTree true false
    let root' := Sample.pageTree false false
    root.WellNested source.length ∧ root'.WellNested other.length ∧ root.Regular ∧
      root'.Regular ∧ Node.Coincide source other root root' ∧
      (∃ o o', ofTree source root = .ok o ∧ ofTree other root' = .ok o' ∧
        o.AnchorAt (.extendsText "B") 0 ∧ ∀ i, ¬ o'.AnchorAt (.extendsText "B") i) ∧
      (insert (fun _ => ofTree source root) {} "r" (.routeClass "class D" "B") source).2
        = .ok (source ++ Utf8.encode "\n\nclass D") ∧
      (insert (fun _ => ofTree other root') {} "r" (.routeClass "class D" "B") other).2
        = .error (.noPlace .route "r") := by
  intro source other root root'
  refine ⟨Node.wellNested_of_isWellNested (by decide), Node.wellNested_of_isWellNested (by decide),
    Sample.regular_pageTree true false, Sample.regular_pageTree false false,
    Sample.coincide_pageTree true, ⟨_, _, rfl, rfl, by decide, ?_⟩, rfl, rfl⟩
  exact anchor?_eq_none_iff_anchorAt.1 rfl

end Outline

end RouteGraft
