import RouteGraft.Proofs.CommentedClasses
import RouteGraft.Proofs.Failures

/-!
# Bytes that are not UTF-8

A source is a row of bytes, and only its names are decoded: identifiers, and what fills the
field of a name.  There is one exception.  The type that a class extends is decoded as it is
written, from its first node to its last one, with whatever stands between them.

So a reading fails at most as one of these texts does (`Outline.failsOnly_ofTree`).  Every
reader has a lemma of its own for this, which takes the errors of the names below a node as
given.

If all identifiers are ASCII, which they are in Dart, there is an outline just if the extended
types can be decoded, and nothing else in a source can stop an insertion for want of an outline
(`Outline.ofTree_asciiIdentifiers`).  A comment in an extended type can.
-/

namespace RouteGraft

open Dart (Node Kind Field)

/-! ## ASCII -/

namespace Utf8

theorem isChar_ascii {b : UInt8} (ascii : b < 0x80) : IsChar [b] (Char.ofNat b.toNat) := by
  have first : lead b = .ascii := by rw [lead, if_pos ascii]
  refine .mk (not_continues_of_ascii first) (fun _ hb => absurd hb List.not_mem_nil) fun later => ?_
  simp only [next, first, List.length_nil]

/-- Bytes that are ASCII are a text. -/
theorem exists_decode_of_ascii {bytes : Bytes} (ascii : ∀ b ∈ bytes, b < 0x80) :
    ∃ s, decode bytes = .ok s := by
  suffices encoded : ∃ cs, Encodes bytes cs by
    obtain ⟨cs, encodes⟩ := encoded
    exact ⟨String.ofList cs, decode_eq_ok.2 (by rwa [String.toList_ofList])⟩
  induction bytes with
  | nil => exact ⟨[], .nil⟩
  | cons b rest ih =>
      obtain ⟨first, later⟩ := List.forall_mem_cons.1 ascii
      obtain ⟨cs, encodes⟩ := ih later
      exact ⟨_, .cons (isChar_ascii first) encodes⟩

end Utf8

namespace Outline

variable {source : Bytes}

/-! ## Lists -/

section

variable {P : Utf8.DecodeError → Prop} {list : Node → Reading ListLiteral} {n : Node}

/-- Decoding a name of a tree fails at most with errors of some kind.  The names are the
identifiers and what fills the field of a name. -/
def NamesFail (P : Utf8.DecodeError → Prop) (source : Bytes) (n : Node) : Prop :=
  ∀ m ∈ n.nodes, m.kind.isIdentifier = true ∨ m.field = some .name →
    FailsOnly P (m.span.text source)

namespace NamesFail

theorem of_mem_nodes {m : Node} (h : NamesFail P source n) (hm : m ∈ n.nodes) :
    NamesFail P source m :=
  fun l hl => h l (Node.mem_nodes_trans hl hm)

theorem child {c : Node} (h : NamesFail P source n) (hc : c ∈ n.children) : NamesFail P source c :=
  h.of_mem_nodes (Node.child_mem_nodes hc)

/-- An identifier is a name. -/
theorem text (h : NamesFail P source n) (isName : n.kind.isIdentifier = true) :
    FailsOnly P (n.span.text source) :=
  h n n.self_mem_nodes (.inl isName)

/-- What is found by the field of a name, or else as an identifier, is a name. -/
theorem text_of_fieldOrChild? {wanted : Kind → Bool} {name : Node} (h : NamesFail P source n)
    (identifier : ∀ k, wanted k = true → k.isIdentifier = true)
    (found : n.fieldOrChild? .name wanted = some name) : FailsOnly P (name.span.text source) := by
  obtain ⟨isChild, isName⟩ := Node.fieldOrChild?_eq_some found
  exact h name (Node.child_mem_nodes isChild) (isName.symm.imp_left (identifier _))

end NamesFail

/-- A reader of lists that fails at most as the names in a list do. -/
def ListsFail (P : Utf8.DecodeError → Prop) (source : Bytes) (list : Node → Reading ListLiteral) :
    Prop := ∀ n, NamesFail P source n → FailsOnly P (list n)

theorem failsOnly_argumentValue (lists : ListsFail P source list) (names : NamesFail P source n) :
    FailsOnly P (argumentValue list n) := by
  unfold argumentValue
  split
  · next v values =>
      have isPart : v ∈ n.parts := by
        have mem : v ∈ n.parts.filter (·.kind ≠ .construct .label) := by
          rw [values]
          exact List.mem_singleton_self v
        exact List.mem_of_mem_filter mem
      split
      · exact (lists v (names.child (Node.mem_children_of_mem_parts isPart))).map
      · exact .ok none
  · exact .ok none

theorem failsOnly_namedArgument? (lists : ListsFail P source list)
    (names : NamesFail P source n) : FailsOnly P (namedArgument? list source n) := by
  unfold namedArgument?
  split
  · exact .ok none
  · next name found =>
      obtain ⟨label, isLabel, isName⟩ := Option.bind_eq_some_iff.1 found
      obtain ⟨labelChild, -⟩ := Node.child?_eq_some isLabel
      obtain ⟨nameChild, identifier⟩ := Node.child?_eq_some isName
      refine (failsOnly_argumentValue lists names).bind fun v _ => ?_
      exact (((names.child labelChild).child nameChild).text identifier).bind fun s _ => .ok _

theorem failsOnly_namedArguments (lists : ListsFail P source list)
    (names : NamesFail P source n) : FailsOnly P (namedArguments list source n) := by
  refine FailsOnly.map (FailsOnly.mapM fun argument hargument => ?_)
  have isPart := List.mem_of_mem_filter hargument
  exact failsOnly_namedArgument? lists (names.child (Node.mem_children_of_mem_parts isPart))

theorem failsOnly_listElement (lists : ListsFail P source list) {first : Node} {rest : List Node}
    (names : ∀ m ∈ first :: rest, NamesFail P source m) :
    FailsOnly P (listElement list source first rest) := by
  unfold listElement
  dsimp only
  split
  · exact .ok _
  · next name arguments found =>
      obtain ⟨call, group, isName, -, inCall⟩ := plainCall?_eq_some.1 found
      rw [group] at names
      have identifier : name.kind.isIdentifier = true := by
        rw [isName]
        rfl
      have below := names call (by simp)
      refine ((names name (by simp)).text identifier).bind fun s _ => ?_
      exact (failsOnly_namedArguments lists
        (below.of_mem_nodes (Node.mem_nodes_of_descendant? inCall))).bind fun as _ => .ok _

theorem failsOnly_listElements (lists : ListsFail P source list) {groups : List (List Node)}
    (names : ∀ group ∈ groups, ∀ m ∈ group, NamesFail P source m) :
    FailsOnly P (listElements list source groups) := by
  induction groups with
  | nil => exact .ok []
  | cons group groups ih =>
      obtain ⟨here, later⟩ := List.forall_mem_cons.1 names
      cases group with
      | nil => exact ih later
      | cons first rest =>
          refine (failsOnly_listElement lists here).bind fun e _ => ?_
          exact (ih later).bind fun es _ => .ok _

/-- Every reader of lists fails at most as the names in a list do, since the lists in it are
below it. -/
theorem listsFail_listLiteralTo (depth : Nat) :
    ListsFail P source (listLiteralTo source depth) := by
  induction depth with
  | zero => exact fun n _ => .ok _
  | succ depth ih =>
      intro n names
      rw [listLiteralTo, listLiteralWith]
      refine (failsOnly_listElements ih fun group hgroup m hm => ?_).bind fun es _ => .ok _
      exact names.child (mem_children_of_mem_group hgroup hm)

/-! ## Members -/

theorem failsOnly_memberWithBody (name : String) (kind : MemberKind)
    (names : NamesFail P source n) : FailsOnly P (memberWithBody source name kind n) := by
  unfold memberWithBody
  split
  · exact .ok _
  · split
    · next e parts =>
        have isPart : e ∈ n.parts := by simp [parts]
        have below := names.child (Node.mem_children_of_mem_parts isPart)
        refine FailsOnly.bind ?_ fun l _ => .ok _
        unfold expressionList
        split
        · exact (listsFail_listLiteralTo e.height e below).map
        · exact .ok none
    · exact .ok _

/-- What a node declares is named by a name in it. -/
theorem failsOnly_signature? {name : Node} {kind : MemberKind} (names : NamesFail P source n)
    (declares : signature? n = some (name, kind)) : FailsOnly P (name.span.text source) := by
  unfold signature? at declares
  split at declares
  · split at declares
    · cases declares
    · next s found =>
        split at declares
        · next name' kind' isName _ =>
            cases declares
            have below := names.of_mem_nodes (Node.mem_nodes_of_descendant? found)
            refine below.text_of_fieldOrChild? (fun k identifier => ?_) isName
            rw [of_decide_eq_true identifier]
            rfl
        · cases declares
  · cases declares

theorem failsOnly_membersFrom (p : Pending) {cs : List Node}
    (names : ∀ c ∈ cs, NamesFail P source c) : FailsOnly P (membersFrom source p cs) := by
  induction cs generalizing p with
  | nil => exact .ok _
  | cons c rest ih =>
      obtain ⟨here, later⟩ := List.forall_mem_cons.1 names
      rw [membersFrom.eq_def]
      dsimp only
      -- a comment, a body, or anything else
      split
      · exact ih p later
      · split
        · cases p with
          | none => exact ih none later
          | some declared =>
              refine (failsOnly_memberWithBody declared.1 declared.2 here).bind fun m _ => ?_
              exact (ih none later).bind fun ms _ => .ok _
        · split
          · exact (ih none later).bind fun ms _ => .ok _
          · next name kind declares =>
              refine (failsOnly_signature? here declares).bind fun s _ => ?_
              exact (ih (some (s, kind)) later).bind fun ms _ => .ok _

/-! ## Classes -/

theorem failsOnly_extendedType (names : NamesFail P source n)
    (written : ∀ s, typeSpan? n = some s → FailsOnly P (s.text source)) :
    FailsOnly P (extendedType source n) := by
  unfold typeSpan? at written
  unfold extendedType
  split
  · exact .ok none
  · next first rest parts =>
      rw [parts] at written
      refine (written _ rfl).bind fun text _ => ?_
      split
      · next name found =>
          obtain ⟨isPart, identifier⟩ := List.mem_filter.1 (List.mem_of_getLast? found)
          rw [← parts] at isPart
          have isChild := Node.mem_children_of_mem_parts (List.mem_of_mem_filter isPart)
          exact ((names.child isChild).text identifier).bind fun s _ => .ok _
      · exact .ok _

theorem failsOnly_implementedTypes (names : NamesFail P source n) :
    FailsOnly P (implementedTypes source n) := by
  refine FailsOnly.mapM fun name hname => ?_
  obtain ⟨group, hgroup, named⟩ := List.mem_filterMap.1 hname
  have below (m : Node) (hm : m ∈ group) : NamesFail P source m :=
    names.child (Node.mem_of_mem_commaGroups hgroup hm)
  unfold interfaceName? at named
  split at named
  · next found =>
      cases named
      obtain ⟨inGroup, identifier⟩ := List.mem_filter.1 (List.mem_of_getLast? found)
      exact (below name inGroup).text identifier
  · obtain ⟨first, head, found⟩ := Option.bind_eq_some_iff.1 named
    have inFirst := Node.mem_nodes_of_descendant? found
    exact ((below first (List.mem_of_head? head)).of_mem_nodes inFirst).text
      (Node.descendant?_two found).1

/-- The types that a class extends and implements, its name and its members, one after the
other. -/
theorem failsOnly_classOutline? (names : NamesFail P source n)
    (written : (classBody? n).isSome = true → (className? n).isSome = true → ∀ clause s,
      n.child? (· = .construct .superclass) = some clause → typeSpan? clause = some s →
        FailsOnly P (s.text source)) : FailsOnly P (classOutline? source n) := by
  unfold classOutline?
  split
  · next body nameNode isBody isName =>
      have extended : FailsOnly P (classExtends source n) := by
        unfold classExtends
        split
        · next clause found =>
            refine failsOnly_extendedType (names.child (Node.child?_eq_some found).1) fun s => ?_
            exact written (by rw [isBody]; rfl) (by rw [isName]; rfl) clause s found
        · exact .ok none
      have interfaces : FailsOnly P (classImplements source n) := by
        unfold classImplements
        split
        · next clause found =>
            exact failsOnly_implementedTypes (names.child (Node.child?_eq_some found).1)
        · exact .ok []
      have inBody := names.child (Node.fieldOrChild?_eq_some isBody).1
      refine extended.bind fun e _ => ?_
      refine (names.text_of_fieldOrChild? (fun k => id) isName).bind fun name _ => ?_
      refine interfaces.bind fun is _ => ?_
      exact (failsOnly_membersFrom none fun c hc => inBody.child hc).bind fun ms _ => .ok _
  · exact .ok none

end

/-! ## Outlines -/

/-- A type that a class extends cannot be decoded, as it is written. -/
def ExtendsFails (source : Bytes) (root : Node) (e : Utf8.DecodeError) : Prop :=
  ∃ n ∈ root.children.filter fun n => n.named && isClass n.kind,
    (classBody? n).isSome = true ∧ (className? n).isSome = true ∧
      ∃ clause s, n.child? (· = .construct .superclass) = some clause ∧
        typeSpan? clause = some s ∧ s.text source = .error e

theorem not_extendsWritten_iff {root : Node} :
    ¬ ExtendsWritten source root ↔ ∃ e, ExtendsFails source root e := by
  constructor
  · intro unwritten
    by_contra none_
    refine unwritten fun n hn hasBody hasName clause s found place => ?_
    cases decoded : s.text source with
    | ok text => exact ⟨text, rfl⟩
    | error e => exact absurd ⟨e, n, hn, hasBody, hasName, clause, s, found, place, decoded⟩ none_
  · rintro ⟨e, n, hn, hasBody, hasName, clause, s, found, place, failed⟩ written
    obtain ⟨text, decoded⟩ := written n hn hasBody hasName clause s found place
    cases failed.symm.trans decoded

/-- A reading fails at most as an extended type does or as a name does. -/
theorem failsOnly_ofTree {P : Utf8.DecodeError → Prop} {root : Node}
    (names : NamesFail P source root) (types : ∀ e, ExtendsFails source root e → P e) :
    FailsOnly P (ofTree source root) := by
  refine FailsOnly.map (FailsOnly.map (FailsOnly.mapM fun n hn => ?_))
  have isChild := List.mem_of_mem_filter hn
  refine failsOnly_classOutline? (names.child isChild) ?_
  intro hasBody hasName clause s found place e failed
  exact types e ⟨n, hn, hasBody, hasName, clause, s, found, place, failed⟩

/-- A source in which all identifiers are ASCII. -/
def IdentifiersAscii (source : Bytes) (root : Node) : Prop :=
  ∀ m ∈ root.nodes, m.kind.isIdentifier = true → ∀ b ∈ m.span.bytes source, b < 0x80

/-- What fills the field of a name, without being an identifier, cannot be decoded. -/
def FieldFails (source : Bytes) (root : Node) (e : Utf8.DecodeError) : Prop :=
  ∃ m ∈ root.nodes, m.field = some .name ∧ m.kind.isIdentifier = false ∧
    m.span.text source = .error e

/-- If all identifiers are ASCII, a reading can only fail since an extended type cannot be
decoded, or something in the place of a name that is none.

If, further, only identifiers are in the places of names, there is an outline just if the
extended types can be decoded, as they are written.  If they cannot, every insertion is stopped;
if they can, none is stopped for want of an outline. -/
theorem ofTree_asciiIdentifiers {root : Node} (ascii : IdentifiersAscii source root) :
    (∀ e, ofTree source root = .error e →
      ExtendsFails source root e ∨ FieldFails source root e) ∧
    ((∀ m ∈ root.nodes, m.field = some .name → m.kind.isIdentifier = true) →
      ((∃ o, ofTree source root = .ok o) ↔ ExtendsWritten source root) ∧
      ∀ (outliner : Outliner) (names : Names) (path : String) (i : Insertion),
        outliner source = ofTree source root →
        ((∃ e, (insert outliner names path i source).2 = .error (.undecodable e)) ↔
          ¬ ExtendsWritten source root)) := by
  have fails : FailsOnly (fun e => ExtendsFails source root e ∨ FieldFails source root e)
      (ofTree source root) := by
    refine failsOnly_ofTree (fun m hm isName e failed => ?_) fun e => .inl
    cases identifier : m.kind.isIdentifier with
    | true =>
        obtain ⟨text, decoded⟩ := Utf8.exists_decode_of_ascii (ascii m hm identifier)
        cases failed.symm.trans decoded
    | false =>
        rw [identifier] at isName
        exact .inr ⟨m, hm, isName.resolve_left Bool.false_ne_true, identifier, failed⟩
  refine ⟨fails, fun fields => ?_⟩
  have types (e : Utf8.DecodeError) (failed : ofTree source root = .error e) :
      ExtendsFails source root e := by
    rcases fails e failed with types | ⟨m, hm, field, noIdentifier, -⟩
    · exact types
    · cases noIdentifier.symm.trans (fields m hm field)
  have outline : (∃ o, ofTree source root = .ok o) ↔ ExtendsWritten source root := by
    refine ⟨fun ⟨o, read⟩ => extendsWritten_of_ok read, fun written => ?_⟩
    cases read : ofTree source root with
    | ok o => exact ⟨o, rfl⟩
    | error e => exact absurd written (not_extendsWritten_iff.2 ⟨e, types e read⟩)
  refine ⟨outline, fun outliner names path i outlined => ?_⟩
  simp only [insert_eq_undecodable, outlined]
  rw [← outline]
  cases ofTree source root with
  | ok o => simp
  | error e => simp

/-! ## A comment in another encoding -/

namespace Sample

/-- A class in front of whose body there is a type with arguments, with something between its
name and them, and with something inside of the body. -/
def pageSource (inType inBody : Bytes) : Bytes :=
  Utf8.encode "class A extends NavPage" ++ inType ++ Utf8.encode "<C>\x7b" ++ inBody ++
    Utf8.encode "\x7d"

/-- A comment with a letter in Latin-1. -/
def strayComment : Bytes := Utf8.encode "/*" ++ [0xE9] ++ Utf8.encode "*/"

/-- The tree of such a class with comments of five bytes in both places, or in none. -/
def pageTree (inType inBody : Bool) : Node :=
  let shift : Int := if inType then 5 else 0
  let stop : Int := 28 + shift + if inBody then 5 else 0
  let comment (start : Int) : Node := .mk .comment true none ⟨start, start + 5⟩ []
  .mk .program true none ⟨0, stop⟩
    [Node.construct .classDefinition 0 stop
      [Node.token .class_ 0 5, (Node.plainName 6 7).withField .name,
        Node.construct .superclass 8 (26 + shift)
          ([Node.token .extends_ 8 15, Node.typeName 16 23] ++
            (if inType then [comment 23] else []) ++
              [Node.construct .typeArguments (23 + shift) (26 + shift)
                [Node.token .less (23 + shift) (24 + shift),
                  Node.typeName (24 + shift) (25 + shift),
                  Node.token .greater (25 + shift) (26 + shift)]]),
        (Node.construct .classBody (26 + shift) stop
          ([Node.token .openBrace (26 + shift) (27 + shift)] ++
            (if inBody then [comment (27 + shift)] else []) ++
              [Node.token .closeBrace (stop - 1) stop])).withField .body]]

end Sample

/-- A comment in a body may be in any encoding: the class of a route is inserted behind it. -/
theorem ofTree_asciiIdentifiers_inBody :
    let source := Sample.pageSource [] Sample.strayComment
    let root := Sample.pageTree false true
    root.WellNested source.length ∧ IdentifiersAscii source root ∧
      (∀ m ∈ root.nodes, m.field = some .name → m.kind.isIdentifier = true) ∧
      (∃ o, ofTree source root = .ok o) ∧
      (insert (fun _ => ofTree source root) {} "r" (.routeClass "class B" "NavPage") source).2
        = .ok (source ++ Utf8.encode "\n\nclass B") := by
  intro source root
  have ascii : IdentifiersAscii source root := by
    unfold IdentifiersAscii
    decide +kernel
  have fields : ∀ m ∈ root.nodes, m.field = some .name → m.kind.isIdentifier = true := by decide
  obtain ⟨outline, -⟩ := (ofTree_asciiIdentifiers ascii).2 fields
  have written : ExtendsWritten source root := extendsWritten_of_ok rfl
  exact ⟨Node.wellNested_of_isWellNested (by decide), ascii, fields, outline.2 written, rfl⟩

/-- The same comment in an extended type stops the insertion. -/
theorem strayByte_inType :
    let source := Sample.pageSource Sample.strayComment []
    let root := Sample.pageTree true false
    root.WellNested source.length ∧ IdentifiersAscii source root ∧
      (∀ m ∈ root.nodes, m.field = some .name → m.kind.isIdentifier = true) ∧
      (∃ m ∈ root.nodes, m.isComment = true ∧ m.span.bytes source = Sample.strayComment) ∧
      ofTree source root = .error ⟨.continuation, 9, 0xE9, 1⟩ ∧
      (insert (fun _ => ofTree source root) {} "r" (.routeClass "class B" "NavPage") source).2
        = .error (.undecodable ⟨.continuation, 9, 0xE9, 1⟩) := by
  intro source root
  have ascii : IdentifiersAscii source root := by
    unfold IdentifiersAscii
    decide +kernel
  exact ⟨Node.wellNested_of_isWellNested (by decide), ascii, by decide, by decide, rfl, rfl⟩

end Outline

end RouteGraft
