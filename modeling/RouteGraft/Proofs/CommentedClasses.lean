import RouteGraft.Proofs.CommentedLists
import RouteGraft.Proofs.Shapes

/-!
# Classes with comments

Comments may stand wherever there is space in a source, and the outline of the source does
not tell.  Two trees that are the same once all comments are taken out have the same
outline *without its places*: the same classes with the same names, members and lists
(`Outline.ofTree_comments`).

Only the text of a type that a class extends is left out of this, since it goes from the
first node of the type to the last one, with all comments between them.  It is decoded,
too, and a comment that is not UTF-8 can make the difference between an outline and
none.  Nothing else in a comment can.
-/

namespace RouteGraft

open Dart (Node Kind Field)

/-! ## Without places -/

/-- A member without its places. -/
def Member.unplaced (m : Member) : Member := m.mapList ListLiteral.unplaced

/-- A class without its places and without the text of the type it extends. -/
def ClassOutline.unplaced (c : ClassOutline) : ClassOutline :=
  { c with
    span := ⟨0, 0⟩
    superclass := c.superclass.map fun _ => ""
    closingBrace := 0
    members := c.members.map Member.unplaced }

/-- An outline without its places and without the texts of the types that are
extended. -/
def Outline.unplaced (o : Outline) : Outline := ⟨o.classes.map ClassOutline.unplaced⟩

namespace Outline

variable {source other : Bytes} {depth depth' : Nat}

section

variable {n n' : Node}

/-! ## Members -/

theorem isRule_of_signatureKind? (k : Kind) (h : (signatureKind? k).isSome = true) :
    k.isRule = true := by
  cases k with
  | construct c => rfl
  | _ => cases h

/-- Nodes that are alike declare members of the same kind and the same name. -/
theorem rel_signature? (h : Node.Twins source other depth depth' n n') :
    Option.Rel (fun s s' => s.1.span.text source = s'.1.span.text other ∧ s.2 = s'.2)
      (signature? n) (signature? n') := by
  unfold signature?
  rw [← h.kind]
  split
  · have signatures := h.descendant? isRule_of_signatureKind?
    generalize n.descendant? _ 2 = o at signatures ⊢
    generalize n'.descendant? _ 2 = o' at signatures ⊢
    cases signatures with
    | none => exact .none
    | @some s s' twins =>
        have rule (k : Kind) (name : decide (k = .identifier) = true) : k.isRule = true := by
          rw [of_decide_eq_true name]
          rfl
        have names := rel_text (twins.fieldOrChild? .name rule) fun m found =>
          (Node.fieldOrChild?_eq_some found).2.symm.imp_left fun name => by
            rw [of_decide_eq_true name]
            rfl
        simp only [← twins.kind]
        generalize s.fieldOrChild? _ _ = o at names ⊢
        generalize s'.fieldOrChild? _ _ = o' at names ⊢
        cases names with
        | none => exact .none
        | some text =>
            cases signatureKind? s.kind with
            | none => exact .none
            | some kind => exact .some ⟨text, rfl⟩
  · exact .none

theorem agree_expressionList (h : Node.Twins source other depth depth' n n') :
    Agree (fun v v' => v.map ListLiteral.unplaced = v'.map ListLiteral.unplaced)
      (expressionList source n) (expressionList other n') := by
  unfold expressionList
  rw [← h.kind]
  split
  · exact (agree_listLiteral h).map fun l l' same => by
      rw [Option.map_some, Option.map_some, same]
  · exact .ok rfl

theorem agree_memberWithBody (name : String) (kind : MemberKind)
    (h : Node.Twins source other depth depth' n n') :
    Agree (fun m m' => m.unplaced = m'.unplaced) (memberWithBody source name kind n)
      (memberWithBody other name kind n') := by
  have parts := h.parts
  have kinds := map_eq_map_of_forall₂ parts fun c c' twins => twins.kind
  have blocks : n.parts.any (·.kind = .construct .block)
      = n'.parts.any (·.kind = .construct .block) := by
    have onKinds := congrArg (List.any · (decide <| · = .construct .block)) kinds
    simpa only [List.any_map, Function.comp_def] using onKinds
  unfold memberWithBody
  rw [blocks]
  split
  · exact .ok rfl
  · generalize n.parts = es at parts ⊢
    generalize n'.parts = es' at parts ⊢
    cases parts with
    | nil => exact .ok rfl
    | cons twins later =>
        cases later with
        | cons _ _ => exact .ok rfl
        | nil =>
            refine (agree_expressionList twins).bind fun l l' lists => .ok ?_
            rw [Member.unplaced, Member.unplaced, Member.mapList, Member.mapList, lists, twins.kind]

/-- Comments between members are passed over. -/
theorem membersFrom_filter (p : Pending) (cs : List Node) :
    membersFrom source p (cs.filter fun c => !c.isComment) = membersFrom source p cs := by
  induction cs generalizing p with
  | nil => rfl
  | cons c rest ih =>
      rw [membersFrom.eq_def source p (c :: rest)]
      cases comment : c.isComment with
      | true => simp [comment, ih]
      | false =>
          rw [List.filter_cons_of_pos (by simp [comment]), membersFrom.eq_def]
          simp only [ih]

theorem agree_membersFrom (p : Pending) {cs cs' : List Node}
    (h : List.Forall₂ (Node.Twins source other depth depth') cs cs') :
    Agree (fun ms ms' => ms.map Member.unplaced = ms'.map Member.unplaced)
      (membersFrom source p cs) (membersFrom other p cs') := by
  induction h generalizing p with
  | nil => exact .ok rfl
  | @cons c c' cs cs' twins _ ih =>
      rw [membersFrom.eq_def, membersFrom.eq_def]
      dsimp only
      rw [← twins.isComment, ← twins.kind]
      -- a comment, a body, or anything else
      split
      · exact ih p
      · split
        · -- a body without a signature in front of it is no member
          cases p with
          | none => exact ih none
          | some declared =>
              refine (agree_memberWithBody declared.1 declared.2 twins).bind fun m m' same => ?_
              refine (ih none).bind fun ms ms' later => .ok ?_
              rw [List.map_cons, List.map_cons, same, later]
        · have signatures := rel_signature? twins
          generalize signature? c = o at signatures ⊢
          generalize signature? c' = o' at signatures ⊢
          cases signatures with
          | none =>
              refine (ih none).bind fun ms ms' later => .ok ?_
              rw [List.map_append, List.map_append, later]
          | @some s s' same =>
              obtain ⟨node, kind⟩ := s
              obtain ⟨node', kind'⟩ := s'
              obtain ⟨text, rfl⟩ : node.span.text source = node'.span.text other ∧ kind = kind' :=
                same
              refine (Agree.of_eq text).bind fun name name' names => ?_
              subst names
              refine (ih (some (name, kind))).bind fun ms ms' later => .ok ?_
              rw [List.map_append, List.map_append, later]

/-! ## Classes -/

/-- The place of the type that a clause names. -/
def typeSpan? (clause : Node) : Option Span :=
  match clause.parts.filter (·.kind ≠ .construct .mixins) with
  | [] => none
  | first :: rest => some (first.span.through (rest.getLastD first).span)

/-- Whether the type that a class extends can be decoded, as it is written. -/
def IsWritten (source : Bytes) (n : Node) : Prop :=
  ∀ clause s, n.child? (· = .construct .superclass) = some clause → typeSpan? clause = some s →
    ∃ written, s.text source = .ok written

/-- The last names of siblings have the same text. -/
theorem rel_lastName {cs cs' : List Node}
    (h : List.Forall₂ (Node.Twins source other depth depth') cs cs') :
    Option.Rel (fun m m' => m.span.text source = m'.span.text other)
      (cs.filter (·.kind.isIdentifier)).getLast? (cs'.filter (·.kind.isIdentifier)).getLast? :=
  rel_text (rel_getLast? (Node.twins_filter Kind.isIdentifier h)) fun _ found =>
    .inl (List.mem_filter.1 (List.mem_of_getLast? found)).2

/-- Clauses that are alike name the same type. -/
theorem agree_extendedType (h : Node.Twins source other depth depth' n n')
    (named : ∃ p ∈ n.parts, p.kind.isIdentifier = true)
    (written : ∀ s, typeSpan? n = some s → ∃ text, s.text source = .ok text)
    (written' : ∀ s, typeSpan? n' = some s → ∃ text, s.text other = .ok text) :
    Agree (fun e e' => e.map Prod.snd = e'.map Prod.snd) (extendedType source n)
      (extendedType other n') := by
  have parts := Node.twins_filter (· ≠ .construct .mixins) h.parts
  obtain ⟨p, isPart, isName⟩ := named
  have kept : p ∈ n.parts.filter (·.kind ≠ .construct .mixins) := by
    refine List.mem_filter.2 ⟨isPart, ?_⟩
    cases kind : p.kind with
    | construct c =>
        rw [kind] at isName
        cases isName
    | _ => rfl
  unfold typeSpan? at written written'
  unfold extendedType
  generalize n.parts.filter _ = ps at parts kept written ⊢
  generalize n'.parts.filter _ = ps' at parts written' ⊢
  cases parts with
  | nil => exact .ok rfl
  | @cons first first' rest rest' twins later =>
      obtain ⟨text, decoded⟩ := written _ rfl
      obtain ⟨text', decoded'⟩ := written' _ rfl
      have names := rel_lastName (.cons twins later)
      have some_ : ((first :: rest).filter (·.kind.isIdentifier)).getLast? ≠ none := fun none => by
        have empty := List.getLast?_eq_none_iff.1 none
        exact List.not_mem_nil (empty ▸ List.mem_filter.2 ⟨kept, isName⟩)
      dsimp only
      rw [decoded, decoded']
      generalize ((first :: rest).filter _).getLast? = o at names some_ ⊢
      generalize ((first' :: rest').filter _).getLast? = o' at names ⊢
      cases names with
      | none => exact absurd rfl some_
      | some same =>
          refine (Agree.of_eq same).bind fun name name' names => .ok ?_
          rw [Option.map_some, Option.map_some, names]

theorem agree_classExtends (h : Node.Twins source other depth depth' n n')
    (written : IsWritten source n) (written' : IsWritten other n') :
    Agree (fun e e' => e.map Prod.snd = e'.map Prod.snd) (classExtends source n)
      (classExtends other n') := by
  have clauses := h.child? (Kind.isRule_of_construct (c := .superclass))
  unfold IsWritten at written written'
  unfold classExtends
  generalize found : n.child? (· = .construct .superclass) = o at clauses written ⊢
  generalize n'.child? (· = .construct .superclass) = o' at clauses written' ⊢
  cases clauses with
  | none => exact .ok rfl
  | @some clause clause' twins =>
      have kind : clause.kind = .construct .superclass :=
        of_decide_eq_true (Node.child?_eq_some found).2
      have named := twins.readable.extended clause clause.self_mem_nodes kind
      exact agree_extendedType twins named (fun s => written clause s rfl)
        fun s => written' clause' s rfl

/-- Groups that are alike are named by nodes of the same text. -/
theorem rel_interfaceName? {group group' : List Node}
    (h : List.Forall₂ (Node.Twins source other depth depth') group group') :
    Option.Rel (fun m m' => m.span.text source = m'.span.text other) (interfaceName? group)
      (interfaceName? group') := by
  have names := rel_lastName h
  unfold interfaceName?
  generalize (group.filter _).getLast? = o at names ⊢
  generalize (group'.filter _).getLast? = o' at names ⊢
  cases names with
  | some text => exact .some text
  | none =>
      cases h with
      | nil => exact .none
      | cons twins _ =>
          exact rel_text (twins.descendant? Kind.isRule_of_isIdentifier) fun m found =>
            .inl (Node.descendant?_two found).1

theorem agree_implementedTypes (h : Node.Twins source other depth depth' n n') :
    Agree Eq (implementedTypes source n) (implementedTypes other n') := by
  have groups := (Node.twins_commaGroups h.content).1
  have names := List.rel_filterMap (fun _ _ twins => rel_interfaceName? twins) groups
  have read := Agree.mapM names fun m _ m' _ text => Agree.of_eq text
  rw [List.forall₂_eq_eq_eq] at read
  exact read

theorem agree_classImplements (h : Node.Twins source other depth depth' n n') :
    Agree Eq (classImplements source n) (classImplements other n') := by
  have clauses := h.child? (Kind.isRule_of_construct (c := .interfaces))
  unfold classImplements
  generalize n.child? _ = o at clauses ⊢
  generalize n'.child? _ = o' at clauses ⊢
  cases clauses with
  | none => exact .ok rfl
  | some twins => exact agree_implementedTypes twins

/-- Nodes that are alike declare classes that are the same without their places. -/
theorem agree_classOutline? (h : Node.Twins source other depth depth' n n')
    (written : (classBody? n).isSome = true → (className? n).isSome = true → IsWritten source n)
    (written' : (classBody? n').isSome = true → (className? n').isSome = true →
      IsWritten other n') :
    Agree (fun c c' => c.map ClassOutline.unplaced = c'.map ClassOutline.unplaced)
      (classOutline? source n) (classOutline? other n') := by
  have bodies := h.fieldOrChild? .body (Kind.isRule_of_construct (c := .classBody))
  have names := rel_text (h.fieldOrChild? .name Kind.isRule_of_isIdentifier)
    fun m found => (Node.fieldOrChild?_eq_some found).2.symm
  unfold classBody? className? at written written'
  unfold classOutline? classBody? className?
  generalize n.fieldOrChild? .body _ = o at bodies written ⊢
  generalize n'.fieldOrChild? .body _ = o' at bodies written' ⊢
  generalize n.fieldOrChild? .name _ = p at names written ⊢
  generalize n'.fieldOrChild? .name _ = p' at names written' ⊢
  cases bodies with
  | none => exact .ok rfl
  | some body =>
      cases names with
      | none => exact .ok rfl
      | some text =>
          have extends_ := agree_classExtends h (written rfl rfl) (written' rfl rfl)
          refine extends_.bind fun e e' extended => ?_
          refine (Agree.of_eq text).bind fun name name' names => ?_
          refine (agree_classImplements h).bind fun is is' interfaces => ?_
          have members := agree_membersFrom none body.content
          rw [Node.content, Node.content, membersFrom_filter, membersFrom_filter] at members
          refine members.bind fun ms ms' members => .ok ?_
          have kept : (e.map Prod.fst).map (fun _ => "") = (e'.map Prod.fst).map fun _ => "" := by
            have onNames := congrArg (Option.map fun _ => "") extended
            simpa only [Option.map_map, Function.comp_def] using onNames
          simp only [Option.map_some, ClassOutline.unplaced, names, interfaces, members, extended,
            kept]

end

/-! ## Outlines -/

/-- A source in which the types that classes extend can be decoded, as they are
written. -/
def ExtendsWritten (source : Bytes) (root : Node) : Prop :=
  ∀ n ∈ root.children.filter fun n => n.named && isClass n.kind,
    (classBody? n).isSome = true → (className? n).isSome = true → IsWritten source n

theorem isClass_of_isComment {k : Kind} (h : k.isComment = true) : isClass k = false := by
  cases k with
  | comment => rfl
  | documentationComment => rfl
  | _ => cases h

/-- Where there is an outline these types were decoded. -/
theorem extendsWritten_of_ok {root : Node} {o : Outline} (h : ofTree source root = .ok o) :
    ExtendsWritten source root := by
  obtain ⟨cs, some_, rfl⟩ := map_eq_ok.1 h
  obtain ⟨os, read, rfl⟩ := map_eq_ok.1 some_
  intro n hn hasBody hasName clause s found place
  obtain ⟨o, -, read⟩ := exists_right_of_mem (mapM_eq_ok.1 read) hn
  obtain ⟨body, body_⟩ := Option.isSome_iff_exists.1 hasBody
  obtain ⟨name, name_⟩ := Option.isSome_iff_exists.1 hasName
  unfold classOutline? at read
  rw [body_, name_] at read
  obtain ⟨extended, read, -⟩ := bind_eq_ok.1 read
  unfold classExtends at read
  rw [found] at read
  unfold typeSpan? at place
  unfold extendedType at read
  split at place
  · cases place
  · next first rest parts =>
      cases place
      dsimp only at read
      rw [parts] at read
      obtain ⟨written, decoded, -⟩ := bind_eq_ok.1 read
      exact ⟨written, decoded⟩

namespace Sample

/-- The source of a mapper with one element and a comma. -/
def plain : Bytes := mapperSource "[C(),]"

/-- The same with a comment behind the name, behind the call and behind the comma. -/
def commented : Bytes := mapperSource "[C/**/()/**/,/**/]"

def plainTree : Node :=
  Node.mapperTree (Node.bracketed 44 50 44 []
    [Node.plainName 45 46, Node.callArguments 46 48 [], Node.token .comma 48 49])

def commentedTree : Node :=
  Node.mapperTree (Node.bracketed 44 62 44 []
    [Node.plainName 45 46, .mk .documentationComment true none ⟨46, 50⟩ [],
      Node.callArguments 50 52 [], .mk .documentationComment true none ⟨52, 56⟩ [],
      Node.token .comma 56 57, .mk .documentationComment true none ⟨57, 61⟩ []])

/-- The places of the leaves in both trees. -/
def leafPlaces : List (Span × Span) :=
  [(⟨0, 5⟩, ⟨0, 5⟩), (⟨6, 7⟩, ⟨6, 7⟩), (⟨8, 15⟩, ⟨8, 15⟩), (⟨16, 30⟩, ⟨16, 30⟩),
    (⟨30, 31⟩, ⟨30, 31⟩), (⟨31, 34⟩, ⟨31, 34⟩), (⟨35, 42⟩, ⟨35, 42⟩), (⟨42, 44⟩, ⟨42, 44⟩),
    (⟨44, 45⟩, ⟨44, 45⟩), (⟨45, 46⟩, ⟨45, 46⟩), (⟨46, 47⟩, ⟨50, 51⟩), (⟨47, 48⟩, ⟨51, 52⟩),
    (⟨48, 49⟩, ⟨56, 57⟩), (⟨49, 50⟩, ⟨61, 62⟩), (⟨50, 51⟩, ⟨62, 63⟩), (⟨51, 52⟩, ⟨63, 64⟩)]

theorem leaf_text : ∀ p ∈ leafPlaces, p.1.bytes plain = p.2.bytes commented := by
  decide +kernel

theorem readable_plainTree : plainTree.Readable := ⟨by decide, by decide, by decide⟩

theorem readable_commentedTree : commentedTree.Readable := ⟨by decide, by decide, by decide⟩

theorem alike_commentedTree : Node.Alike plain commented plainTree commentedTree := by
  have leaf {k : Kind} {named : Bool} {f : Option Field} {s s' : Span}
      (h : (s, s') ∈ leafPlaces) :
      Node.Alike plain commented (.mk k named f s []) (.mk k named f s' []) :=
    .leaf (leaf_text (s, s') h)
  have arguments : Node.Alike plain commented (Node.callArguments 46 48 [])
      (Node.callArguments 50 52 []) := by
    refine .node (.cons (.node (.cons (.node ?_) .nil)) .nil)
    exact .cons (leaf (by decide)) (.cons (leaf (by decide)) .nil)
  refine .node (.cons (.node ?_) .nil)
  refine .cons (leaf (by decide)) (.cons (leaf (by decide)) (.cons ?superclass (.cons ?body .nil)))
  case superclass =>
    exact .node (.cons (leaf (by decide)) (.cons (leaf (by decide)) .nil))
  case body =>
    refine .node (.cons (leaf (by decide)) (.cons ?getter (.cons ?list
      (.cons (leaf (by decide)) .nil))))
    case getter =>
      refine .node (.cons (.node ?_) .nil)
      exact .cons (leaf (by decide)) (.cons (leaf (by decide)) .nil)
    case list =>
      refine .node (.cons (leaf (by decide)) (.cons (.node ?_) (.cons (leaf (by decide)) .nil)))
      exact .cons (leaf (by decide)) (.cons (leaf (by decide)) (.cons arguments
        (.cons (leaf (by decide)) (.cons (leaf (by decide)) .nil))))

end Sample

end Outline

end RouteGraft
