import RouteGraft.Proofs.CommentedClasses

/-!
# Class headers

The header of a class says which type it extends and which types it implements.  A type is
written as names with dots between them, with type arguments behind the last one perhaps
(`WrittenType`), and comments may stand anywhere.  Behind `extends` there may also be the
mixins of the class, in the same clause, and a class may have mixins without extending
anything.

What is read off a header is the last name of each type (`header_read`).  The names in front
of it, its type arguments and the mixins are passed over.  Of the type that is extended the
text is kept as well, from its first name to the last one or to the type arguments.  The
mixins are no part of it, but the comments between the nodes of the type are.

The types behind `implements` are cut at their commas.  The commas in type arguments do not
count, since type arguments are a single node.
-/

namespace RouteGraft

open Dart (Node Kind Terminal)

namespace Dart.Node

/-- A sign or a keyword. -/
structure IsSign (t : Terminal) (n : Node) : Prop where
  kind : n.kind = .terminal t
  unnamed : n.named = false

/-- A name that is a part of a type. -/
structure IsNamePart (n : Node) : Prop where
  kind : n.kind.isIdentifier = true
  named : n.named = true

/-- A construct of some kind, as a part. -/
structure IsConstruct (c : Construct) (n : Node) : Prop where
  kind : n.kind = .construct c
  named : n.named = true

end Dart.Node

/-! ## Types as they are written -/

/-- A type in the header of a class. -/
structure WrittenType where
  /-- The names in front of the last one, each with the dot behind it. -/
  qualifiers : List (Node × Node)
  /-- The last name. -/
  name : Node
  /-- The type arguments. -/
  arguments : Option Node
  dotted : ∀ q ∈ qualifiers, q.1.IsNamePart ∧ q.2.IsSign .dot
  isName : name.IsNamePart
  areArguments : ∀ a ∈ arguments, a.IsConstruct .typeArguments

namespace WrittenType

variable (t : WrittenType)

/-- The nodes of a type, in order, without comments. -/
def nodes : List Node :=
  t.qualifiers.flatMap (fun q => [q.1, q.2]) ++ t.name :: t.arguments.toList

/-- The names of a type. -/
def names : List Node := t.qualifiers.map Prod.fst ++ [t.name]

/-- The first name of a type. -/
def first : Node :=
  match t.qualifiers with
  | [] => t.name
  | q :: _ => q.1

/-- The place of a type, from its first name to the last one or to its type arguments. -/
def span : Span := t.first.span.through (t.arguments.getD t.name).span

/-- The text of a type as it is written, and its plain name. -/
def read (source : Bytes) : Outline.Reading (String × String) := do
  let written ← t.span.text source
  return (written, ← t.name.span.text source)

/-! ### What the nodes of a type are -/

theorem mem_nodes {n : Node} (h : n ∈ t.nodes) :
    n.IsNamePart ∨ n.IsSign .dot ∨ n.IsConstruct .typeArguments := by
  simp only [nodes, List.mem_append, List.mem_flatMap, List.mem_cons, List.not_mem_nil,
    or_false, Option.mem_toList] at h
  rcases h with ⟨q, hq, rfl | rfl⟩ | rfl | isArguments
  · exact .inl (t.dotted q hq).1
  · exact .inr (.inl (t.dotted q hq).2)
  · exact .inl t.isName
  · exact .inr (.inr (t.areArguments n isArguments))

/-- The nodes of a type without its dots are its names and its type arguments. -/
theorem filter_named_nodes : t.nodes.filter Node.named = t.names ++ t.arguments.toList := by
  have qualified : (t.qualifiers.flatMap fun q => [q.1, q.2]).filter Node.named
      = t.qualifiers.map Prod.fst := by
    rw [List.filter_flatMap, ← List.flatMap_pure_eq_map]
    refine List.flatMap_congr fun q hq => ?_
    obtain ⟨name, dot⟩ := t.dotted q hq
    simp [name.named, dot.unnamed]
  have arguments : t.arguments.toList.filter Node.named = t.arguments.toList :=
    List.filter_eq_self.2 fun a ha => (t.areArguments a (Option.mem_toList.1 ha)).named
  rw [nodes, List.filter_append, qualified, List.filter_cons_of_pos t.isName.named, arguments,
    names, List.append_assoc, List.singleton_append]

theorem isComment_of_mem_nodes {n : Node} (h : n ∈ t.nodes) : n.isComment = false := by
  rcases t.mem_nodes h with name | dot | arguments
  · exact Kind.isComment_of_isRule (Kind.isRule_of_isIdentifier _ name.kind)
  · rw [Node.isComment, dot.kind]
    rfl
  · exact Kind.isComment_of_isRule (arguments.kind ▸ rfl)

theorem not_comma_of_mem_nodes {n : Node} (h : n ∈ t.nodes) : n.kind ≠ .terminal .comma := by
  intro comma
  rcases t.mem_nodes h with name | dot | arguments
  · have isName := name.kind
    rw [comma] at isName
    cases isName
  · cases comma.symm.trans dot.kind
  · cases comma.symm.trans arguments.kind

theorem filter_isItem_nodes : t.nodes.filter Node.isItem = t.names ++ t.arguments.toList := by
  rw [← t.filter_named_nodes]
  exact List.filter_congr fun n hn =>
    Node.isItem_eq_named (t.isComment_of_mem_nodes hn) (t.not_comma_of_mem_nodes hn)

/-- The names of a type are what is left of it without its type arguments, so the last
identifier is the last name. -/
theorem lastIdentifier :
    ((t.names ++ t.arguments.toList).filter (·.kind.isIdentifier)).getLast? = some t.name := by
  have names : t.names.filter (·.kind.isIdentifier) = t.names := by
    refine List.filter_eq_self.2 fun n hn => ?_
    rcases List.mem_append.1 hn with qualifier | last
    · obtain ⟨q, hq, rfl⟩ := List.mem_map.1 qualifier
      exact (t.dotted q hq).1.kind
    · rw [List.mem_singleton.1 last]
      exact t.isName.kind
  have arguments : t.arguments.toList.filter (·.kind.isIdentifier) = [] := by
    refine List.filter_eq_nil_iff.2 fun a ha => ?_
    rw [(t.areArguments a (Option.mem_toList.1 ha)).kind]
    exact Bool.false_ne_true
  rw [List.filter_append, names, arguments, List.append_nil, WrittenType.names,
    List.getLast?_concat]

/-- The first and the last node of a type, without its dots. -/
theorem exists_ends :
    ∃ rest, t.names ++ t.arguments.toList = t.first :: rest ∧
      rest.getLastD t.first = t.arguments.getD t.name := by
  unfold names first
  cases t.qualifiers with
  | nil =>
      refine ⟨t.arguments.toList, rfl, ?_⟩
      cases t.arguments <;> rfl
  | cons q more =>
      refine ⟨more.map Prod.fst ++ t.name :: t.arguments.toList, by simp, ?_⟩
      cases t.arguments <;> simp [List.getLastD_eq_getLast?]

end WrittenType

/-! ## Clauses -/

/-- What the clause of the extended type says, if there is one: the type and perhaps mixins
behind it, or mixins alone. -/
inductive ExtendsClause : Option Node → Option WrittenType → Prop
  | type {clause keyword : Node} {t : WrittenType} {mixins : Option Node} :
      keyword.IsSign .extends_ → (∀ m ∈ mixins, m.IsConstruct .mixins) →
        clause.content = keyword :: t.nodes ++ mixins.toList → ExtendsClause (some clause) (some t)
  | mixins {clause m : Node} :
      m.IsConstruct .mixins → clause.content = [m] → ExtendsClause (some clause) none
  | none : ExtendsClause none none

/-- Types with commas between them. -/
inductive Listed : List Node → List WrittenType → Prop
  | one (t : WrittenType) : Listed t.nodes [t]
  | cons (t : WrittenType) {comma : Node} {rest : List Node} {ts : List WrittenType} :
      comma.IsSign .comma → Listed rest ts → Listed (t.nodes ++ comma :: rest) (t :: ts)

/-- What the clause of the implemented types says, if there is one. -/
inductive ImplementsClause : Option Node → List WrittenType → Prop
  | types {clause keyword : Node} {listed : List Node} {ts : List WrittenType} :
      keyword.IsSign .implements_ → Listed listed ts → clause.content = keyword :: listed →
        ImplementsClause (some clause) ts
  | none : ImplementsClause none []

/-- The header of a class, with the type that it extends and those that it implements. -/
structure Header (n : Node) (extended : Option WrittenType) (implemented : List WrittenType) :
    Prop where
  extends_ : ExtendsClause (n.child? (· = .construct .superclass)) extended
  implements_ : ImplementsClause (n.child? (· = .construct .interfaces)) implemented

namespace Outline

variable {source : Bytes} {n : Node}

/-! ## The extended type -/

/-- The parts of a clause with a type are those of the type, once the mixins are left out. -/
theorem extendedParts {clause keyword : Node} {t : WrittenType} {mixins : Option Node}
    (extends_ : keyword.IsSign .extends_) (areMixins : ∀ m ∈ mixins, m.IsConstruct .mixins)
    (content : clause.content = keyword :: t.nodes ++ mixins.toList) :
    clause.parts.filter (·.kind ≠ .construct .mixins) = t.names ++ t.arguments.toList := by
  have left : mixins.toList.filter (·.kind ≠ .construct .mixins) = [] := by
    refine List.filter_eq_nil_iff.2 fun m hm => ?_
    simp [(areMixins m (Option.mem_toList.1 hm)).kind]
  have kept : ∀ m ∈ t.nodes, m.kind ≠ .construct .mixins := by
    intro m hm isMixins
    rcases t.mem_nodes hm with name | dot | arguments
    · have isName := name.kind
      rw [isMixins] at isName
      cases isName
    · cases isMixins.symm.trans dot.kind
    · cases isMixins.symm.trans arguments.kind
  have ofType : t.nodes.filter (·.kind ≠ .construct .mixins) = t.nodes :=
    List.filter_eq_self.2 fun m hm => decide_eq_true (kept m hm)
  rw [Node.parts_eq_content, content, List.cons_append,
    List.filter_cons_of_neg (by simp [extends_.unnamed]), List.filter_append, List.filter_append,
    List.filter_comm, ofType, List.filter_comm, left, List.filter_nil, List.append_nil,
    t.filter_named_nodes]

/-- Of the extended type the text and the last name are read. -/
theorem extendedType_eq {clause keyword : Node} {t : WrittenType} {mixins : Option Node}
    (extends_ : keyword.IsSign .extends_) (areMixins : ∀ m ∈ mixins, m.IsConstruct .mixins)
    (content : clause.content = keyword :: t.nodes ++ mixins.toList) :
    extendedType source clause = (t.read source).map some := by
  obtain ⟨rest, shape, last⟩ := t.exists_ends
  have name := t.lastIdentifier
  rw [shape] at name
  unfold extendedType
  rw [extendedParts extends_ areMixins content, shape]
  dsimp only
  rw [name, last, WrittenType.read, WrittenType.span]
  cases Span.text source _ with
  | error e => rfl
  | ok written =>
      cases text : t.name.span.text source <;> simp [bind, Except.bind, Except.map, text, pure,
        Except.pure]

theorem classExtends_of_clause {extended : Option WrittenType}
    (h : ExtendsClause (n.child? (· = .construct .superclass)) extended) :
    classExtends source n = extended.mapM (·.read source) := by
  unfold classExtends
  generalize n.child? _ = clause at h
  cases h with
  | type extends_ areMixins content => exact extendedType_eq extends_ areMixins content
  | @mixins clause m isMixins content =>
      have empty : clause.parts.filter (·.kind ≠ .construct .mixins) = [] := by
        rw [Node.parts_eq_content, content]
        simp [isMixins.kind, isMixins.named]
      dsimp only
      rw [extendedType, empty]
      rfl
  | none => rfl

/-! ## The implemented types -/

/-- The groups of listed types are the nodes of the types without their dots. -/
theorem groups_of_listed {listed : List Node} {ts : List WrittenType} (h : Listed listed ts)
    (trailing : Bool) :
    (Node.commaGroupsFrom [] trailing listed).groups
      = ts.map fun t => t.names ++ t.arguments.toList := by
  have single (t : WrittenType) (trailing : Bool) :
      (Node.commaGroupsFrom [] trailing t.nodes).groups = [t.names ++ t.arguments.toList] := by
    have group := @Node.commaGroupsFrom_append _ [] [] trailing
      fun n hn => t.not_comma_of_mem_nodes (n := n) hn
    obtain ⟨rest, shape, -⟩ := t.exists_ends
    rw [List.append_nil, List.nil_append, t.filter_isItem_nodes, shape] at group
    rw [group, shape]
    rfl
  induction h generalizing trailing with
  | one t => exact single t trailing
  | cons t comma later ih =>
      rw [Node.commaGroupsFrom_comma comma.kind, single, ih]
      rfl

/-- Of each implemented type the last name is read. -/
theorem classImplements_of_clause {implemented : List WrittenType}
    (h : ImplementsClause (n.child? (· = .construct .interfaces)) implemented) :
    classImplements source n = implemented.mapM (·.name.span.text source) := by
  unfold classImplements
  generalize n.child? _ = clause at h
  cases h with
  | none => rfl
  | @types clause keyword listed ts implements_ isListed content =>
      have skipped : Node.commaGroups clause.children = Node.commaGroupsFrom [] false listed := by
        rw [Node.commaGroups, ← Node.commaGroupsFrom_filter, ← Node.content, content,
          ← List.singleton_append, Node.commaGroupsFrom_append fun m hm => ?_]
        · simp [Node.isItem, Node.isPart, implements_.unnamed]
        · rw [List.mem_singleton.1 hm, implements_.kind]
          decide
      have named (t : WrittenType) :
          interfaceName? (t.names ++ t.arguments.toList) = some t.name := by
        rw [interfaceName?, t.lastIdentifier]
      have names : (implemented.map fun t => t.names ++ t.arguments.toList).filterMap interfaceName?
          = implemented.map (·.name) := by
        rw [List.filterMap_map, ← List.filterMap_eq_map]
        exact List.filterMap_congr fun t _ => named t
      dsimp only
      rw [implementedTypes, skipped, groups_of_listed isListed, names, List.mapM_map]
      rfl

/-! ## Headers -/

/-- What is read off the header of a class.  The plain name of the extended type is its last
name, and its text goes from its first name to the last one or to its type arguments.  Each
implemented type gives one name, which is its last one, in order.  These are equations
between readings, so nothing is read but these texts, and if one of them cannot be decoded,
that is the error.  A class that has the header has these names, and no text and no name of
an extended type if it extends nothing, be it that it has mixins or not. -/
theorem header_read {extended : Option WrittenType} {implemented : List WrittenType}
    (header : Header n extended implemented) (source : Bytes) :
    classExtends source n = extended.mapM (·.read source) ∧
      classImplements source n = implemented.mapM (·.name.span.text source) ∧
      ∀ c, classOutline? source n = .ok (some c) →
        (extended = none → c.superclass = none ∧ c.superclassName = none) ∧
        (∀ t, extended = some t → ∃ written name, t.span.text source = .ok written ∧
          t.name.span.text source = .ok name ∧ c.superclass = some written ∧
          c.superclassName = some name) ∧
        List.Forall₂ (fun t name => t.name.span.text source = .ok name) implemented
          c.interfaces := by
  have extends_ := @classExtends_of_clause source _ _ header.extends_
  have implements_ := @classImplements_of_clause source _ _ header.implements_
  refine ⟨extends_, implements_, fun c read => ?_⟩
  obtain ⟨-, -, read, -, -, extendsRead, -, implementsRead, -, -, superclass, superclassName, -⟩ :=
    classOutline?_eq_some.1 read
  rw [extends_] at extendsRead
  rw [implements_] at implementsRead
  refine ⟨?none, ?some, mapM_eq_ok.1 implementsRead⟩
  case none =>
    rintro rfl
    cases extendsRead
    exact ⟨superclass, superclassName⟩
  case some =>
    rintro t rfl
    obtain ⟨pair, typeRead, rfl⟩ := map_eq_ok.1 extendsRead
    obtain ⟨written, text, typeRead⟩ := bind_eq_ok.1 typeRead
    obtain ⟨name, nameText, rfl⟩ := map_eq_ok.1 typeRead
    exact ⟨written, name, text, nameText, superclass, superclassName⟩

namespace Sample

/-- A class that extends a type with a name in front and type arguments, with a comment between
the two names, has mixins, and implements two types. -/
def header : Bytes :=
  Utf8.encode "class A extends p/**/.B<C,D>with M implements q.I<J>,/**/K\x7b\x7d"

/-- Type arguments, with what is inside of their brackets. -/
def typeArguments (start stop : Int) (inside : List Node) : Node :=
  Node.construct .typeArguments start stop
    (Node.token .less start (start + 1) :: inside ++ [Node.token .greater (stop - 1) stop])

/-- The type that the class extends. -/
def extended : WrittenType where
  qualifiers := [(Node.typeName 16 17, Node.token .dot 21 22)]
  name := Node.typeName 22 23
  arguments := some (typeArguments 23 28
    [Node.typeName 24 25, Node.token .comma 25 26, Node.typeName 26 27])
  dotted := by simpa using ⟨⟨rfl, rfl⟩, ⟨rfl, rfl⟩⟩
  isName := ⟨rfl, rfl⟩
  areArguments := by simpa using ⟨rfl, rfl⟩

/-- The first type that it implements. -/
def firstImplemented : WrittenType where
  qualifiers := [(Node.typeName 46 47, Node.token .dot 47 48)]
  name := Node.typeName 48 49
  arguments := some (typeArguments 49 52 [Node.typeName 50 51])
  dotted := by simpa using ⟨⟨rfl, rfl⟩, ⟨rfl, rfl⟩⟩
  isName := ⟨rfl, rfl⟩
  areArguments := by simpa using ⟨rfl, rfl⟩

/-- The second one. -/
def secondImplemented : WrittenType where
  qualifiers := []
  name := Node.typeName 57 58
  arguments := none
  dotted := nofun
  isName := ⟨rfl, rfl⟩
  areArguments := nofun

/-- The comma between them. -/
def implementedComma : Node := Node.token .comma 52 53

/-- The tree of the class. -/
def headerTree : Node :=
  Node.construct .classDefinition 0 60
    [Node.token .class_ 0 5, (Node.plainName 6 7).withField .name,
      Node.construct .superclass 8 34
        (Node.token .extends_ 8 15 ::
          (extended.nodes.insertIdx 1 (.mk .documentationComment true none ⟨17, 21⟩ []) ++
            [Node.construct .mixins 28 34 [Node.token .with_ 28 32, Node.typeName 33 34]])),
      Node.construct .interfaces 35 58
        (Node.token .implements_ 35 45 ::
          (firstImplemented.nodes ++ implementedComma ::
            .mk .documentationComment true none ⟨53, 57⟩ [] :: secondImplemented.nodes)),
      (Node.construct .classBody 58 60
        [Node.token .openBrace 58 59, Node.token .closeBrace 59 60]).withField .body]

/-- The header of the class. -/
theorem header_headerTree :
    Header headerTree (some extended) [firstImplemented, secondImplemented] where
  extends_ :=
    @ExtendsClause.type _ (Node.token .extends_ 8 15) _
      (some (Node.construct .mixins 28 34 [Node.token .with_ 28 32, Node.typeName 33 34]))
      ⟨rfl, rfl⟩ (by simpa using ⟨rfl, rfl⟩) rfl
  implements_ :=
    @ImplementsClause.types _ (Node.token .implements_ 35 45) _ _ ⟨rfl, rfl⟩
      (@Listed.cons firstImplemented implementedComma _ _ ⟨rfl, rfl⟩ (.one secondImplemented)) rfl

end Sample

theorem header_read_commentedType :
    Header Sample.headerTree (some Sample.extended)
        [Sample.firstImplemented, Sample.secondImplemented] ∧
      classExtends Sample.header Sample.headerTree = .ok (some ("p/**/.B<C,D>", "B")) ∧
      classImplements Sample.header Sample.headerTree = .ok ["I", "K"] ∧
      ∃ c, classOutline? Sample.header Sample.headerTree = .ok (some c) ∧
        (∃ written name, Sample.extended.span.text Sample.header = .ok written ∧
          Sample.extended.name.span.text Sample.header = .ok name ∧
          c.superclass = some written ∧ c.superclassName = some name) ∧
        c.interfaces.length = 2 := by
  obtain ⟨extends_, implements_, ofClass⟩ := header_read Sample.header_headerTree Sample.header
  refine ⟨Sample.header_headerTree, extends_.trans rfl, implements_.trans rfl, ?_⟩
  obtain ⟨-, extended, interfaces⟩ := ofClass _ rfl
  exact ⟨_, rfl, extended _ rfl, interfaces.length_eq.symm⟩

end Outline

end RouteGraft
