import RouteGraft.Proofs.Reader

/-!
# Readings of changed trees

A reader goes by the kinds, the flags and the fields of nodes, and by the text of
the few nodes that are names.  So a tree in which every node is changed by a
function that keeps kinds, flags and fields (`Keeps`) is searched like the old
one, and what was found in the old tree is found in the new one, changed.

The readers of arguments, elements and lists are followed one by one.  Each lemma
asks for what its reader asks for: that children are changed one by one, that a
name reads the same, and that the parts below are read in a way that goes with
the old reading.
-/

namespace RouteGraft

open Dart (Node Kind Field)

namespace Dart.Node

/-! ## Searches in changed trees -/

/-- A change of nodes that keeps what searches go by. -/
structure Keeps (f : Node → Node) : Prop where
  kind : ∀ n, (f n).kind = n.kind
  named : ∀ n, (f n).named = n.named
  field : ∀ n, (f n).field = n.field

namespace Keeps

variable {f : Node → Node} (h : Keeps f)
include h

theorem isComment (n : Node) : (f n).isComment = n.isComment := by
  rw [Node.isComment, h.kind, Node.isComment]

theorem isPart (n : Node) : (f n).isPart = n.isPart := by
  rw [Node.isPart, h.named, h.isComment, Node.isPart]

theorem isItem (n : Node) : (f n).isItem = n.isItem := by
  rw [Node.isItem, h.isPart, h.kind, Node.isItem]

theorem parts {n n' : Node} (children : n'.children = n.children.map f) :
    n'.parts = n.parts.map f := by
  rw [Node.parts, children, List.filter_map, Node.parts]
  exact congrArg (List.map f) (List.filter_congr fun c _ => h.isPart c)

theorem filter_kind (wanted : Kind → Bool) (cs : List Node) :
    (cs.map f).filter (wanted ·.kind) = (cs.filter (wanted ·.kind)).map f := by
  rw [List.filter_map]
  exact congrArg (List.map f) (List.filter_congr fun c _ => congrArg wanted (h.kind c))

theorem find?_kind (wanted : Kind → Bool) (cs : List Node) :
    (cs.map f).find? (wanted ·.kind) = (cs.find? (wanted ·.kind)).map f := by
  rw [List.find?_map]
  exact congrArg (Option.map f) (congrArg (cs.find? ·) (funext fun c => congrArg wanted (h.kind c)))

theorem child? {n n' : Node} (children : n'.children = n.children.map f) (wanted : Kind → Bool) :
    n'.child? wanted = (n.child? wanted).map f := by
  rw [Node.child?, children, h.find?_kind, Node.child?]

theorem fieldOrChild? {n n' : Node} (children : n'.children = n.children.map f) (field : Field)
    (wanted : Kind → Bool) :
    n'.fieldOrChild? field wanted = (n.fieldOrChild? field wanted).map f := by
  have inField : n'.children.find? (·.field = some field)
      = (n.children.find? (·.field = some field)).map f := by
    rw [children, List.find?_map]
    refine congrArg (Option.map f) (congrArg (n.children.find? ·) (funext fun c => ?_))
    rw [Function.comp_apply, h.field]
  rw [Node.fieldOrChild?, Node.fieldOrChild?, inField, h.child? children]
  cases n.children.find? (·.field = some field) <;> rfl

/-- A search over two levels goes by the nodes on them. -/
theorem descendant? {n n' : Node} (children : n'.children = n.children.map f)
    (grandchildren : ∀ c ∈ n.children, (f c).children = c.children.map f) (wanted : Kind → Bool) :
    n'.descendant? wanted 2 = (n.descendant? wanted 2).map f := by
  have below : (n.children.map f).flatMap Node.children
      = (n.children.flatMap Node.children).map f := by
    rw [List.flatMap_map, List.map_flatMap]
    exact List.flatMap_congr grandchildren
  simp only [Node.descendant?, findOnLevels, children, below, h.find?_kind]
  cases n.children.find? (wanted ·.kind) with
  | some c => rfl
  | none => cases (n.children.flatMap Node.children).find? (wanted ·.kind) <;> rfl

theorem commaGroupsFrom (open_ : List Node) (trailing : Bool) (cs : List Node) :
    Node.commaGroupsFrom (open_.map f) trailing (cs.map f)
      = ⟨(Node.commaGroupsFrom open_ trailing cs).groups.map (List.map f),
        (Node.commaGroupsFrom open_ trailing cs).trailing⟩ := by
  induction cs generalizing open_ trailing with
  | nil =>
      rw [List.map_nil, Node.commaGroupsFrom, Node.commaGroupsFrom]
      cases open_ <;> rfl
  | cons c rest ih =>
      rw [List.map_cons, Node.commaGroupsFrom, Node.commaGroupsFrom, h.isComment, h.kind, h.named]
      split
      · exact ih open_ trailing
      · split
        · have later := ih [] true
          rw [List.map_nil] at later
          rw [later]
          cases open_ <;> rfl
        · split
          · have later := ih (open_ ++ [c]) false
            rwa [List.map_append, List.map_singleton] at later
          · exact ih open_ trailing

theorem commaGroups (cs : List Node) :
    Node.commaGroups (cs.map f)
      = ⟨(Node.commaGroups cs).groups.map (List.map f), (Node.commaGroups cs).trailing⟩ :=
  h.commaGroupsFrom [] false cs

end Keeps

end Dart.Node

/-- A member with a change of the list it returns. -/
def Member.mapList (g : ListLiteral → ListLiteral) (m : Member) : Member :=
  { m with returnedList := m.returnedList.map g }

/-- A class with the same names and the same members, apart from a change of the
lists that they return. -/
structure ClassOutline.Regrown (g : ListLiteral → ListLiteral) (c c' : ClassOutline) : Prop where
  name : c'.name = c.name
  superclass : c'.superclass = c.superclass
  superclassName : c'.superclassName = c.superclassName
  interfaces : c'.interfaces = c.interfaces
  members : c'.members = c.members.map (Member.mapList g)

namespace Outline

variable {f : Node → Node} {list list' : Node → Reading ListLiteral} {source other : Bytes}
variable {g : ListLiteral → ListLiteral} {gArgument : NamedArgument → NamedArgument}
variable {gElement : ListElement → ListElement}

/-! ## Brackets -/

/-- The nodes inside of the brackets of a changed list, and the offset of its
closing bracket. -/
theorem insideBrackets_map (keeps : Node.Keeps f) {n n' : Node}
    (children : n'.children = n.children.map f) :
    insideBrackets n' = ((insideBrackets n).1.map f,
      match n.children.reverse.find? (·.kind = .terminal .closeBracket) with
      | none => n'.span.stop
      | some closing => (f closing).span.start) := by
  have opened : n'.children.dropWhile (·.kind ≠ .terminal .openBracket)
      = (n.children.dropWhile (·.kind ≠ .terminal .openBracket)).map f := by
    rw [children, List.dropWhile_map]
    refine congrArg (List.map f) (congrArg (n.children.dropWhile ·) (funext fun c => ?_))
    rw [Function.comp_apply, keeps.kind]
  have closed : n'.children.reverse.takeWhile (·.kind ≠ .terminal .closeBracket)
      = (n.children.reverse.takeWhile (·.kind ≠ .terminal .closeBracket)).map f := by
    rw [children, ← List.map_reverse, List.takeWhile_map]
    refine congrArg (List.map f) (congrArg (n.children.reverse.takeWhile ·) (funext fun c => ?_))
    rw [Function.comp_apply, keeps.kind]
  have closing : n'.children.reverse.find? (·.kind = .terminal .closeBracket)
      = (n.children.reverse.find? (·.kind = .terminal .closeBracket)).map f := by
    rw [children, ← List.map_reverse,
      keeps.find?_kind fun k => decide (k = .terminal .closeBracket)]
  have behind : behindOpening n'.children = (behindOpening n.children).map f := by
    rw [behindOpening, behindOpening, opened, List.isEmpty_map]
    split
    · rw [children]
    · rw [List.map_drop]
  simp only [behindOpening] at behind
  simp only [insideBrackets, behind, closed, closing]
  cases n.children.reverse.find? (·.kind = .terminal .closeBracket) with
  | none => rfl
  | some closing => simp only [Option.map_some, List.length_map, List.map_take]

/-! ## Arguments -/

/-- The name of an argument is found where it was. -/
theorem argumentName?_map (keeps : Node.Keeps f) {a a' : Node}
    (children : a'.children = a.children.map f)
    (label : ∀ c ∈ a.children, c.kind = .construct .label →
      (f c).children = c.children.map f) :
    argumentName? a' = (argumentName? a).map f := by
  rw [argumentName?, argumentName?, keeps.child? children]
  cases found : a.child? (· = .construct .label) with
  | none => rfl
  | some c =>
      obtain ⟨hc, kind⟩ := Node.child?_eq_some found
      exact keeps.child? (label c hc (by simpa using kind)) _

/-- The value of an argument is found where it was. -/
theorem argumentValue_map (keeps : Node.Keeps f) {a a' : Node} {value : Option ListLiteral}
    (children : a'.children = a.children.map f)
    (lists : ∀ v ∈ a.parts, v.kind = .construct .listLiteral → ∀ l, list v = .ok l →
      list' (f v) = .ok (g l))
    (h : argumentValue list a = .ok value) : argumentValue list' a' = .ok (value.map g) := by
  have parts : a'.parts.filter (·.kind ≠ .construct .label)
      = (a.parts.filter (·.kind ≠ .construct .label)).map f := by
    rw [keeps.parts children, keeps.filter_kind fun k => decide (k ≠ .construct .label)]
  unfold argumentValue at h ⊢
  rw [parts]
  cases shape : a.parts.filter (·.kind ≠ .construct .label) with
  | nil =>
      rw [shape] at h
      cases h
      rfl
  | cons v rest =>
      rw [shape] at h
      cases rest with
      | cons w rest =>
          cases h
          rfl
      | nil =>
          have isPart : v ∈ a.parts := List.mem_of_mem_filter (shape ▸ List.mem_singleton_self v)
          simp only [List.map_cons, List.map_nil, keeps.kind] at h ⊢
          split at h
          · next kind =>
              obtain ⟨l, read, eq⟩ := map_eq_ok.1 h
              cases eq
              rw [if_pos kind, lists v isPart kind l read]
              rfl
          · next kind =>
              cases h
              rw [if_neg kind]
              rfl

/-- An argument is read as it was if its name has the same text and its value is
read in a way that goes with the old one. -/
theorem namedArgument?_map (keeps : Node.Keeps f) {a a' : Node} {o : Option NamedArgument}
    (children : a'.children = a.children.map f)
    (label : ∀ c ∈ a.children, c.kind = .construct .label →
      (f c).children = c.children.map f)
    (name : ∀ m, argumentName? a = some m → (f m).span.text other = m.span.text source)
    (value : ∀ v, argumentValue list a = .ok v → argumentValue list' a' = .ok (v.map g))
    (h : namedArgument? list source a = .ok o) :
    namedArgument? list' other a' = .ok (o.map fun x => ⟨x.name, a'.span, x.value.map g⟩) := by
  unfold namedArgument? at h ⊢
  rw [argumentName?_map keeps children label]
  cases found : argumentName? a with
  | none =>
      rw [found] at h
      cases h
      rfl
  | some m =>
      rw [found] at h
      simp only [bind_eq_ok] at h
      obtain ⟨v, read, text, decoded, eq⟩ := h
      cases eq
      simp only [Option.map_some, value v read, name m found, decoded]
      rfl

/-- The named arguments of a call are read one by one. -/
theorem namedArguments_map (keeps : Node.Keeps f) {arguments arguments' : Node}
    {as : List NamedArgument} (children : arguments'.children = arguments.children.map f)
    (each : ∀ a ∈ arguments.parts, a.kind = .construct .namedArgument →
      ∀ o, namedArgument? list source a = .ok o →
        namedArgument? list' other (f a) = .ok (o.map gArgument))
    (h : namedArguments list source arguments = .ok as) :
    namedArguments list' other arguments' = .ok (as.map gArgument) := by
  obtain ⟨os, read, rfl⟩ := map_eq_ok.1 h
  have parts : arguments'.parts.filter (·.kind = .construct .namedArgument)
      = (arguments.parts.filter (·.kind = .construct .namedArgument)).map f := by
    rw [keeps.parts children, keeps.filter_kind fun k => decide (k = .construct .namedArgument)]
  refine map_eq_ok.2 ⟨os.map (Option.map gArgument), ?_, ?_⟩
  · rw [parts, mapM_eq_ok]
    refine forall₂_map_of_mem (mapM_eq_ok.1 read) fun a ha o _ read => ?_
    obtain ⟨isPart, kind⟩ := List.mem_filter.1 ha
    exact each a isPart (by simpa using kind) o read
  · rw [present, present, List.filterMap_map, List.map_filterMap]
    rfl

/-! ## Elements -/

/-- The arguments of a call of a plain name are found where they were. -/
theorem plainCall?_map (keeps : Node.Keeps f) {group : List Node}
    (levels : ∀ n ∈ group, n.kind = .construct .selector → (f n).children = n.children.map f ∧
      ∀ c ∈ n.children, (f c).children = c.children.map f) :
    plainCall? (group.map f) = (plainCall? group).map (Prod.map f f) := by
  rcases group with _ | ⟨name, _ | ⟨call, _ | ⟨other, rest⟩⟩⟩
  · rfl
  · rfl
  · simp only [List.map_cons, List.map_nil, plainCall?, keeps.kind]
    split
    · next kinds =>
        obtain ⟨children, grandchildren⟩ := levels call (by simp) kinds.2
        rw [keeps.descendant? children grandchildren, Option.map_map, Option.map_map]
        rfl
    · rfl
  · rfl

/-- An element is read as it was if the name it calls has the same text and its
arguments are read in a way that goes with the old one. -/
theorem ReadsElement.map (keeps : Node.Keeps f) {group : List Node} {e : ListElement}
    (h : ReadsElement list source group e)
    (levels : ∀ n ∈ group, n.kind = .construct .selector → (f n).children = n.children.map f ∧
      ∀ c ∈ n.children, (f c).children = c.children.map f)
    (callee : ∀ n ∈ group, n.kind = .identifier → (f n).span.text other = n.span.text source)
    (each : ∀ name arguments as, plainCall? group = some (name, arguments) →
      namedArguments list source arguments = .ok as →
        namedArguments list' other (f arguments) = .ok (as.map gArgument)) :
    ∃ first rest, group = first :: rest ∧
      ReadsElement list' other (group.map f)
        ⟨(f first).span.through (f (rest.getLastD first)).span, e.callee,
          e.namedArguments.map gArgument⟩ := by
  obtain ⟨first, rest, rfl, read⟩ := h
  refine ⟨first, rest, rfl, f first, rest.map f, rfl, ?_⟩
  have last : (rest.map f).getLastD (f first) = f (rest.getLastD first) := by
    rw [List.getLastD_eq_getLast?, List.getLastD_eq_getLast?, List.getLast?_map]
    cases rest.getLast? <;> rfl
  have call := plainCall?_map keeps levels
  rw [List.map_cons] at call
  unfold listElement at read ⊢
  rw [call, last]
  cases plain : plainCall? (first :: rest) with
  | none =>
      rw [plain] at read
      cases read
      rfl
  | some found =>
      obtain ⟨name, arguments⟩ := found
      rw [plain] at read
      simp only [bind_eq_ok] at read
      obtain ⟨text, decoded, as, argumentsRead, eq⟩ := read
      cases eq
      obtain ⟨selector, group, kind, -, -⟩ := plainCall?_eq_some.1 plain
      have same := callee name (by simp [group]) kind
      simp only [Option.map_some, Prod.map_apply, same, decoded,
        each name arguments as plain argumentsRead]
      rfl

/-! ## Lists -/

/-- The elements of a list in which nodes are changed one by one are read one by
one. -/
theorem listLiteralWith_map (keeps : Node.Keeps f) {n n' : Node} {l : ListLiteral}
    (children : n'.children = n.children.map f)
    (each : ∀ group ∈ (Node.commaGroups (insideBrackets n).1).groups, ∀ e,
      ReadsElement list source group e → ReadsElement list' other (group.map f) (gElement e))
    (h : listLiteralWith list source n = .ok l) :
    listLiteralWith list' other n'
      = .ok ⟨n'.span, (insideBrackets n').2, l.elements.map gElement, l.hasTrailingComma⟩ := by
  obtain ⟨-, -, trailing, related⟩ := listLiteralWith_eq_ok.1 h
  have groups : Node.commaGroups (insideBrackets n').1
      = ⟨(Node.commaGroups (insideBrackets n).1).groups.map (List.map f),
        (Node.commaGroups (insideBrackets n).1).trailing⟩ := by
    rw [insideBrackets_map keeps children, keeps.commaGroups]
  refine listLiteralWith_eq_ok.2 ⟨rfl, rfl, ?_, ?_⟩
  · rw [groups, trailing]
  · rw [groups]
    exact forall₂_map_of_mem related fun group hgroup e _ read => each group hgroup e read

/-! ## Members -/

/-- The list that an expression is, if it is one, is read in a way that goes with
the old one. -/
theorem expressionList_map (keeps : Node.Keeps f) {e : Node} {value : Option ListLiteral}
    (lists : e.kind = .construct .listLiteral → ∀ l, listLiteral source e = .ok l →
      listLiteral other (f e) = .ok (g l))
    (h : expressionList source e = .ok value) :
    expressionList other (f e) = .ok (value.map g) := by
  unfold expressionList at h ⊢
  rw [keeps.kind]
  split at h
  · next kind =>
      obtain ⟨l, read, eq⟩ := map_eq_ok.1 h
      cases eq
      rw [if_pos kind, lists kind l read]
      rfl
  · next kind =>
      cases h
      rw [if_neg kind]
      rfl

/-- A member stays what it is, apart from the list that is its body. -/
theorem memberWithBody_map (keeps : Node.Keeps f) {name : String} {kind : MemberKind}
    {b b' : Node} {m : Member} (children : b'.children = b.children.map f)
    (lists : ∀ e ∈ b.parts, e.kind = .construct .listLiteral →
      ∀ l, listLiteral source e = .ok l → listLiteral other (f e) = .ok (g l))
    (h : memberWithBody source name kind b = .ok m) :
    memberWithBody other name kind b' = .ok (m.mapList g) := by
  have parts := keeps.parts children
  have blocks : b'.parts.any (·.kind = .construct .block)
      = b.parts.any (·.kind = .construct .block) := by
    rw [parts, List.any_map]
    refine congrArg (List.any b.parts) (funext fun c => ?_)
    rw [Function.comp_apply, keeps.kind]
  unfold memberWithBody at h ⊢
  rw [blocks, parts]
  split at h
  · next block =>
      cases h
      rw [if_pos block]
      rfl
  · next block =>
      rw [if_neg block]
      rcases shape : b.parts with _ | ⟨e, _ | ⟨e', rest⟩⟩
      · rw [shape] at h
        cases h
        rfl
      · rw [shape] at h
        obtain ⟨value, read, eq⟩ := bind_eq_ok.1 h
        cases eq
        have isPart : e ∈ b.parts := shape ▸ List.mem_singleton_self e
        simp only [List.map_cons, List.map_nil, keeps.kind,
          expressionList_map keeps (lists e isPart) read]
        rfl
      · rw [shape] at h
        cases h
        rfl

/-- A node that declares the member another one declares. -/
def SameSignature (source other : Bytes) (c c' : Node) : Prop :=
  ∃ f : Node → Node, signature? c' = (signature? c).map (Prod.map f id) ∧
    ∀ n kind, signature? c = some (n, kind) → (f n).span.text other = n.span.text source

theorem Pending.flush_mapList (p : Pending) : p.flush.map (Member.mapList g) = p.flush := by
  unfold Pending.flush
  split <;> rfl

/-- The members of a class are read one by one. -/
theorem membersFrom_map (keeps : Node.Keeps f) {p : Pending} {cs : List Node} {ms : List Member}
    (bodies : ∀ c ∈ cs, c.kind = .construct .functionBody → ∀ name kind m,
      memberWithBody source name kind c = .ok m →
        memberWithBody other name kind (f c) = .ok (m.mapList g))
    (signatures : ∀ c ∈ cs, c.kind ≠ .construct .functionBody →
      SameSignature source other c (f c))
    (h : membersFrom source p cs = .ok ms) :
    membersFrom other p (cs.map f) = .ok (ms.map (Member.mapList g)) := by
  rw [membersFrom_eq_ok] at h ⊢
  induction h with
  | done p =>
      rw [Pending.flush_mapList]
      exact .done p
  | comment comment _ ih =>
      obtain ⟨-, bodies⟩ := List.forall_mem_cons.1 bodies
      obtain ⟨-, signatures⟩ := List.forall_mem_cons.1 signatures
      exact .comment ((keeps.isComment _).trans comment) (ih bodies signatures)
  | stray isBody _ ih =>
      obtain ⟨-, bodies⟩ := List.forall_mem_cons.1 bodies
      obtain ⟨-, signatures⟩ := List.forall_mem_cons.1 signatures
      exact .stray ((keeps.kind _).trans isBody) (ih bodies signatures)
  | @body name kind _ _ m _ isBody member _ ih =>
      obtain ⟨here, bodies⟩ := List.forall_mem_cons.1 bodies
      obtain ⟨-, signatures⟩ := List.forall_mem_cons.1 signatures
      exact .body ((keeps.kind _).trans isBody) (here isBody name kind m member)
        (ih bodies signatures)
  | other plain noBody none_ _ ih =>
      obtain ⟨-, bodies⟩ := List.forall_mem_cons.1 bodies
      obtain ⟨here, signatures⟩ := List.forall_mem_cons.1 signatures
      obtain ⟨change, same, -⟩ := here noBody
      rw [List.map_append, Pending.flush_mapList]
      refine .other ((keeps.isComment _).trans plain) ((keeps.kind _).trans_ne noBody) ?_
        (ih bodies signatures)
      rw [same, none_, Option.map_none]
  | @signature _ c n _ kind _ _ declares text _ ih =>
      obtain ⟨-, bodies⟩ := List.forall_mem_cons.1 bodies
      obtain ⟨here, signatures⟩ := List.forall_mem_cons.1 signatures
      obtain ⟨change, same, names⟩ := here (kind_of_signature declares).1
      have declares' : signature? (f c) = some (change n, kind) := by
        rw [same, declares]
        rfl
      rw [List.map_append, Pending.flush_mapList]
      exact .signature declares' ((names n kind declares).trans text) (ih bodies signatures)

/-! ## Classes -/

/-- The class that a node declares is built on what it was built on, and has its
members. -/
theorem classOutline?_map (keeps : Node.Keeps f) {n n' : Node} {o : Option ClassOutline}
    (children : n'.children = n.children.map f)
    (name : ∀ m, className? n = some m → (f m).span.text other = m.span.text source)
    (extended : classExtends other n' = classExtends source n)
    (interfaces : ∀ types, classImplements source n = .ok types →
      classImplements other n' = .ok types)
    (members : ∀ body, classBody? n = some body → ∀ ms,
      membersFrom source none body.children = .ok ms →
        membersFrom other none (f body).children = .ok (ms.map (Member.mapList g)))
    (h : classOutline? source n = .ok o) :
    ∃ o', classOutline? other n' = .ok o' ∧ Option.Rel (ClassOutline.Regrown g) o o' := by
  unfold classOutline? at h ⊢
  have body : classBody? n' = (classBody? n).map f := keeps.fieldOrChild? children _ _
  have nameNode : className? n' = (className? n).map f := keeps.fieldOrChild? children _ _
  rw [body, nameNode]
  cases isBody : classBody? n with
  | none =>
      rw [isBody] at h
      cases h
      exact ⟨none, rfl, .none⟩
  | some b =>
      cases isName : className? n with
      | none =>
          rw [isBody, isName] at h
          cases h
          exact ⟨none, rfl, .none⟩
      | some m =>
          rw [isBody, isName] at h
          simp only [bind_eq_ok] at h
          obtain ⟨ext, extRead, text, decoded, types, typesRead, ms, membersRead, eq⟩ := h
          cases eq
          refine ⟨some ⟨text, n'.span, ext.map (·.1), ext.map (·.2), types, closingBrace (f b),
            ms.map (Member.mapList g)⟩, ?_, .some ⟨rfl, rfl, rfl, rfl, rfl⟩⟩
          simp only [Option.map_some, extended, extRead, name m isName, decoded,
            interfaces types typesRead, members b isBody ms membersRead]
          rfl

end Outline

end RouteGraft
