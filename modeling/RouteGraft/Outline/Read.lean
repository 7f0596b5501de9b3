import RouteGraft.Outline
import RouteGraft.Dart.Tree
import RouteGraft.Text.Space

/-!
# From syntax trees to outlines

`Outline.ofTree` reads the outline of a source off its syntax tree.  It asks
little of the tree: nodes of kinds it does not know are passed over, and a part
that is missing is left out of the outline or, where an offset is needed, taken
to stand at the end of the construct.

The grammar does not wrap every expression in a node.  A call such as `A(x)` is
an identifier and a selector side by side, so the elements of a list are the
*groups* of nodes between its commas, and an element that is a call of a plain
name is a group of exactly these two nodes.

Names are decoded only where the outline keeps them, so bytes that are no UTF-8
do no harm inside of comments and strings.  Where a name cannot be decoded
there is no outline, and the first such name in the order below is reported:
for each class what it extends, its name, what it implements, and its members;
for each element of a list its callee and then its arguments, whose value comes
before its name.

Lists hold calls and calls hold lists, so their readers take one another as an
argument, and `listLiteral` ties the knot with the height of the tree as its
bound.
-/

namespace RouteGraft

open Dart (Node Kind Field)

namespace Outline

/-- The outcome of reading something with names in it. -/
abbrev Reading (α : Type) := Except Utf8.DecodeError α

/-! ## Types a class is built on -/

/-- A text without its type arguments and the space at its ends. -/
def bareType (written : String) : String :=
  String.ofList (Text.trim (written.toList.takeWhile (· ≠ '<')))

/-- The type behind `extends`: as it is written, and its plain name.  The name
is the last identifier of the type.  A type without one, such as a record, is
named by its text. -/
def extendedType (source : Bytes) (clause : Node) : Reading (Option (String × String)) :=
  match clause.parts.filter (·.kind ≠ .construct .mixins) with
  | [] => .ok none
  | first :: rest => do
      let last := rest.getLastD first
      let written ← (first.span.through last.span).text source
      match ((first :: rest).filter (·.kind.isIdentifier)).getLast? with
      | some n => return some (written, ← n.span.text source)
      | none => return some (written, bareType written)

/-- The node that names one of the types behind `implements`: its last
identifier, or the first one inside of a type that is not a plain name. -/
def interfaceName? (group : List Node) : Option Node :=
  match (group.filter (·.kind.isIdentifier)).getLast? with
  | some n => some n
  | none => group.head?.bind (·.descendant? Kind.isIdentifier 2)

/-- The plain names of the types behind `implements`.  A type in which no name
is found is left out. -/
def implementedTypes (source : Bytes) (clause : Node) : Reading (List String) :=
  ((Node.commaGroups clause.children).groups.filterMap interfaceName?).mapM (·.span.text source)

/-! ## Lists -/

/-- The nodes between the first opening and the last closing bracket of a list,
and the offset of that closing bracket. -/
def insideBrackets (list : Node) : List Node × Int :=
  let after := list.children.dropWhile (·.kind ≠ .terminal .openBracket)
  let behind := if after.isEmpty then list.children else after.drop 1
  match list.children.reverse.find? (·.kind = .terminal .closeBracket) with
  | none => (behind, list.span.stop)
  | some closing =>
      let trailing := list.children.reverse.takeWhile (·.kind ≠ .terminal .closeBracket)
      (behind.take (behind.length - (trailing.length + 1)), closing.span.start)

/-- The arguments of an element that is a call of a plain name, with that name. -/
def plainCall? : List Node → Option (Node × Node)
  | [name, call] =>
      if name.kind = .identifier ∧ call.kind = .construct .selector then
        (call.descendant? (· = .construct .arguments) 2).map fun arguments => (name, arguments)
      else none
  | _ => none

/-- The node that names an argument, in its label. -/
def argumentName? (argument : Node) : Option Node :=
  (argument.child? (· = .construct .label)).bind (·.child? Kind.isIdentifier)

/-- The list that is the value of an argument, if the value is one and nothing
more.  `list` reads it. -/
def argumentValue (list : Node → Reading ListLiteral) (argument : Node) :
    Reading (Option ListLiteral) :=
  match argument.parts.filter (·.kind ≠ .construct .label) with
  | [v] => if v.kind = .construct .listLiteral then (list v).map some else .ok none
  | _ => .ok none

/-- A named argument.  `list` reads a list inside of it.  An argument without a
name in its label is not one. -/
def namedArgument? (list : Node → Reading ListLiteral) (source : Bytes) (argument : Node) :
    Reading (Option NamedArgument) :=
  match argumentName? argument with
  | none => .ok none
  | some name => do
      let value ← argumentValue list argument
      return some ⟨← name.span.text source, argument.span, value⟩

/-- The results there are, in order. -/
def present {α : Type} (xs : List (Option α)) : List α := xs.filterMap id

/-- The named arguments of a call, in order. -/
def namedArguments (list : Node → Reading ListLiteral) (source : Bytes) (arguments : Node) :
    Reading (List NamedArgument) :=
  let named := arguments.parts.filter (·.kind = .construct .namedArgument)
  (named.mapM (namedArgument? list source)).map present

/-- An element of a list, from its nodes. -/
def listElement (list : Node → Reading ListLiteral) (source : Bytes) (first : Node)
    (rest : List Node) : Reading ListElement :=
  let span := first.span.through (rest.getLastD first).span
  match plainCall? (first :: rest) with
  | none => .ok ⟨span, none, []⟩
  | some (name, arguments) => do
      let callee ← name.span.text source
      return ⟨span, some callee, ← namedArguments list source arguments⟩

/-- The elements of a list, from the groups of nodes between its commas. -/
def listElements (list : Node → Reading ListLiteral) (source : Bytes) :
    List (List Node) → Reading (List ListElement)
  | [] => .ok []
  | [] :: groups => listElements list source groups
  | (first :: rest) :: groups => do
      let e ← listElement list source first rest
      return e :: (← listElements list source groups)

/-- A list whose inner lists are read by `list`. -/
def listLiteralWith (list : Node → Reading ListLiteral) (source : Bytes) (n : Node) :
    Reading ListLiteral := do
  let (inside, rightBracket) := insideBrackets n
  let cut := Node.commaGroups inside
  return ⟨n.span, rightBracket, ← listElements list source cut.groups, cut.trailing⟩

/-- A list with inner lists down to a depth.  Below it lists have no elements. -/
def listLiteralTo (source : Bytes) : (depth : Nat) → Node → Reading ListLiteral
  | 0 => fun n => .ok ⟨n.span, n.span.stop, [], false⟩
  | depth + 1 => listLiteralWith (listLiteralTo source depth) source
termination_by structural depth => depth

/-- A list with every list in it. -/
def listLiteral (source : Bytes) (n : Node) : Reading ListLiteral :=
  listLiteralTo source n.height n

/-! ## Members -/

/-- The kind of member a signature declares. -/
def signatureKind? : Kind → Option MemberKind
  | .construct .functionSignature => some .method
  | .construct .getterSignature => some .getter
  | .construct .setterSignature => some .setter
  | _ => none

/-- The node that names the member a node declares, and the kind of the member.
Only declarations and signatures of methods declare one, and only if the
signature in them is that of a function, a getter or a setter. -/
def signature? (n : Node) : Option (Node × MemberKind) :=
  if n.kind = .construct .methodSignature ∨ n.kind = .construct .declaration then
    match n.descendant? (fun k => (signatureKind? k).isSome) 2 with
    | none => none
    | some s =>
        match s.fieldOrChild? .name (· = .identifier), signatureKind? s.kind with
        | some name, some kind => some (name, kind)
        | _, _ => none
  else none

/-- The list that an expression is, if it is one. -/
def expressionList (source : Bytes) (e : Node) : Reading (Option ListLiteral) :=
  if e.kind = .construct .listLiteral then (listLiteral source e).map some else .ok none

/-- A member with a body.  A body with a block in it is a block; otherwise it
is an expression, which is either one node or a compound of several. -/
def memberWithBody (source : Bytes) (name : String) (kind : MemberKind) (body : Node) :
    Reading Member :=
  if body.parts.any (·.kind = .construct .block) then .ok ⟨name, kind, some .block, none, none⟩
  else
    match body.parts with
    | [e] => do return ⟨name, kind, some .expression, some e.kind.name, ← expressionList source e⟩
    | _ => .ok ⟨name, kind, some .expression, some "compound", none⟩

/-- A member that was declared and may still be given a body. -/
abbrev Pending := Option (String × MemberKind)

/-- The member that is left without a body. -/
def Pending.flush : Pending → List Member
  | some (name, kind) => [⟨name, kind, none, none, none⟩]
  | none => []

/-- The members that the children of a class body declare.  A body belongs to
the member declared right before it, if there is one. -/
def membersFrom (source : Bytes) (pending : Pending) : List Node → Reading (List Member)
  | [] => .ok pending.flush
  | c :: rest =>
      if c.isComment then membersFrom source pending rest
      else if c.kind = .construct .functionBody then
        match pending with
        | none => membersFrom source none rest
        | some (name, kind) => do
            let m ← memberWithBody source name kind c
            return m :: (← membersFrom source none rest)
      else
        match signature? c with
        | none => do return pending.flush ++ (← membersFrom source none rest)
        | some (n, kind) => do
            let name ← n.span.text source
            return pending.flush ++ (← membersFrom source (some (name, kind)) rest)
termination_by structural cs => cs

/-! ## Classes -/

/-- The offset of the closing brace of a class body. -/
def closingBrace (body : Node) : Int :=
  match body.children.reverse.find? (·.kind = .terminal .closeBrace) with
  | some brace => brace.span.start
  | none => body.span.stop

/-- The body of a class. -/
def classBody? (n : Node) : Option Node := n.fieldOrChild? .body (· = .construct .classBody)

/-- The node that names a class. -/
def className? (n : Node) : Option Node := n.fieldOrChild? .name Kind.isIdentifier

/-- The type that a class extends, if it extends one. -/
def classExtends (source : Bytes) (n : Node) : Reading (Option (String × String)) :=
  match n.child? (· = .construct .superclass) with
  | some clause => extendedType source clause
  | none => .ok none

/-- The plain names of the types that a class implements. -/
def classImplements (source : Bytes) (n : Node) : Reading (List String) :=
  match n.child? (· = .construct .interfaces) with
  | some clause => implementedTypes source clause
  | none => .ok []

/-- The class that a node declares.  A class without a body is none. -/
def classOutline? (source : Bytes) (n : Node) : Reading (Option ClassOutline) :=
  match classBody? n, className? n with
  | some body, some nameNode => do
      let extended ← classExtends source n
      let name ← nameNode.span.text source
      let interfaces ← classImplements source n
      let members ← membersFrom source none body.children
      return some ⟨name, n.span, extended.map (·.1), extended.map (·.2), interfaces,
        closingBrace body, members⟩
  | _, _ => .ok none

/-- Whether a kind of node declares a class. -/
def isClass (k : Kind) : Bool := k = .construct .classDefinition || k = .classDeclaration

/-- The outline of a source, from its syntax tree. -/
def ofTree (source : Bytes) (root : Node) : Reading Outline :=
  (((root.children.filter fun n => n.named && isClass n.kind).mapM (classOutline? source)).map
    present).map Outline.mk

/-- The outline of a source. -/
def ofSource (source : Bytes) : Reading Outline := ofTree source (Node.ofSource source)

end Outline

end RouteGraft
