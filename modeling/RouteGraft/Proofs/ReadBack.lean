import RouteGraft.Proofs.Arrivals
import RouteGraft.Proofs.Builders

/-!
# Fragments that are read back

What is written for a route is read again when the next route is added, so the reader has
to find in every fragment what the fragment was written for.  The class of a route is read
alone, its section as the only router of a mapper, and its methods in the body of a class
(`classAround`).

The grammar of Dart gives every fragment the same tree for all routes, up to the sizes of
the names in it.  These trees are written down here, each next to the text it belongs to,
and `Registration.Parses` says of a parser that it gives them.  The parser itself is left
open.  Open are also the nodes that the reader passes over: type arguments, parameters,
annotations and the inside of calls.

`fragments_read_back` puts together what is read of the four fragments.
-/

namespace RouteGraft

open Dart (Node Kind Field Terminal)

/-! ## Members one by one -/

namespace Outline

variable {source : Bytes} {p : Pending} {c n : Node} {rest : List Node} {ms : List Member}

theorem readsMembers_token (t : Terminal) (start stop : Int)
    (read : ReadsMembers source none rest ms) :
    ReadsMembers source p (Node.token t start stop :: rest) (p.flush ++ ms) :=
  .other rfl (by simp [Node.token]) (by simp [signature?, Node.token]) read

theorem readsMembers_closing (start stop : Int) :
    ReadsMembers source none [Node.token .closeBrace start stop] [] :=
  readsMembers_token .closeBrace start stop (.done none)

/-- A body that is a list and nothing more. -/
theorem memberWithBody_of_list (name : String) (kind : MemberKind) {list : Node}
    {l : ListLiteral} (parts : c.parts = [list])
    (isList : list.kind = .construct .listLiteral) (read : listLiteral source list = .ok l) :
    memberWithBody source name kind c
      = .ok ⟨name, kind, some .expression, some "list_literal", some l⟩ := by
  have noBlock : c.parts.any (·.kind = .construct .block) = false := by simp [parts, isList]
  have value : expressionList source list = .ok (some l) := by
    rw [expressionList, if_pos isList, read]
    rfl
  unfold memberWithBody
  rw [noBlock, parts]
  simp only [Bool.false_eq_true, if_false, value, isList]
  rfl

/-- A source whose tree has one class. -/
theorem ofTree_of_one {root : Node} {o : ClassOutline} (children : root.children = [n])
    (named : n.named = true) (isClass_ : isClass n.kind = true)
    (read : classOutline? source n = .ok (some o)) : ofTree source root = .ok ⟨[o]⟩ := by
  have classes : (root.children.filter fun n => n.named && isClass n.kind) = [n] := by
    simp [children, named, isClass_]
  rw [ofTree, classes, List.mapM_cons, read]
  rfl

end Outline

/-! ## The class of a route -/

/-- The tree of a class whose only member is a constructor that hands a text to the base
class.  Its name, the base class, the result type and the text have the given sizes. -/
def Dart.Node.routeClass (name base generic address : Int) (types parameters entry : List Node) :
    Node :=
  .mk .program true none ⟨0, 39 + 2 * name + base + generic + address⟩
    [construct .classDefinition 0 (39 + 2 * name + base + generic + address)
      [token .class_ 0 5, (plainName 6 (6 + name)).withField .name,
        construct .superclass (7 + name) (17 + name + base + generic)
          [token .extends_ (7 + name) (14 + name), typeName (15 + name) (15 + name + base),
            construct .typeArguments (15 + name + base) (17 + name + base + generic) types],
        (construct .classBody (18 + name + base + generic)
            (39 + 2 * name + base + generic + address)
          [token .openBrace (18 + name + base + generic) (19 + name + base + generic),
            construct .declaration (22 + name + base + generic)
                (36 + 2 * name + base + generic + address)
              [construct .constructorSignature (22 + name + base + generic)
                  (24 + 2 * name + base + generic)
                [plainName (22 + name + base + generic) (22 + 2 * name + base + generic),
                  construct .formalParameterList (22 + 2 * name + base + generic)
                    (24 + 2 * name + base + generic) parameters],
                construct .initializers (25 + 2 * name + base + generic)
                    (36 + 2 * name + base + generic + address)
                  [token .colon (25 + 2 * name + base + generic)
                      (26 + 2 * name + base + generic),
                    construct .initializerListEntry (27 + 2 * name + base + generic)
                      (36 + 2 * name + base + generic + address) entry]],
            token .semicolon (36 + 2 * name + base + generic + address)
              (37 + 2 * name + base + generic + address),
            token .closeBrace (38 + 2 * name + base + generic + address)
              (39 + 2 * name + base + generic + address)]).withField .body]]

namespace RouteClass

variable (r : RouteClass)

/-- The tree of the class of a route. -/
def tree (types parameters entry : List Node) : Node :=
  Node.routeClass (Utf8.size (r.kind.className r.name)) (Utf8.size r.base)
    (Utf8.size r.kind.generic) (Utf8.size (Naming.kebab r.name)) types parameters entry

/-- The text behind the type that the class extends. -/
def body : String :=
  " \x7b\n" ++ "  " ++ r.kind.className r.name ++ "() : super('" ++ Naming.kebab r.name ++ "');\n"
    ++ "\x7d"

theorem fragment_eq : r.fragment
    = "class " ++ r.kind.className r.name ++ " extends " ++ (r.base ++ "<" ++ r.kind.generic ++ ">")
      ++ r.body := by
  unfold fragment Fragment.routeClass base body
  have opening (t : String) : t ++ "> \x7b\n" = t ++ ">" ++ " \x7b\n" := by
    rw [String.append_assoc]
    rfl
  rw [opening]
  simp only [String.append_assoc]

theorem size_body : Utf8.size r.body
    = 22 + Utf8.size (r.kind.className r.name) + Utf8.size (Naming.kebab r.name) := by
  have open_ : Utf8.size " \x7b\n" = 3 := rfl
  have indent : Utf8.size "  " = 2 := rfl
  have super_ : Utf8.size "() : super('" = 12 := rfl
  have end_ : Utf8.size "');\n" = 4 := rfl
  have close : Utf8.size "\x7d" = 1 := rfl
  simp only [body, Utf8.size_append, open_, indent, super_, end_, close]
  omega

theorem size_head : Utf8.size ("class " ++ r.kind.className r.name ++ " extends ")
    = 15 + Utf8.size (r.kind.className r.name) := by
  have class_ : Utf8.size "class " = 6 := rfl
  have extends_ : Utf8.size " extends " = 9 := rfl
  rw [Utf8.size_append, Utf8.size_append, class_, extends_]
  omega

theorem size_extends : Utf8.size (r.base ++ "<" ++ r.kind.generic ++ ">")
    = Utf8.size r.base + Utf8.size r.kind.generic + 2 := by
  have less : Utf8.size "<" = 1 := rfl
  have greater : Utf8.size ">" = 1 := rfl
  rw [Utf8.size_append, Utf8.size_append, Utf8.size_append, less, greater]
  omega

theorem size_fragment : Utf8.size r.fragment
    = 39 + 2 * Utf8.size (r.kind.className r.name) + Utf8.size r.base
      + Utf8.size r.kind.generic + Utf8.size (Naming.kebab r.name) := by
  rw [fragment_eq, Utf8.size_append, Utf8.size_append, size_head, size_extends, size_body]
  omega

theorem text_name : Span.text (Utf8.encode r.fragment)
    ⟨6, 6 + Utf8.size (r.kind.className r.name)⟩ = .ok (r.kind.className r.name) := by
  have read := Span.text_of_append "class " (r.kind.className r.name)
    (" extends " ++ (r.base ++ "<" ++ r.kind.generic ++ ">") ++ r.body)
  have whole := r.fragment_eq
  simp only [String.append_assoc] at read whole
  rw [whole]
  exact read

theorem text_extends : Span.text (Utf8.encode r.fragment)
    ⟨15 + Utf8.size (r.kind.className r.name), 17 + Utf8.size (r.kind.className r.name)
      + Utf8.size r.base + Utf8.size r.kind.generic⟩
      = .ok (r.base ++ "<" ++ r.kind.generic ++ ">") := by
  have read := Span.text_of_append ("class " ++ r.kind.className r.name ++ " extends ")
    (r.base ++ "<" ++ r.kind.generic ++ ">") r.body
  have stop : 17 + Utf8.size (r.kind.className r.name) + Utf8.size r.base
      + Utf8.size r.kind.generic = 15 + Utf8.size (r.kind.className r.name)
        + (Utf8.size r.base + Utf8.size r.kind.generic + 2) := by omega
  rw [← fragment_eq, size_head, size_extends, ← stop] at read
  exact read

theorem text_base : Span.text (Utf8.encode r.fragment)
    ⟨15 + Utf8.size (r.kind.className r.name), 15 + Utf8.size (r.kind.className r.name)
      + Utf8.size r.base⟩ = .ok r.base := by
  have read := Span.text_of_append ("class " ++ r.kind.className r.name ++ " extends ") r.base
    ("<" ++ r.kind.generic ++ ">" ++ r.body)
  have whole := r.fragment_eq
  rw [size_head] at read
  simp only [String.append_assoc] at read whole
  rw [whole]
  exact read

/-- The class of a route is read as what it is. -/
theorem ofTree_tree (types parameters entry : List Node) :
    Outline.ofTree (Utf8.encode r.fragment) (r.tree types parameters entry)
      = .ok ⟨[r.outline 0]⟩ := by
  refine Outline.ofTree_of_one rfl rfl rfl (Outline.classOutline?_eq_some.2 ?_)
  refine ⟨_, _, some (r.base ++ "<" ++ r.kind.generic ++ ">", r.base), rfl, rfl, ?extends_,
    r.text_name, rfl, ?members, ?span, rfl, rfl, ?brace⟩
  case extends_ =>
    refine bind_eq_ok.2 ⟨_, r.text_extends, ?_⟩
    exact bind_eq_ok.2 ⟨_, r.text_base, rfl⟩
  case members =>
    refine Outline.ReadsMembers.membersFrom_eq
      (Outline.readsMembers_token .openBrace _ _ (.other rfl ?_ rfl ?_))
    · simp [Node.construct]
    · exact Outline.readsMembers_token .semicolon _ _ (Outline.readsMembers_closing _ _)
  case span =>
    rw [outline, size_fragment, Int.zero_add]
    rfl
  case brace =>
    show (r.outline 0).closingBrace = 38 + 2 * Utf8.size (r.kind.className r.name)
      + Utf8.size r.base + Utf8.size r.kind.generic + Utf8.size (Naming.kebab r.name)
    rw [outline, size_fragment]
    dsimp only
    omega

end RouteClass

/-! ## Classes around members -/

/-- A class around some members. -/
def classAround (owner members : String) : String :=
  "class " ++ owner ++ " \x7b\n" ++ members ++ "\n\x7d"

/-- The tree of a class around some members.  Its name and the members have the given sizes. -/
def Dart.Node.classAround (owner members : Int) (inside : List Node) : Node :=
  .mk .program true none ⟨0, owner + members + 11⟩
    [construct .classDefinition 0 (owner + members + 11)
      [token .class_ 0 5, (plainName 6 (6 + owner)).withField .name,
        (construct .classBody (7 + owner) (owner + members + 11)
          (token .openBrace (7 + owner) (8 + owner) :: inside
            ++ [token .closeBrace (owner + members + 10) (owner + members + 11)])).withField .body]]

/-- The tree of a class around some members, by its text. -/
def classAroundTree (owner members : String) (inside : List Node) : Node :=
  Node.classAround (Utf8.size owner) (Utf8.size members) inside

theorem size_classHead (owner : String) :
    Utf8.size ("class " ++ owner ++ " \x7b\n") = 9 + Utf8.size owner := by
  have class_ : Utf8.size "class " = 6 := rfl
  have open_ : Utf8.size " \x7b\n" = 3 := rfl
  rw [Utf8.size_append, Utf8.size_append, class_, open_]
  omega

/-- A text among the members of a class. -/
theorem text_classAround (owner front s back : String) :
    Span.text (Utf8.encode (classAround owner (front ++ s ++ back)))
      ⟨9 + Utf8.size owner + Utf8.size front,
        9 + Utf8.size owner + Utf8.size front + Utf8.size s⟩ = .ok s := by
  have read := Span.text_of_append ("class " ++ owner ++ " \x7b\n" ++ front) s (back ++ "\n\x7d")
  rw [Utf8.size_append, size_classHead] at read
  simp only [String.append_assoc] at read
  simp only [classAround, String.append_assoc]
  exact read

/-- A class around members is read as a class with the members that are read there. -/
theorem ofTree_classAround {owner members : String} {inside : List Node} {ms : List Member}
    (read : Outline.ReadsMembers (Utf8.encode (classAround owner members)) none
      (inside ++ [Node.token .closeBrace (Utf8.size owner + Utf8.size members + 10)
        (Utf8.size owner + Utf8.size members + 11)]) ms) :
    Outline.ofTree (Utf8.encode (classAround owner members))
        (classAroundTree owner members inside)
      = .ok ⟨[⟨owner, ⟨0, Utf8.size owner + Utf8.size members + 11⟩, none, none, [],
          Utf8.size owner + Utf8.size members + 10, ms⟩]⟩ := by
  have name : Span.text (Utf8.encode (classAround owner members)) ⟨6, 6 + Utf8.size owner⟩
      = .ok owner := by
    have text := Span.text_of_append "class " owner (" \x7b\n" ++ members ++ "\n\x7d")
    simp only [String.append_assoc] at text
    simp only [classAround, String.append_assoc]
    exact text
  refine Outline.ofTree_of_one rfl rfl rfl (Outline.classOutline?_eq_some.2 ?_)
  refine ⟨_, _, none, rfl, rfl, rfl, name, rfl, ?members, rfl, rfl, rfl, ?brace⟩
  case members => exact (Outline.readsMembers_token .openBrace _ _ read).membersFrom_eq
  case brace =>
    simp [Outline.closingBrace, Node.withField, Node.construct, Node.token]

/-! ## Methods -/

/-- The signature of a method that opens a route. -/
def Dart.Node.openSignature (start result method : Int) (types parameters : List Node) : Node :=
  construct .functionSignature start (start + result + method + 11)
    [typeName start (start + 6), construct .typeArguments (start + 6) (start + result + 8) types,
      (plainName (start + result + 9) (start + result + 9 + method)).withField .name,
      construct .formalParameterList (start + result + method + 9) (start + result + method + 11)
        parameters]

/-- The nodes of an abstract method that opens a route, where its text starts. -/
def Dart.Node.abstractMethod (start result method : Int) (types parameters : List Node) :
    List Node :=
  [construct .declaration (start + 2) (start + result + method + 13)
      [openSignature (start + 2) result method types parameters],
    token .semicolon (start + result + method + 13) (start + result + method + 14)]

/-- The nodes of a method that opens a route by a call of `push`. -/
def Dart.Node.concreteMethod (start result method push behind : Int)
    (override types parameters call : List Node) : List Node :=
  [construct .metadataEntry (start + 2) (start + 11) override,
    construct .methodSignature (start + 14) (start + result + method + 25)
      [openSignature (start + 14) result method types parameters],
    construct .functionBody (start + result + method + 26)
        (start + result + method + 30 + push + behind)
      [token .arrow (start + result + method + 26) (start + result + method + 28),
        plainName (start + result + method + 29) (start + result + method + 29 + push),
        construct .selector (start + result + method + 29 + push)
          (start + result + method + 29 + push + behind) call,
        token .semicolon (start + result + method + 29 + push + behind)
          (start + result + method + 30 + push + behind)]]

section

variable {m : RouteMeta} {method owner : String}

/-- The nodes of an abstract method in a class. -/
def abstractMethodNodes (m : RouteMeta) (method owner : String) (types parameters : List Node) :
    List Node :=
  Node.abstractMethod (9 + Utf8.size owner) (Utf8.size m.resultType) (Utf8.size method) types
    parameters

theorem ofTree_abstractMethod (types parameters : List Node) :
    ∃ c, Outline.ofTree (Utf8.encode (classAround owner (Fragment.abstractMethod m method)))
        (classAroundTree owner (Fragment.abstractMethod m method)
          (abstractMethodNodes m method owner types parameters)) = .ok ⟨[c]⟩ ∧
      c.members = [⟨method, .method, none, none, none⟩] := by
  have name : Span.text (Utf8.encode (classAround owner (Fragment.abstractMethod m method)))
      ⟨9 + Utf8.size owner + 2 + Utf8.size m.resultType + 9,
        9 + Utf8.size owner + 2 + Utf8.size m.resultType + 9 + Utf8.size method⟩ = .ok method := by
    have future : Utf8.size "  Future<" = 9 := rfl
    have greater : Utf8.size "> " = 2 := rfl
    have text := text_classAround owner ("  Future<" ++ m.resultType ++ "> ") method "();"
    rw [Utf8.size_append, Utf8.size_append, future, greater] at text
    rw [Fragment.abstractMethod]
    convert text using 3 <;> omega
  refine ⟨_, ofTree_classAround ?_, rfl⟩
  refine .signature rfl name (Outline.readsMembers_token .semicolon _ _ ?_)
  exact Outline.readsMembers_closing _ _

/-- The name of the function that opens a route. -/
def pushName (m : RouteMeta) : String := if m.isInTab then "pushToCurrentTab" else "pushToRoot"

/-- The nodes of a method with a body in a class. -/
def concreteMethodNodes (m : RouteMeta) (method name owner : String)
    (override types parameters call : List Node) : List Node :=
  Node.concreteMethod (9 + Utf8.size owner) (Utf8.size m.resultType) (Utf8.size method)
    (Utf8.size (pushName m)) (Utf8.size (m.className name) + 4) override types parameters call

theorem ofTree_concreteMethod {name : String} (override types parameters call : List Node) :
    ∃ c, Outline.ofTree (Utf8.encode (classAround owner (Fragment.concreteMethod m method name)))
        (classAroundTree owner (Fragment.concreteMethod m method name)
          (concreteMethodNodes m method name owner override types parameters call)) = .ok ⟨[c]⟩ ∧
      c.members = [⟨method, .method, some .expression, some "compound", none⟩] := by
  have text : Span.text (Utf8.encode (classAround owner (Fragment.concreteMethod m method name)))
      ⟨9 + Utf8.size owner + 14 + Utf8.size m.resultType + 9,
        9 + Utf8.size owner + 14 + Utf8.size m.resultType + 9 + Utf8.size method⟩ = .ok method := by
    have override : Utf8.size "  @override\n" = 12 := rfl
    have future : Utf8.size "  Future<" = 9 := rfl
    have greater : Utf8.size "> " = 2 := rfl
    have read := text_classAround owner ("  @override\n" ++ "  Future<" ++ m.resultType ++ "> ")
      method ("() => " ++ pushName m ++ "(" ++ m.className name ++ "());")
    have parts : Fragment.concreteMethod m method name
        = "  @override\n" ++ "  Future<" ++ m.resultType ++ "> " ++ method
          ++ ("() => " ++ pushName m ++ "(" ++ m.className name ++ "());") := by
      unfold Fragment.concreteMethod pushName
      simp only [String.append_assoc]
    rw [Utf8.size_append, Utf8.size_append, Utf8.size_append, override, future, greater] at read
    rw [parts]
    convert read using 3 <;> omega
  refine ⟨_, ofTree_classAround ?_, rfl⟩
  refine .other rfl (by simp [Node.construct]) rfl ?_
  refine .signature rfl text (.body rfl rfl ?_)
  exact Outline.readsMembers_closing _ _

end

/-! ## Sections -/

/-- The routers of a mapper with one section and nothing else. -/
def routersGetter (routers : String) : String := "  get routers => [\n    " ++ routers ++ "\n  ];"

/-- The list of an expression and a comma in this getter, whose text starts at an offset. -/
def Expression.routersList (x : Expression) (start : Int) : Node :=
  Node.bracketed (start + 17) (start + 28 + Utf8.size x.text) (start + 17) []
    (x.nodes.map (Node.shift (start + 23))
      ++ [Node.token .comma (start + 23 + Utf8.size x.text) (start + 24 + Utf8.size x.text)])

/-- The body of this getter. -/
def Expression.routersBody (x : Expression) (start : Int) : Node :=
  Node.construct .functionBody (start + 14) (start + 29 + Utf8.size x.text)
    [Node.token .arrow (start + 14) (start + 16), x.routersList start,
      Node.token .semicolon (start + 28 + Utf8.size x.text) (start + 29 + Utf8.size x.text)]

/-- The nodes of this getter. -/
def Expression.routersNodes (x : Expression) (start : Int) : List Node :=
  [Node.construct .methodSignature (start + 2) (start + 13)
      [Node.construct .getterSignature (start + 2) (start + 13)
        [Node.token .get_ (start + 2) (start + 5),
          (Node.plainName (start + 6) (start + 13)).withField .name]],
    x.routersBody start]

/-- The source of a mapper with an expression and a comma as its routers, cut around the
expression. -/
theorem classAround_routersGetter (owner text : String) :
    classAround owner (routersGetter (text ++ ","))
      = "class " ++ owner ++ " \x7b\n" ++ "  get routers => [\n    " ++ text
        ++ (",\n  ];" ++ "\n\x7d") := by
  unfold classAround routersGetter
  simp only [String.append_assoc]
  rfl

namespace Expression

variable (x : Expression) (owner : String)

theorem sameText_routers : Span.SameText (Utf8.encode x.text)
    (Utf8.encode (classAround owner (routersGetter (x.text ++ ",")))) (9 + Utf8.size owner + 23)
    ⟨0, Utf8.size x.text⟩ := by
  have getter : Utf8.size "  get routers => [\n    " = 23 := rfl
  have same := Span.sameText_of_append
    (Utf8.encode ("class " ++ owner ++ " \x7b\n" ++ "  get routers => [\n    "))
    (Utf8.encode x.text)
    (Utf8.encode (",\n  ];" ++ "\n\x7d"))
  have size : ((Utf8.encode ("class " ++ owner ++ " \x7b\n" ++ "  get routers => [\n    ")).length
      : Int) = 9 + Utf8.size owner + 23 := by
    rw [← size_classHead, ← getter, ← Utf8.size_append]
    rfl
  rw [← Utf8.encode_append, ← Utf8.encode_append, ← classAround_routersGetter, size] at same
  exact same

/-- A mapper with one expression as its routers is read as a class that returns a list
with the element that the expression is. -/
theorem ofTree_routers {e : ListElement}
    (h : Outline.ReadsGroup (Utf8.encode x.text) x.parts e) :
    ∃ c list, Outline.ofTree (Utf8.encode (classAround owner (routersGetter (x.text ++ ","))))
        (classAroundTree owner (routersGetter (x.text ++ ","))
          (x.routersNodes (9 + Utf8.size owner))) = .ok ⟨[c]⟩ ∧
      c.returnedList? "routers" = some list ∧
        list.elements = [ListElementOf.shift (9 + Utf8.size owner + 23) e] := by
  have name : Span.text (Utf8.encode (classAround owner (routersGetter (x.text ++ ","))))
      ⟨9 + Utf8.size owner + 6, 9 + Utf8.size owner + 13⟩ = .ok "routers" := by
    have get_ : Utf8.size "  get " = 6 := rfl
    have routers : Utf8.size "routers" = 7 := rfl
    have parts : routersGetter (x.text ++ ",")
        = "  get " ++ "routers" ++ (" => [\n    " ++ (x.text ++ ",") ++ "\n  ];") := by
      unfold routersGetter
      simp only [← String.append_assoc]
      rfl
    have read := text_classAround owner "  get " "routers"
      (" => [\n    " ++ (x.text ++ ",") ++ "\n  ];")
    rw [get_, routers, Int.add_assoc _ 6 7] at read
    rw [parts]
    exact read
  have list := reads_bracketed h (x.sameText_routers owner)
    (⟨rfl, rfl, rfl, by simp⟩ : (x.routersList (9 + Utf8.size owner)).Bracketed [] _ _ _) rfl
  obtain ⟨l, read, elements⟩ : ∃ l, Outline.listLiteral
      (Utf8.encode (classAround owner (routersGetter (x.text ++ ","))))
        (x.routersList (9 + Utf8.size owner)) = .ok l ∧
      l.elements = [ListElementOf.shift (9 + Utf8.size owner + 23) e] :=
    ⟨_, list _ (Nat.le_refl _), rfl⟩
  have body := Outline.memberWithBody_of_list (c := x.routersBody (9 + Utf8.size owner)) "routers"
    .getter rfl rfl read
  refine ⟨_, l, ofTree_classAround (.signature rfl name
    (.body rfl body (Outline.readsMembers_closing _ _))), rfl, elements⟩

end Expression

/-- A section alone among the routers of a mapper is found there. -/
theorem ofTree_newSection (r : Registration) (owner : String) :
    ∃ c list e, Outline.ofTree
        (Utf8.encode (classAround owner
          (routersGetter (Fragment.mapperSection r.description r.name r.ui))))
        (classAroundTree owner (routersGetter (Fragment.mapperSection r.description r.name r.ui))
          (r.newSection.routersNodes (9 + Utf8.size owner))) = .ok ⟨[c]⟩ ∧
      c.returnedList? "routers" = some list ∧ list.elements = [e] ∧
        IsSection (Utf8.encode (classAround owner
          (routersGetter (Fragment.mapperSection r.description r.name r.ui))))
          r.kind [r.builder.text] e := by
  obtain ⟨e, builder⟩ := r.builder.exists_reading r.between
  have section_ := r.builder.readsGroup_newSection r.description.typeName
    r.description.baseClass builder
  obtain ⟨c, list, read, returned, elements⟩ := r.newSection.ofTree_routers owner section_
  rw [r.section_piece]
  exact ⟨c, list, _, read, returned, elements,
    isSection_newSection builder (r.newSection.sameText_routers owner)⟩

/-! ## All fragments of a route -/

namespace Registration

variable (r : Registration) (owner : String)

/-- The class of the route. -/
def routeClass : RouteClass := ⟨r.description, r.name⟩

/-- The method that opens the route. -/
def method : String := Fragment.methodName r.description r.name

/-- A mapper whose routers are the section of the route. -/
def mapperText : String :=
  classAround owner (routersGetter (Fragment.mapperSection r.description r.name r.ui))

/-- A class with the abstract method. -/
def abstractText : String := classAround owner (Fragment.abstractMethod r.description r.method)

/-- A class with the method that has a body. -/
def concreteText : String :=
  classAround owner (Fragment.concreteMethod r.description r.method r.name)

/-- A parser gives the trees that the grammar of Dart has for the fragments of a route.
The nodes inside of type arguments, parameters, annotations and calls are left open: they
are not the same for all result types and components. -/
structure Parses (tree : Bytes → Node) : Prop where
  routeClass : ∃ types parameters entry,
    tree (Utf8.encode r.routeClass.fragment) = r.routeClass.tree types parameters entry
  mapper : tree (Utf8.encode (r.mapperText owner))
    = classAroundTree owner (routersGetter (Fragment.mapperSection r.description r.name r.ui))
      (r.newSection.routersNodes (9 + Utf8.size owner))
  abstractMethod : ∃ types parameters, tree (Utf8.encode (r.abstractText owner))
    = classAroundTree owner (Fragment.abstractMethod r.description r.method)
      (abstractMethodNodes r.description r.method owner types parameters)
  concreteMethod : ∃ override types parameters call, tree (Utf8.encode (r.concreteText owner))
    = classAroundTree owner (Fragment.concreteMethod r.description r.method r.name)
      (concreteMethodNodes r.description r.method r.name owner override types parameters call)

end Registration

/-- The outline of a text, by a parser. -/
def outlineOf (tree : Bytes → Node) (text : String) : Outline.Reading Outline :=
  Outline.ofTree (Utf8.encode text) (tree (Utf8.encode text))

/-- What is written for a route is read back.  Its class is one class, from the first byte
to the last one, with the names that were put in and without members.  Its section is the
only router, with the builder as its only route.  The two methods are one method each, of
the same name, the first one without a body and the second one with an expression. -/
theorem fragments_read_back {tree : Bytes → Node} {r : Registration} {owner : String}
    (parses : r.Parses owner tree) :
    outlineOf tree r.routeClass.fragment = .ok ⟨[r.routeClass.outline 0]⟩ ∧
    (∃ c list e, outlineOf tree (r.mapperText owner) = .ok ⟨[c]⟩ ∧
      c.returnedList? "routers" = some list ∧ list.elements = [e] ∧
        IsSection (Utf8.encode (r.mapperText owner)) r.kind [r.builder.text] e) ∧
    (∃ c, outlineOf tree (r.abstractText owner) = .ok ⟨[c]⟩ ∧
      c.members = [⟨r.method, .method, none, none, none⟩]) ∧
    ∃ c, outlineOf tree (r.concreteText owner) = .ok ⟨[c]⟩ ∧
      c.members = [⟨r.method, .method, some .expression, some "compound", none⟩] := by
  obtain ⟨types, parameters, entry, class_⟩ := parses.routeClass
  obtain ⟨types', parameters', abstract_⟩ := parses.abstractMethod
  obtain ⟨override, types'', parameters'', call, concrete⟩ := parses.concreteMethod
  refine ⟨?class_, ?mapper, ?abstractMethod, ?concreteMethod⟩
  case class_ =>
    rw [outlineOf, class_]
    exact r.routeClass.ofTree_tree types parameters entry
  case mapper =>
    rw [outlineOf, parses.mapper]
    exact ofTree_newSection r owner
  case abstractMethod =>
    rw [outlineOf, abstract_]
    exact ofTree_abstractMethod types' parameters'
  case concreteMethod =>
    rw [outlineOf, concrete]
    exact ofTree_concreteMethod override types'' parameters'' call

/-- A page with a component. -/
def shownPage : Registration := .ofComponent .page none "X" "Y" (by decide)

/-- A parser of the fragments of this page.  They differ in length. -/
def shownPageParser (content : Bytes) : Node :=
  let r := shownPage
  let parentheses (start : Int) : List Node :=
    [Node.token .openParen start (start + 1), Node.token .closeParen (start + 1) (start + 2)]
  let void (start : Int) : List Node :=
    [Node.token .less start (start + 1), .mk (.terminal .void_) true none ⟨start + 1, start + 5⟩ [],
      Node.token .greater (start + 5) (start + 6)]
  match content.length with
  | 62 =>
    r.routeClass.tree [Node.token .less 27 28, Node.typeName 28 33, Node.token .greater 33 34]
      (parentheses 44)
      [Node.construct .super_ 49 54 [Node.token .super_ 49 54],
        Node.parenthesized 54 59
          [Node.construct .argument 55 58 [Node.construct .stringLiteral 55 58 []]]]
  | 39 =>
    classAroundTree "S" (Fragment.abstractMethod r.description r.method)
      (abstractMethodNodes r.description r.method "S" (void 18) (parentheses 34))
  | 74 =>
    classAroundTree "S" (Fragment.concreteMethod r.description r.method r.name)
      (concreteMethodNodes r.description r.method r.name "S"
        [Node.token .at_ 12 13, Node.plainName 13 21] (void 30) (parentheses 46)
        [Node.construct .argumentPart 62 71
          [Node.parenthesized 62 71
            [Node.construct .argument 63 70 [Node.plainName 63 68, Node.callArguments 68 70 []]]]])
  | _ =>
    classAroundTree "S" (routersGetter (Fragment.mapperSection r.description r.name r.ui))
      (r.newSection.routersNodes (9 + Utf8.size "S"))

theorem parses_shownPageParser : shownPage.Parses "S" shownPageParser := by
  have class_ : (Utf8.encode shownPage.routeClass.fragment).length = 62 := by
    decide +kernel
  have mapper : (Utf8.encode (shownPage.mapperText "S")).length = 162 := by
    decide +kernel
  have abstract_ : (Utf8.encode (shownPage.abstractText "S")).length = 39 := by
    decide +kernel
  have concrete : (Utf8.encode (shownPage.concreteText "S")).length = 74 := by
    decide +kernel
  constructor
  case routeClass =>
    simp only [shownPageParser, class_]
    exact ⟨_, _, _, rfl⟩
  case mapper => simp only [shownPageParser, mapper]
  case abstractMethod =>
    simp only [shownPageParser, abstract_]
    exact ⟨_, _, rfl⟩
  case concreteMethod =>
    simp only [shownPageParser, concrete]
    exact ⟨_, _, _, _, rfl⟩

theorem fragments_read_back_shownPage :
    shownPage.Parses "S" shownPageParser ∧
    outlineOf shownPageParser shownPage.routeClass.fragment
      = .ok ⟨[⟨"PageX", ⟨0, 62⟩, some "NavPage<Never>", some "NavPage", [], 61, []⟩]⟩ ∧
    (∃ c list e, outlineOf shownPageParser (shownPage.mapperText "S") = .ok ⟨[c]⟩ ∧
      c.returnedList? "routers" = some list ∧ list.elements = [e] ∧
        IsSection (Utf8.encode (shownPage.mapperText "S")) .page
          ["MadRouteBuilder<PageX>((_) => Y())"] e) ∧
    (∃ c, outlineOf shownPageParser (shownPage.abstractText "S") = .ok ⟨[c]⟩ ∧
      c.members = [⟨"openPageX", .method, none, none, none⟩]) ∧
    ∃ c, outlineOf shownPageParser (shownPage.concreteText "S") = .ok ⟨[c]⟩ ∧
      c.members = [⟨"openPageX", .method, some .expression, some "compound", none⟩] :=
  ⟨parses_shownPageParser, fragments_read_back parses_shownPageParser⟩

end RouteGraft
