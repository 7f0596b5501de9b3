import RouteGraft.Proofs.Tree

/-!
# Shapes of trees

The grammar gives the same shape to every call of a plain name, to every named
argument and to every list.  The shapes are written down here with the places of
their signs, up to the source of a route mapper around a list of routers.
-/

namespace RouteGraft.Dart.Node

/-- A sign or a keyword. -/
def token (t : Terminal) (start stop : Int) : Node :=
  .mk (.terminal t) false none ⟨start, stop⟩ []

theorem nested_token {t : Terminal} {start stop : Int} (le : start ≤ stop) :
    (token t start stop).Nested := nested_leaf rfl le

/-- A plain name. -/
def plainName (start stop : Int) : Node := .mk .identifier true none ⟨start, stop⟩ []

/-- The name of a type. -/
def typeName (start stop : Int) : Node := .mk .typeIdentifier true none ⟨start, stop⟩ []

/-- A construct. -/
def construct (c : Construct) (start stop : Int) (children : List Node) : Node :=
  .mk (.construct c) true none ⟨start, stop⟩ children

/-- Arguments, with what is inside of their parentheses. -/
def parenthesized (start stop : Int) (inside : List Node) : Node :=
  construct .arguments start stop
    (token .openParen start (start + 1) :: inside ++ [token .closeParen (stop - 1) stop])

/-- The arguments behind the name of a call. -/
def callArguments (start stop : Int) (inside : List Node) : Node :=
  construct .selector start stop
    [construct .argumentPart start stop [parenthesized start stop inside]]

/-- A named argument, with the place behind its colon. -/
def argument (start behindColon : Int) (value : Node) : Node :=
  construct .namedArgument start value.span.stop
    [construct .label start behindColon
      [plainName start (behindColon - 1), token .colon (behindColon - 1) behindColon], value]

/-- A list, with what is in front of its opening bracket and what is inside of its
brackets. -/
def bracketed (start stop opening : Int) (front inside : List Node) : Node :=
  construct .listLiteral start stop
    (front ++ token .openBracket opening (opening + 1) ::
      (inside ++ [token .closeBracket (stop - 1) stop]))

/-- The builder `MadRouteBuilder<PageX>((_) => Y())` on its own.  Its type arguments
are read as comparisons. -/
def pageBuilder : Node :=
  construct .relationalExpression 0 34
    [construct .relationalExpression 0 21
      [plainName 0 15, construct .relationalOperator 15 16 [token .less 15 16],
        plainName 16 21],
      construct .relationalOperator 21 22 [token .greater 21 22],
      construct .parenthesizedExpression 22 34
        [token .openParen 22 23,
          construct .functionExpression 23 33
            [construct .formalParameterList 23 26
              [token .openParen 23 24, construct .formalParameter 24 25 [plainName 24 25],
                token .closeParen 25 26],
              construct .functionExpressionBody 27 33
                [token .arrow 27 29, plainName 30 31, callArguments 31 33 []]],
          token .closeParen 33 34]]

/-- The source of a route mapper with a list of routers, which starts at the offset
44. -/
def mapperTree (routers : Node) : Node :=
  .mk .program true none ⟨0, routers.span.stop + 2⟩
    [construct .classDefinition 0 (routers.span.stop + 2)
      [token .class_ 0 5, (plainName 6 7).withField .name,
        construct .superclass 8 30 [token .extends_ 8 15, typeName 16 30],
        (construct .classBody 30 (routers.span.stop + 2)
          [token .openBrace 30 31,
            construct .methodSignature 31 42
              [construct .getterSignature 31 42
                [token .get_ 31 34, (plainName 35 42).withField .name]],
            construct .functionBody 42 (routers.span.stop + 1)
              [token .arrow 42 44, routers,
                token .semicolon routers.span.stop (routers.span.stop + 1)],
            token .closeBrace (routers.span.stop + 1) (routers.span.stop + 2)]).withField .body]]

end RouteGraft.Dart.Node

namespace RouteGraft

/-- The source of a route mapper with a list of routers. -/
def mapperSource (routers : String) : Bytes :=
  Utf8.encode ("class M extends MadRouteMapper\x7bget routers=>" ++ routers ++ ";\x7d")

end RouteGraft
