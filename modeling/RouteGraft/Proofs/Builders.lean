import RouteGraft.Proofs.MapperSections

/-!
# Builders of routes

The builder of a route names the class of the route and the component that it shows, so
its text and its tree are the same for all routes up to these two names
(`Expression.routeBuilder`).  With it every route can be registered that shows a component
(`Registration.ofComponent`).

That no node cuts a character in two holds for names in any script: the text is a row of
tokens (`tokenStarts`), and a node starts and ends where a token does.
-/

namespace RouteGraft

open Dart (Node Terminal)

/-! ## Texts of tokens -/

/-- Tokens in a row, as a text. -/
def tokenText (tokens : List String) : String := tokens.foldr (· ++ ·) ""

/-- Where each token of a text starts, and where the last one ends. -/
def tokenStarts (start : Int) : List String → List Int
  | [] => [start]
  | t :: rest => start :: tokenStarts (start + Utf8.size t) rest

theorem tokenStarts_ne_nil (start : Int) : ∀ tokens, tokenStarts start tokens ≠ []
  | [] => List.cons_ne_nil _ _
  | _ :: _ => List.cons_ne_nil _ _

theorem getLast_tokenStarts (start : Int) (tokens : List String) :
    (tokenStarts start tokens).getLast (tokenStarts_ne_nil start tokens)
      = start + Utf8.size (tokenText tokens) := by
  induction tokens generalizing start with
  | nil => exact (Int.add_zero start).symm
  | cons t rest ih =>
      have text : tokenText (t :: rest) = t ++ tokenText rest := rfl
      simp only [tokenStarts]
      rw [List.getLast_cons (tokenStarts_ne_nil _ _), ih, text, Utf8.size_append, Int.add_assoc]

/-- What encodes characters starts with the first byte of one. -/
theorem Utf8.Encodes.isBoundary_zero {bytes : Bytes} {cs : List Char} (h : Encodes bytes cs) :
    IsBoundary bytes 0 := by
  intro b hb
  cases h with
  | nil => cases hb
  | cons first _ =>
      cases first with
      | mk starts _ _ =>
          cases hb
          exact starts

/-- Between two texts no character is cut in two. -/
theorem Utf8.isBoundary_append (front back : String) :
    IsBoundary (encode (front ++ back)) (size front).toNat := by
  intro b hb
  rw [encode_append, size, Int.toNat_natCast, List.getElem?_append_right (Nat.le_refl _),
    Nat.sub_self] at hb
  exact (encodes_encode back).isBoundary_zero b hb

theorem isBoundary_tokenStarts (front : String) {tokens : List String} {k : Int}
    (hk : k ∈ tokenStarts (Utf8.size front) tokens) :
    Utf8.IsBoundary (Utf8.encode (front ++ tokenText tokens)) k.toNat := by
  induction tokens generalizing front with
  | nil =>
      obtain rfl := List.mem_singleton.1 hk
      exact Utf8.isBoundary_append front _
  | cons t rest ih =>
      rcases List.mem_cons.1 hk with rfl | later
      · exact Utf8.isBoundary_append front _
      · rw [← Utf8.size_append] at later
        have moved := ih (front ++ t) later
        rw [String.append_assoc] at moved
        exact moved

/-- A tree whose nodes start and end where tokens do cuts no character in two. -/
theorem betweenCharacters_of_tokens {tokens : List String} {n : Node}
    (starts : ∀ m ∈ n.nodes,
      m.span.start ∈ tokenStarts 0 tokens ∧ m.span.stop ∈ tokenStarts 0 tokens) :
    BetweenCharacters (Utf8.encode (tokenText tokens)) n := by
  intro m hm
  have boundary {k : Int} (hk : k ∈ tokenStarts 0 tokens) :
      Utf8.IsBoundary (Utf8.encode (tokenText tokens)) k.toNat := by
    have whole := isBoundary_tokenStarts "" hk
    rwa [String.empty_append] at whole
  exact ⟨boundary (starts m hm).1, boundary (starts m hm).2⟩

/-! ## The builder of a route -/

/-- The tokens of the builder of a class that shows a component. -/
def builderTokens (className component : String) : List String :=
  ["MadRouteBuilder", "<", className, ">", "(", "(", "_", ")", " ", "=>", " ", component, "(", ")",
    ")"]

/-- The text is what is written for a route. -/
theorem tokenText_builderTokens (m : RouteMeta) (name component : String) :
    tokenText (builderTokens (m.className name) component) ++ ","
      = Fragment.mapperEntry m name (some (component ++ "()")) := by
  have opening (t : String) : "MadRouteBuilder" ++ ("<" ++ t) = "MadRouteBuilder<" ++ t := by
    rw [← String.append_assoc]
    rfl
  have middle (t : String) :
      ">" ++ ("(" ++ ("(" ++ ("_" ++ (")" ++ (" " ++ ("=>" ++ (" " ++ t)))))))
        = ">((_) => " ++ t := by
    simp only [← String.append_assoc]
    rfl
  unfold tokenText builderTokens Fragment.mapperEntry
  simp only [List.foldr_cons, List.foldr_nil, String.append_empty, String.append_assoc, opening,
    middle, Option.getD_some]
  rfl

theorem tokenStarts_builderTokens (className component : String) :
    tokenStarts 0 (builderTokens className component)
      = [0, 15, 16] ++ [16, 17, 18, 19, 20, 21, 22, 24, 25].map (Utf8.size className + ·)
        ++ [25, 26, 27, 28].map (Utf8.size className + Utf8.size component + ·) := by
  have builder : Utf8.size "MadRouteBuilder" = 15 := rfl
  have less : Utf8.size "<" = 1 := rfl
  have greater : Utf8.size ">" = 1 := rfl
  have openParen : Utf8.size "(" = 1 := rfl
  have underscore : Utf8.size "_" = 1 := rfl
  have closeParen : Utf8.size ")" = 1 := rfl
  have blank : Utf8.size " " = 1 := rfl
  have arrow : Utf8.size "=>" = 2 := rfl
  simp only [builderTokens, tokenStarts, builder, less, greater, openParen, underscore, closeParen,
    blank, arrow, List.map_cons, List.map_nil, List.cons_append, List.nil_append, List.cons.injEq,
    and_true, true_and]
  omega

theorem size_builder (className component : String) :
    Utf8.size (tokenText (builderTokens className component))
      = Utf8.size className + Utf8.size component + 28 := by
  have last := getLast_tokenStarts 0 (builderTokens className component)
  simp only [tokenStarts_builderTokens] at last
  rw [← Int.zero_add (Utf8.size (tokenText _)), ← last]
  rfl

namespace Dart.Node

/-- The tree of the builder of a class that shows a component, by the sizes of their names.
Its type arguments are read as comparisons. -/
def routeBuilder (class_ component : Int) : Node :=
  construct .relationalExpression 0 (class_ + component + 28)
    [construct .relationalExpression 0 (class_ + 16)
      [plainName 0 15, construct .relationalOperator 15 16 [token .less 15 16],
        plainName 16 (class_ + 16)],
      construct .relationalOperator (class_ + 16) (class_ + 17)
        [token .greater (class_ + 16) (class_ + 17)],
      construct .parenthesizedExpression (class_ + 17) (class_ + component + 28)
        [token .openParen (class_ + 17) (class_ + 18),
          construct .functionExpression (class_ + 18) (class_ + component + 27)
            [construct .formalParameterList (class_ + 18) (class_ + 21)
              [token .openParen (class_ + 18) (class_ + 19),
                construct .formalParameter (class_ + 19) (class_ + 20)
                  [plainName (class_ + 19) (class_ + 20)],
                token .closeParen (class_ + 20) (class_ + 21)],
              construct .functionExpressionBody (class_ + 22) (class_ + component + 27)
                [token .arrow (class_ + 22) (class_ + 24),
                  plainName (class_ + 25) (class_ + component + 25),
                  callArguments (class_ + component + 25) (class_ + component + 27) []]],
          token .closeParen (class_ + component + 27) (class_ + component + 28)]]

variable {class_ component : Int}

theorem nested_routeBuilder (hclass : 0 ≤ class_) (hcomponent : 0 ≤ component) :
    (routeBuilder class_ component).Nested := by
  refine nested_of_isNested ?_
  simp [routeBuilder, callArguments, parenthesized, construct, token, plainName, isNested,
    isNested.areNested, Span.Inside, Span.Ordered, Span.Before]
  omega

theorem complete_routeBuilder (hclass : 0 < class_) (hcomponent : 0 < component) :
    (routeBuilder class_ component).Complete := by
  refine complete_of_isComplete ?_
  simp [routeBuilder, callArguments, parenthesized, construct, token, plainName, isComplete,
    isComplete.areComplete]
  omega

theorem between_routeBuilder (className component : String) :
    BetweenCharacters (Utf8.encode (tokenText (builderTokens className component)))
      (routeBuilder (Utf8.size className) (Utf8.size component)) := by
  refine betweenCharacters_of_tokens ?_
  rw [tokenStarts_builderTokens]
  have opened : Utf8.size className + Utf8.size component + 25 + 1
      = Utf8.size className + Utf8.size component + 26 := by omega
  have closed : Utf8.size className + Utf8.size component + 27 - 1
      = Utf8.size className + Utf8.size component + 26 := by omega
  simp [routeBuilder, callArguments, parenthesized, construct, token, plainName, nodes,
    nodes.nodesOf, opened, closed]

end Dart.Node

/-- The builder of a class that shows a component. -/
def Expression.routeBuilder (className component : String) : Expression where
  text := tokenText (builderTokens className component)
  nodes := [Node.routeBuilder (Utf8.size className) (Utf8.size component)]
  nested := by
    intro n hn
    rw [List.mem_singleton.1 hn]
    exact Node.nested_routeBuilder (Utf8.size_nonneg _) (Utf8.size_nonneg _)
  ordered := List.pairwise_singleton _ _
  inside := by
    intro n hn
    have className_nonneg := Utf8.size_nonneg className
    have component_nonneg := Utf8.size_nonneg component
    rw [List.mem_singleton.1 hn, size_builder]
    refine ⟨Int.le_refl _, ?_, Int.le_refl _⟩
    show 0 ≤ Utf8.size className + Utf8.size component + 28
    omega
  noComma := by
    intro n hn
    rw [List.mem_singleton.1 hn]
    simp [Node.routeBuilder, Node.construct]
  whole := ⟨_, [], rfl, rfl, (size_builder className component).symm⟩

theorem RouteKind.size_className_pos (kind : RouteKind) (generic : Option String)
    (name : String) : 0 < Utf8.size ((kind.metaFor generic).className name) := by
  have typeName : (kind.metaFor generic).typeName = kind.describe.typeName := by
    unfold metaFor
    split
    · split <;> rfl
    · rfl
  have pos : 0 < Utf8.size kind.describe.typeName := by cases kind <;> decide
  have nonneg := Utf8.size_nonneg name
  rw [RouteMeta.className, typeName, Utf8.size_append]
  omega

/-- The registration of a route that shows a component. -/
def Registration.ofComponent (kind : RouteKind) (generic : Option String)
    (name component : String) (named : component ≠ "") : Registration where
  kind := kind
  generic := generic
  name := name
  ui := some (component ++ "()")
  builder := .routeBuilder ((kind.metaFor generic).className name) component
  entry_eq := tokenText_builderTokens _ _ _
  complete := by
    intro n hn
    rw [List.mem_singleton.1 hn]
    exact Node.complete_routeBuilder (kind.size_className_pos _ _) (Utf8.size_pos named)
  between := by
    intro n hn
    rw [List.mem_singleton.1 hn]
    exact Node.between_routeBuilder _ _

end RouteGraft
