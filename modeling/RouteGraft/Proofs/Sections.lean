import RouteGraft.Proofs.Expressions
import RouteGraft.Proofs.Shapes
import RouteGraft.Route.Fragment

/-!
# New sections

A section of a route mapper is a call that has one argument, the list of routes of
one kind.  A new section starts with one builder.  Its text is fixed up to the name
of the mapper, the base class of the routes and the builder, and so is its tree.

A section is an expression itself (`Expression.newSection`).  It is read as a call of
the mapper with the builder as the only element of the list, and a comma behind it
(`Expression.readsGroup_newSection`).
-/

namespace RouteGraft

open Dart (Node Kind Field Terminal Construct)

/-! ## The text of a section -/

/-- What is written in a section in front of its builder. -/
def sectionHead (typeName base : String) : String :=
  typeName ++ "Mapper" ++ "(\n      " ++ "routes" ++ ": <MadRouteBuilder<" ++ base
    ++ "<dynamic>>>[\n        "

/-- What is written in a section behind its builder. -/
def sectionTail : String := ",\n      ],\n    )"

/-- A section is its head, its builder and its tail, with a comma behind it. -/
theorem mapperSection_eq {m : RouteMeta} {name builder : String} {ui : Option String}
    (h : builder ++ "," = Fragment.mapperEntry m name ui) :
    Fragment.mapperSection m name ui
      = sectionHead m.typeName m.baseClass ++ builder ++ sectionTail ++ "," := by
  have opening (t : String) : t ++ "Mapper(\n" ++ "      routes: <MadRouteBuilder<"
      = t ++ "Mapper" ++ "(\n      " ++ "routes" ++ ": <MadRouteBuilder<" := by
    simp only [String.append_assoc]
    rfl
  have middle (t : String) :
      t ++ "<dynamic>>>[\n" ++ "        " = t ++ "<dynamic>>>[\n        " := by
    rw [String.append_assoc]
    rfl
  have closing (t : String) :
      t ++ "," ++ "\n" ++ "      ],\n" ++ "    )," = t ++ sectionTail ++ "," := by
    simp only [String.append_assoc]
    rfl
  rw [Fragment.mapperSection, ← h, sectionHead, ← String.append_assoc, opening, middle, closing]

namespace Dart.Node

/-! ## Its tree -/

/-- The type `<MadRouteBuilder<base<dynamic>>>`, with the name of the base class from
`start` to `stop`. -/
def builderTypes (start stop : Int) : Node :=
  construct .typeArguments (start - 17) (stop + 11)
    [token .less (start - 17) (start - 16), typeName (start - 16) (start - 1),
      construct .typeArguments (start - 1) (stop + 10)
        [token .less (start - 1) start, typeName start stop,
          construct .typeArguments stop (stop + 9)
            [token .less stop (stop + 1), typeName (stop + 1) (stop + 8),
              token .greater (stop + 8) (stop + 9)],
          token .greater (stop + 9) (stop + 10)],
      token .greater (stop + 10) (stop + 11)]

theorem nested_builderTypes {start stop : Int} (le : start ≤ stop) :
    (builderTypes start stop).Nested := by
  refine nested_of_isNested ?_
  simp [builderTypes, construct, token, typeName, isNested, isNested.areNested, Span.Inside,
    Span.Ordered, Span.Before]
  omega

/-- The list of a section: the name of the base class goes from `start` to `stop`, and
the builder ends at `behind`. -/
def routesList (start stop behind : Int) (builder : List Node) : Node :=
  bracketed (start - 17) (behind + 9) (stop + 11) [builderTypes start stop]
    (builder ++ [token .comma behind (behind + 1)])

theorem bracketed_routesList (start stop behind : Int) (builder : List Node) :
    (routesList start stop behind builder).Bracketed [builderTypes start stop]
      (token .openBracket (stop + 11) (stop + 11 + 1))
      (builder ++ [token .comma behind (behind + 1)])
      (token .closeBracket (behind + 9 - 1) (behind + 9)) := by
  refine ⟨rfl, rfl, rfl, ?_⟩
  simp [builderTypes, construct]

theorem children_routesList (start stop behind : Int) (builder : List Node) :
    (routesList start stop behind builder).children
      = [builderTypes start stop, token .openBracket (stop + 11) (stop + 11 + 1)] ++ builder
        ++ [token .comma behind (behind + 1),
          token .closeBracket (behind + 9 - 1) (behind + 9)] := by
  simp [routesList, bracketed, construct]

section RoutesList

variable {start stop behind : Int} {builder : List Node} (le : start ≤ stop)
  (behind_le : stop + 21 ≤ behind) (nested : ∀ n ∈ builder, n.Nested)
  (inside : ∀ n ∈ builder, n.span.Inside ⟨stop + 21, behind⟩)
  (ordered : Span.Ordered (builder.map Node.span))
include behind_le inside

include ordered in
theorem ordered_routesList :
    Span.Ordered ((routesList start stop behind builder).children.map Node.span) := by
  have front : ∀ s ∈ [builderTypes start stop, token .openBracket (stop + 11) (stop + 11 + 1)].map
      Node.span, s.stop ≤ stop + 12 := by
    intro s hs
    simp only [builderTypes, construct, token, List.map_cons, List.map_nil, span_mk,
      List.mem_cons, List.not_mem_nil, or_false] at hs
    rcases hs with rfl | rfl <;> dsimp only <;> omega
  rw [children_routesList, List.map_append, List.map_append]
  refine Span.Ordered.append (k := behind) (Span.Ordered.append (k := stop + 21) ?_ ordered ?_ ?_)
    ?_ ?_ ?_
  · simp [builderTypes, construct, token, Span.Ordered, Span.Before]
  · intro s hs
    have := front s hs
    omega
  · intro s hs
    obtain ⟨n, hn, rfl⟩ := List.mem_map.1 hs
    exact (inside n hn).1
  · simp [token, Span.Ordered, Span.Before]
    omega
  · intro s hs
    rcases List.mem_append.1 hs with hs | hs
    · have := front s hs
      omega
    · obtain ⟨n, hn, rfl⟩ := List.mem_map.1 hs
      exact (inside n hn).2.2
  · intro s hs
    simp only [token, List.map_cons, List.map_nil, span_mk, List.mem_cons, List.not_mem_nil,
      or_false] at hs
    rcases hs with rfl | rfl <;> dsimp only <;> omega

include le nested ordered in
theorem nested_routesList : (routesList start stop behind builder).Nested := by
  have all : ∀ n ∈ (routesList start stop behind builder).children,
      n.Nested ∧ n.span.Inside ⟨start - 17, behind + 9⟩ := by
    intro n hn
    simp only [children_routesList, List.mem_append, List.mem_cons, List.not_mem_nil,
      or_false] at hn
    rcases hn with ((rfl | rfl) | hn) | rfl | rfl
    · exact ⟨nested_builderTypes le, by simp [builderTypes, construct, Span.Inside]; omega⟩
    · exact ⟨nested_token (by omega), by simp [token, Span.Inside]; omega⟩
    · have within := inside n hn
      unfold Span.Inside at *
      exact ⟨nested n hn, by dsimp only at *; omega⟩
    · exact ⟨nested_token (by omega), by simp [token, Span.Inside]; omega⟩
    · exact ⟨nested_token (by omega), by simp [token, Span.Inside]; omega⟩
  refine .mk ?_ (fun n hn => (all n hn).2) (ordered_routesList behind_le inside ordered)
    fun n hn => (all n hn).1
  dsimp only
  omega

end RoutesList

theorem nested_argument {start behindColon : Int} {value : Node} (le : start + 1 ≤ behindColon)
    (value_le : behindColon ≤ value.span.start) (nested : value.Nested) :
    (argument start behindColon value).Nested := by
  have wide := nested.start_le_stop
  have label : (construct .label start behindColon [plainName start (behindColon - 1),
      token .colon (behindColon - 1) behindColon]).Nested := by
    refine nested_of_isNested ?_
    simp [construct, token, plainName, isNested, isNested.areNested, Span.Inside, Span.Ordered,
      Span.Before]
    omega
  refine .mk (by dsimp only; omega) ?_ ?_ ?_
  · simp [construct, Span.Inside]
    omega
  · simp [construct, Span.Ordered, Span.Before]
    omega
  · simp [label, nested]

section CallArguments

variable {start stop : Int} {inside : List Node} (le : start + 2 ≤ stop)
  (nested : ∀ n ∈ inside, n.Nested) (within : ∀ n ∈ inside, n.span.Inside ⟨start + 1, stop - 1⟩)
  (ordered : Span.Ordered (inside.map Node.span))
include le nested within ordered

theorem nested_parenthesized : (parenthesized start stop inside).Nested := by
  refine .mk (by dsimp only; omega) ?_ ?_ ?_
  · intro n hn
    simp only [List.mem_append, List.mem_cons, List.not_mem_nil, or_false] at hn
    rcases hn with (rfl | hn) | rfl
    · simp [token, Span.Inside]
      omega
    · have := within n hn
      unfold Span.Inside at *
      dsimp only at *
      omega
    · simp [token, Span.Inside]
      omega
  · rw [List.map_append, List.map_cons]
    refine Span.Ordered.append (k := stop - 1) ?_ ?_ ?_ ?_
    · refine List.pairwise_cons.2 ⟨fun s hs => ?_, ordered⟩
      obtain ⟨n, hn, rfl⟩ := List.mem_map.1 hs
      exact (within n hn).1
    · simp [Span.Ordered]
    · intro s hs
      rcases List.mem_cons.1 hs with rfl | hs
      · simp [token]
        omega
      · obtain ⟨n, hn, rfl⟩ := List.mem_map.1 hs
        exact (within n hn).2.2
    · simp [token]
  · intro n hn
    simp only [List.mem_append, List.mem_cons, List.not_mem_nil, or_false] at hn
    rcases hn with (rfl | hn) | rfl
    · exact nested_token (by omega)
    · exact nested n hn
    · exact nested_token (by omega)

theorem nested_callArguments : (callArguments start stop inside).Nested := by
  have around {c : Construct} {n : Node} (nested : n.Nested) (span : n.span = ⟨start, stop⟩) :
      (construct c start stop [n]).Nested := by
    refine .mk (by dsimp only; omega) ?_ ?_ ?_
    · simp [span, Span.Inside]
      omega
    · simp [Span.Ordered]
    · simp [nested]
  exact around (around (nested_parenthesized le nested within ordered) rfl) rfl

end CallArguments

/-- The call that a section is, behind its name: the name ends at `stop`, and the text
behind the name of the base class starts at `base`. -/
def sectionCall (stop base behind : Int) (builder : List Node) : Node :=
  callArguments stop (behind + 16)
    [argument (stop + 8) (stop + 15) (routesList (stop + 33) base behind builder),
      token .comma (behind + 9) (behind + 10)]

theorem routesList_mem_sectionCall (stop base behind : Int) (builder : List Node) :
    routesList (stop + 33) base behind builder ∈ (sectionCall stop base behind builder).nodes := by
  have inCall {c n : Node} {start stop : Int} {inside : List Node} (hc : c ∈ inside)
      (hn : n ∈ c.nodes) : n ∈ (callArguments start stop inside).nodes := by
    have inArguments : n ∈ (parenthesized start stop inside).nodes :=
      mem_nodes_of_mem_children (List.mem_append_left _ (List.mem_cons_of_mem _ hc)) hn
    exact mem_nodes_of_mem_children List.mem_cons_self
      (mem_nodes_of_mem_children List.mem_cons_self inArguments)
  refine inCall List.mem_cons_self ?_
  exact child_mem_nodes (List.mem_cons_of_mem _ List.mem_cons_self)

theorem nested_sectionCall {stop base behind : Int} {builder : List Node} (le : stop + 33 ≤ base)
    (behind_le : base + 21 ≤ behind) (nested : ∀ n ∈ builder, n.Nested)
    (inside : ∀ n ∈ builder, n.span.Inside ⟨base + 21, behind⟩)
    (ordered : Span.Ordered (builder.map Node.span)) :
    (sectionCall stop base behind builder).Nested := by
  have list := nested_routesList le behind_le nested inside ordered
  have value : (routesList (stop + 33) base behind builder).span = ⟨stop + 16, behind + 9⟩ := by
    simp [routesList, bracketed, construct]
    omega
  refine nested_callArguments (by omega) ?_ ?_ ?_
  · simp only [List.forall_mem_cons, List.not_mem_nil, false_implies, implies_true, and_true]
    refine ⟨nested_argument (by omega) ?_ list, nested_token (by omega)⟩
    rw [value]
    dsimp only
    omega
  · simp [argument, construct, token, value, Span.Inside]
    omega
  · simp [argument, construct, token, value, Span.Ordered, Span.Before]

end Dart.Node

namespace Outline

variable {list : Node → Reading ListLiteral} {source : Bytes}

/-! ## Reading its shapes -/

/-- A named argument whose value is a list. -/
theorem namedArgument?_argument {start behindColon : Int} {value : Node} {name : String}
    {l : ListLiteral} (label : Span.text source ⟨start, behindColon - 1⟩ = .ok name)
    (named : value.isPart = true) (kind : value.kind = .construct .listLiteral)
    (read : list value = .ok l) :
    namedArgument? list source (Node.argument start behindColon value)
      = .ok (some ⟨name, ⟨start, value.span.stop⟩, some l⟩) := by
  have isName : argumentName? (Node.argument start behindColon value)
      = some (Node.plainName start (behindColon - 1)) := rfl
  have parts : (Node.argument start behindColon value).parts.filter
      (·.kind ≠ .construct .label) = [value] := by
    simp only [Node.argument, Node.construct, Node.parts, Node.children_mk, List.filter_cons,
      named, List.filter_nil]
    simp [Node.isPart, Node.isComment, Kind.isComment, kind]
  have valueRead : argumentValue list (Node.argument start behindColon value) = .ok (some l) := by
    rw [argumentValue, parts]
    dsimp only
    rw [if_pos kind, read]
    rfl
  rw [namedArgument?, isName]
  dsimp only
  rw [valueRead, Node.plainName, Node.span_mk, label]
  rfl

/-- A call of a plain name with one named argument and a comma behind it. -/
theorem listElement_callArguments {start stop : Int} {name argument comma : Node} {callee : String}
    {a : NamedArgument} (isName : name.kind = .identifier)
    (text : name.span.text source = .ok callee) (isPart : argument.isPart = true)
    (kind : argument.kind = .construct .namedArgument) (isComma : comma.isPart = false)
    (read : namedArgument? list source argument = .ok (some a)) :
    listElement list source name [Node.callArguments start stop [argument, comma]]
      = .ok ⟨⟨name.span.start, stop⟩, some callee, [a]⟩ := by
  have plain : plainCall? [name, Node.callArguments start stop [argument, comma]]
      = some (name, Node.parenthesized start stop [argument, comma]) := by
    rw [plainCall?, if_pos ⟨isName, rfl⟩]
    rfl
  have arguments : namedArguments list source (Node.parenthesized start stop [argument, comma])
      = .ok [a] := by
    have parts : (Node.parenthesized start stop [argument, comma]).parts.filter
        (·.kind = .construct .namedArgument) = [argument] := by
      simp only [Node.parenthesized, Node.construct, Node.parts, Node.children_mk,
        List.cons_append, List.nil_append, List.filter_cons, isPart, isComma, List.filter_nil]
      simp [Node.isPart, Node.token, kind]
    rw [namedArguments, parts, List.mapM_cons, read]
    rfl
  rw [listElement, plain]
  dsimp only
  rw [text, arguments]
  rfl

end Outline

/-! ## Sections as expressions -/

/-- The name of the mappers of a kind of route ends here. -/
def nameStop (typeName : String) : Int := Utf8.size (typeName ++ "Mapper")

theorem size_sectionHead (typeName base : String) :
    Utf8.size (sectionHead typeName base) = nameStop typeName + Utf8.size base + 54 := by
  have opening : Utf8.size "(\n      " = 8 := rfl
  have label : Utf8.size "routes" = 6 := rfl
  have list : Utf8.size ": <MadRouteBuilder<" = 19 := rfl
  have types : Utf8.size "<dynamic>>>[\n        " = 21 := rfl
  rw [sectionHead, nameStop, Utf8.size_append, Utf8.size_append, Utf8.size_append,
    Utf8.size_append, Utf8.size_append, opening, label, list, types]
  omega

namespace Expression

variable (x : Expression) (typeName base : String)

/-- The nodes of an expression in a section. -/
def builderNodes : List Node := x.nodes.map (Node.shift (Utf8.size (sectionHead typeName base)))

/-- The offset behind an expression in a section. -/
def builderStop : Int := Utf8.size (sectionHead typeName base) + Utf8.size x.text

/-- The call in a new section with an expression as its builder. -/
def newCall : Node :=
  Node.sectionCall (nameStop typeName) (nameStop typeName + 33 + Utf8.size base)
    (x.builderStop typeName base) (x.builderNodes typeName base)

theorem nested_newCall : (x.newCall typeName base).Nested := by
  have size := size_sectionHead typeName base
  have baseSize := Utf8.size_nonneg base
  have builderSize := Utf8.size_nonneg x.text
  refine Node.nested_sectionCall (by omega) ?_ ?_ ?_ ?_
  · rw [builderStop]
    omega
  · intro n hn
    obtain ⟨m, hm, rfl⟩ := List.mem_map.1 hn
    exact (x.nested m hm).shift _
  · intro n hn
    obtain ⟨m, hm, rfl⟩ := List.mem_map.1 hn
    have inside := x.inside m hm
    rw [Node.span_shift, builderStop]
    unfold Span.Inside at *
    simp only [Span.start_shift, Span.stop_shift] at *
    omega
  · exact Node.ordered_shift _ x.ordered

theorem span_newCall :
    (x.newCall typeName base).span = ⟨nameStop typeName, x.builderStop typeName base + 16⟩ := rfl

theorem size_newSection : Utf8.size (sectionHead typeName base ++ x.text ++ sectionTail)
    = x.builderStop typeName base + 16 := by
  have tail : Utf8.size sectionTail = 16 := rfl
  rw [Utf8.size_append, Utf8.size_append, tail, builderStop]

/-- A new section with an expression as its builder. -/
def newSection : Expression where
  text := sectionHead typeName base ++ x.text ++ sectionTail
  nodes := [Node.plainName 0 (nameStop typeName), x.newCall typeName base]
  nested := by
    have := Utf8.size_nonneg (typeName ++ "Mapper")
    simp only [List.forall_mem_cons, List.not_mem_nil, false_implies, implies_true, and_true]
    exact ⟨Node.nested_leaf rfl this, x.nested_newCall typeName base⟩
  ordered := by
    simp [Node.plainName, newCall, Node.sectionCall, Node.callArguments, Node.construct,
      Span.Ordered, Span.Before]
  inside := by
    have head := size_sectionHead typeName base
    have name := Utf8.size_nonneg (typeName ++ "Mapper")
    have base_ := Utf8.size_nonneg base
    have builder := Utf8.size_nonneg x.text
    rw [size_newSection, builderStop]
    unfold nameStop at *
    simp [span_newCall, builderStop, Node.plainName, nameStop, Span.Inside]
    omega
  noComma := by
    simp [Node.plainName, newCall, Node.sectionCall, Node.callArguments, Node.construct]
  whole := ⟨_, [x.newCall typeName base], rfl, rfl, (x.size_newSection typeName base).symm⟩

/-! ## Reading a section -/

/-- The list of routes of a new section whose builder is read as an element. -/
def newRoutes (e : ListElement) : ListLiteral :=
  ⟨⟨nameStop typeName + 16, x.builderStop typeName base + 9⟩, x.builderStop typeName base + 8,
    [ListElementOf.shift (Utf8.size (sectionHead typeName base)) e], true⟩

/-- A new section whose builder is read as an element. -/
def newElement (e : ListElement) : ListElement :=
  ⟨⟨0, x.builderStop typeName base + 16⟩, some (typeName ++ "Mapper"),
    [⟨"routes", ⟨nameStop typeName + 8, x.builderStop typeName base + 9⟩,
      some (x.newRoutes typeName base e)⟩]⟩

theorem inside_newSection :
    (Span.shift (Utf8.size (sectionHead typeName base)) ⟨0, Utf8.size x.text⟩).Inside
      ⟨0, Utf8.size (x.newSection typeName base).text⟩ := by
  have head := Utf8.size_nonneg (sectionHead typeName base)
  have builder := Utf8.size_nonneg x.text
  have whole := x.size_newSection typeName base
  rw [newSection, whole, builderStop]
  unfold Span.Inside
  simp only [Span.start_shift, Span.stop_shift]
  omega

/-- The text of a section from its builder on. -/
theorem sameText_newSection :
    Span.SameText (Utf8.encode x.text) (Utf8.encode (x.newSection typeName base).text)
      (Utf8.size (sectionHead typeName base)) ⟨0, Utf8.size x.text⟩ := by
  have same := Span.sameText_of_append (Utf8.encode (sectionHead typeName base))
    (Utf8.encode x.text) (Utf8.encode sectionTail)
  rw [← Utf8.encode_append, ← Utf8.encode_append] at same
  exact same

theorem text_newSection_name :
    Span.text (Utf8.encode (x.newSection typeName base).text) ⟨0, nameStop typeName⟩
      = .ok (typeName ++ "Mapper") := by
  have parts : (x.newSection typeName base).text
      = "" ++ (typeName ++ "Mapper") ++ ("(\n      " ++ "routes" ++ ": <MadRouteBuilder<" ++ base
        ++ "<dynamic>>>[\n        " ++ x.text ++ sectionTail) := by
    simp only [newSection, sectionHead, String.append_assoc, String.empty_append]
  have read := Span.text_of_append "" (typeName ++ "Mapper") ("(\n      " ++ "routes"
    ++ ": <MadRouteBuilder<" ++ base ++ "<dynamic>>>[\n        " ++ x.text ++ sectionTail)
  rw [← parts] at read
  have empty : Utf8.size "" = 0 := rfl
  rwa [empty, Int.zero_add] at read

theorem text_newSection_label :
    Span.text (Utf8.encode (x.newSection typeName base).text)
      ⟨nameStop typeName + 8, nameStop typeName + 14⟩ = .ok "routes" := by
  have parts : (x.newSection typeName base).text
      = (typeName ++ "Mapper" ++ "(\n      ") ++ "routes" ++ (": <MadRouteBuilder<" ++ base
        ++ "<dynamic>>>[\n        " ++ x.text ++ sectionTail) := by
    simp only [newSection, sectionHead, String.append_assoc]
  have read := Span.text_of_append (typeName ++ "Mapper" ++ "(\n      ") "routes"
    (": <MadRouteBuilder<" ++ base ++ "<dynamic>>>[\n        " ++ x.text ++ sectionTail)
  have opening : Utf8.size "(\n      " = 8 := rfl
  have label : Utf8.size "routes" = 6 := rfl
  rw [← parts, Utf8.size_append, opening, label, Int.add_assoc] at read
  exact read

/-- A list of nothing but an expression and a comma has that expression as its only
element. -/
theorem reads_bracketed {x : Expression} {e : ListElement} {source : Bytes} {d : Int}
    {list opening comma closing : Node} {front : List Node}
    (h : Outline.ReadsGroup (Utf8.encode x.text) x.parts e)
    (same : Span.SameText (Utf8.encode x.text) source d ⟨0, Utf8.size x.text⟩)
    (bracketed : list.Bracketed front opening (x.nodes.map (Node.shift d) ++ [comma]) closing)
    (isComma : comma.kind = .terminal .comma) :
    Outline.Reads source list ⟨list.span, closing.span.start, [ListElementOf.shift d e], true⟩ := by
  intro depth low
  obtain ⟨depth, rfl⟩ := Node.exists_succ_of_height_le low
  have items : (x.nodes.map (Node.shift d)).filter Node.isItem = x.parts.map (Node.shift d) := by
    rw [List.filter_map]
    exact congrArg (List.map _) (List.filter_congr fun n _ => (Node.keeps_shift d).isItem n)
  have nonempty : (x.nodes.map (Node.shift d)).filter Node.isItem ≠ [] := by
    obtain ⟨first, rest, shape, -⟩ := x.whole
    rw [items, parts, shape]
    exact List.cons_ne_nil _ _
  have noComma : ∀ n ∈ x.nodes.map (Node.shift d), n.kind ≠ .terminal .comma := by
    intro n hn
    obtain ⟨m, hm, rfl⟩ := List.mem_map.1 hn
    rw [Node.kind_shift]
    exact x.noComma m hm
  have groups := @Node.commaGroupsFrom_element _ false comma noComma nonempty isComma
  have isNode : ∀ n ∈ x.parts, n ∈ x.nodes := fun n hn => List.mem_of_mem_filter hn
  have moved := h.shift (fun n hn => x.nested n (isNode n hn)) fun n hn =>
    same.of_inside (x.inside n (isNode n hn))
  rw [← items] at moved
  rw [Outline.listLiteralTo, Outline.listLiteralWith_eq_ok,
    Outline.insideBrackets_of_bracketed bracketed]
  dsimp only
  rw [Node.commaGroups, groups]
  refine ⟨rfl, rfl, rfl, .cons (moved depth fun n hn => ?_) .nil⟩
  have inList : n ∈ list.children := by
    rw [bracketed.children]
    simp [List.mem_of_mem_filter hn]
  have lower := Node.height_lt_of_mem_children inList
  omega

/-- The list of a new section has its builder as its only element. -/
theorem reads_newRoutes {e : ListElement}
    (h : Outline.ReadsGroup (Utf8.encode x.text) x.parts e) :
    Outline.Reads (Utf8.encode (x.newSection typeName base).text)
      (Node.routesList (nameStop typeName + 33) (nameStop typeName + 33 + Utf8.size base)
        (x.builderStop typeName base) (x.builderNodes typeName base))
      (x.newRoutes typeName base e) := by
  have read := reads_bracketed h (x.sameText_newSection typeName base)
    (Node.bracketed_routesList (nameStop typeName + 33) (nameStop typeName + 33 + Utf8.size base)
      (x.builderStop typeName base) (x.builderNodes typeName base)) rfl
  have routes : x.newRoutes typeName base e = ⟨⟨nameStop typeName + 33 - 17,
      x.builderStop typeName base + 9⟩, x.builderStop typeName base + 9 - 1,
        [ListElementOf.shift (Utf8.size (sectionHead typeName base)) e], true⟩ := by
    simp [newRoutes]
    omega
  rw [routes]
  exact read

/-- A new section is read as a call of the mapper with a list of one builder. -/
theorem readsGroup_newSection {e : ListElement}
    (h : Outline.ReadsGroup (Utf8.encode x.text) x.parts e) :
    Outline.ReadsGroup (Utf8.encode (x.newSection typeName base).text)
      (x.newSection typeName base).parts (x.newElement typeName base e) := by
  intro depth low
  have list := x.reads_newRoutes typeName base h depth (by
    have isPart : x.newCall typeName base ∈ (x.newSection typeName base).parts :=
      List.mem_cons_of_mem _ List.mem_cons_self
    refine Nat.le_trans (Node.height_le_of_mem_nodes ?_) (low _ isPart)
    exact Node.routesList_mem_sectionCall _ _ _ _)
  have label : Span.text (Utf8.encode (x.newSection typeName base).text)
      ⟨nameStop typeName + 8, nameStop typeName + 15 - 1⟩ = .ok "routes" := by
    have read := x.text_newSection_label typeName base
    rwa [show nameStop typeName + 14 = nameStop typeName + 15 - 1 by omega] at read
  have argument := Outline.namedArgument?_argument label rfl rfl list
  refine ⟨Node.plainName 0 (nameStop typeName), [x.newCall typeName base], rfl, ?_⟩
  exact Outline.listElement_callArguments rfl (x.text_newSection_name typeName base) rfl rfl rfl
    argument

end Expression

end RouteGraft
