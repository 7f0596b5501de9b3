import RouteGraft.Proofs.Comments

/-!
# Lists with comments

A list *without its places* tells what there is in it and not where: its elements with
what they call, their named arguments, and the lists in these, down to any depth.

Two lists that are alike apart from comments are the same without their places
(`Outline.agree_listLiteral`).  The readers are followed one by one: each of them gets
to nodes that are alike, and reads the same off them or fails in the same way (`Agree`).
The brackets of a list are where this could go wrong, since nodes are counted there; the
comments behind a closing bracket are cut off with it, and the other ones can be taken
out before or after (`insideBrackets_bare`).  Lists in lists are taken care of by
induction on the depth down to which they are read, and the depths of the two trees need
not be the same.
-/

namespace RouteGraft

open Dart (Node Kind Field)

/-! ## Without places -/

mutual

/-- A list without its places. -/
def ListLiteral.unplaced : ListLiteral → ListLiteral
  | ⟨_, _, es, trailing⟩ => ⟨⟨0, 0⟩, 0, ListElementOf.allUnplaced es, trailing⟩
termination_by structural l => l

/-- Elements without their places. -/
def ListElementOf.allUnplaced : List ListElement → List ListElement
  | [] => []
  | e :: es => ListElementOf.unplaced e :: ListElementOf.allUnplaced es
termination_by structural es => es

/-- An element without its places. -/
def ListElementOf.unplaced : ListElement → ListElement
  | ⟨_, callee, as⟩ => ⟨⟨0, 0⟩, callee, NamedArgumentOf.allUnplaced as⟩
termination_by structural e => e

/-- Arguments without their places. -/
def NamedArgumentOf.allUnplaced : List NamedArgument → List NamedArgument
  | [] => []
  | a :: as => NamedArgumentOf.unplaced a :: NamedArgumentOf.allUnplaced as
termination_by structural as => as

/-- An argument without its places. -/
def NamedArgumentOf.unplaced : NamedArgument → NamedArgument
  | ⟨name, _, value⟩ => ⟨name, ⟨0, 0⟩, NamedArgumentOf.valueUnplaced value⟩
termination_by structural a => a

/-- The value of an argument without its places. -/
def NamedArgumentOf.valueUnplaced : Option ListLiteral → Option ListLiteral
  | none => none
  | some l => some (ListLiteral.unplaced l)
termination_by structural v => v

end

theorem ListElementOf.allUnplaced_eq_map (es : List ListElement) :
    allUnplaced es = es.map unplaced := by
  induction es with
  | nil => rfl
  | cons e es ih => rw [allUnplaced, ih, List.map_cons]

theorem NamedArgumentOf.allUnplaced_eq_map (as : List NamedArgument) :
    allUnplaced as = as.map unplaced := by
  induction as with
  | nil => rfl
  | cons a as ih => rw [allUnplaced, ih, List.map_cons]

theorem NamedArgumentOf.valueUnplaced_eq_map (v : Option ListLiteral) :
    valueUnplaced v = v.map ListLiteral.unplaced := by
  cases v <;> rfl

theorem ListLiteral.unplaced_eq (l : ListLiteral) :
    l.unplaced = ⟨⟨0, 0⟩, 0, l.elements.map ListElementOf.unplaced, l.hasTrailingComma⟩ := by
  cases l
  rw [unplaced, ListElementOf.allUnplaced_eq_map]

theorem ListElementOf.unplaced_eq (e : ListElement) :
    unplaced e = ⟨⟨0, 0⟩, e.callee, e.namedArguments.map NamedArgumentOf.unplaced⟩ := by
  cases e
  rw [unplaced, NamedArgumentOf.allUnplaced_eq_map]

theorem NamedArgumentOf.unplaced_eq (a : NamedArgument) :
    unplaced a = ⟨a.name, ⟨0, 0⟩, a.value.map ListLiteral.unplaced⟩ := by
  cases a
  rw [unplaced, valueUnplaced_eq_map]

/-! ## Inside of brackets -/

namespace Outline

variable {source other : Bytes} {depth depth' : Nat}

/-- The nodes behind the first opening bracket are the same ones without comments. -/
theorem behindOpening_filter (cs : List Node) :
    (behindOpening cs).filter (fun c => !c.isComment)
      = behindOpening (cs.filter fun c => !c.isComment) := by
  have kept (c : Node) (h : decide (c.kind ≠ .terminal .openBracket) = false) :
      (!c.isComment) = true := by
    have kind : c.kind = .terminal .openBracket := by simpa using h
    rw [Node.isComment, kind]
    rfl
  have dropped := filter_dropWhile kept cs
  unfold behindOpening
  rw [← dropped]
  cases shape : cs.dropWhile (·.kind ≠ .terminal .openBracket) with
  | nil => rfl
  | cons c rest =>
      have stops : decide (c.kind ≠ .terminal .openBracket) = false := by
        have first := List.head?_dropWhile_not (·.kind ≠ .terminal .openBracket) cs
        rw [shape] at first
        simpa using first
      simp [kept c stops]

/-- A node of which all comments among the children are taken out. -/
def bare (n : Node) : Node := .mk n.kind n.named n.field n.span n.content

/-- Inside of brackets stands the same without comments. -/
theorem insideBrackets_bare (n : Node) :
    (insideBrackets n).1.filter (fun c => !c.isComment) = (insideBrackets (bare n)).1 := by
  cases found : n.children.reverse.find? (·.kind = .terminal .closeBracket) with
  | none =>
      have open_ : ∀ c ∈ n.children, c.kind ≠ .terminal .closeBracket := fun c hc => by
        simpa using List.find?_eq_none.1 found c (List.mem_reverse.2 hc)
      have bareOpen : ∀ c ∈ (bare n).children, c.kind ≠ .terminal .closeBracket :=
        fun c hc => open_ c (List.mem_of_mem_filter (show c ∈ n.children.filter _ from hc))
      rw [insideBrackets_of_open open_, insideBrackets_of_open bareOpen]
      exact behindOpening_filter n.children
  | some closing =>
      obtain ⟨kind, behind, ahead, shape, last⟩ := List.find?_eq_some_iff_append.1 found
      have shape : n.children = ahead.reverse ++ closing :: behind.reverse := by
        simpa using congrArg List.reverse shape
      have kind : closing.kind = .terminal .closeBracket := by simpa using kind
      have last : ∀ c ∈ behind.reverse, c.kind ≠ .terminal .closeBracket := fun c hc => by
        simpa using last c (List.mem_reverse.1 hc)
      have kept : (!closing.isComment) = true := by
        rw [Node.isComment, kind]
        rfl
      have bareShape : (bare n).children = ahead.reverse.filter (fun c => !c.isComment)
          ++ closing :: behind.reverse.filter fun c => !c.isComment := by
        simp [bare, Node.children_mk, Node.content, shape, kept]
      rw [insideBrackets_of_closed shape kind last, insideBrackets_of_closed bareShape kind
        fun c hc => last c (List.mem_of_mem_filter hc)]
      -- as many nodes are cut off as there are from the closing bracket on
      have suffix := behindOpening_suffix n.children
      rw [shape] at suffix
      have cut := filter_take_of_suffix (q := fun c => !c.isComment) suffix kept
      rw [← shape, behindOpening_filter] at cut
      exact cut

/-- Lists of nodes that are of the same kinds have as much inside of brackets. -/
theorem forall₂_insideBrackets {R : Node → Node → Prop} {n n' : Node}
    (kind : ∀ c c', R c c' → c.kind = c'.kind) (h : List.Forall₂ R n.children n'.children) :
    List.Forall₂ R (insideBrackets n).1 (insideBrackets n').1 := by
  have behind : List.Forall₂ R (behindOpening n.children) (behindOpening n'.children) := by
    have after := forall₂_dropWhile (p := (·.kind ≠ .terminal .openBracket))
      (q := (·.kind ≠ .terminal .openBracket)) h fun c c' related => by rw [kind c c' related]
    unfold behindOpening
    generalize n.children.dropWhile _ = cs at after ⊢
    generalize n'.children.dropWhile _ = cs' at after ⊢
    cases after with
    | nil => exact h
    | cons _ later => exact later
  have reversed := List.forall₂_reverse_iff.2 h
  have closing := rel_find? (p := (·.kind = .terminal .closeBracket))
    (q := (·.kind = .terminal .closeBracket)) reversed fun c c' related => by
      rw [kind c c' related]
  have trailing := (forall₂_takeWhile (p := (·.kind ≠ .terminal .closeBracket))
    (q := (·.kind ≠ .terminal .closeBracket)) reversed fun c c' related => by
      rw [kind c c' related]).length_eq
  simp only [behindOpening] at behind
  simp only [insideBrackets]
  generalize n.children.reverse.find? _ = o at closing ⊢
  generalize n'.children.reverse.find? _ = o' at closing ⊢
  cases closing with
  | none => exact behind
  | some related =>
      dsimp only
      rw [trailing, behind.length_eq]
      exact List.forall₂_take _ behind

theorem twins_insideBrackets {n n' : Node}
    (h : Node.Twins source other (depth + 1) (depth' + 1) n n') :
    List.Forall₂ (Node.Twins source other depth depth')
      ((insideBrackets n).1.filter fun c => !c.isComment)
      ((insideBrackets n').1.filter fun c => !c.isComment) := by
  rw [insideBrackets_bare, insideBrackets_bare]
  exact forall₂_insideBrackets (fun c c' twins => twins.kind) h.content_succ

/-! ## Lists -/

section

variable {list list' : Node → Reading ListLiteral} {n n' : Node}

/-- Nodes of a name, if there are any, have the same text. -/
theorem rel_text {o o' : Option Node} (h : Option.Rel (Node.Twins source other depth depth') o o')
    (name : ∀ m, o = some m → m.kind.isIdentifier = true ∨ m.field = some .name) :
    Option.Rel (fun m m' => m.span.text source = m'.span.text other) o o' := by
  cases h with
  | none => exact .none
  | some twins => exact .some (twins.text (name _ rfl))

theorem rel_argumentName? (h : Node.Twins source other depth depth' n n') :
    Option.Rel (fun m m' => m.span.text source = m'.span.text other) (argumentName? n)
      (argumentName? n') := by
  have labels := h.child? (Kind.isRule_of_construct (c := .label))
  unfold argumentName?
  generalize n.child? _ = o at labels ⊢
  generalize n'.child? _ = o' at labels ⊢
  cases labels with
  | none => exact .none
  | some twins =>
      exact rel_text (twins.child? Kind.isRule_of_isIdentifier) fun m found =>
        .inl (Node.child?_eq_some found).2

/-- Lists without their places agree. -/
abbrev AgreeLists (list list' : Node → Reading ListLiteral)
    (source other : Bytes) (depth depth' : Nat) : Prop :=
  ∀ n n', Node.Twins source other depth depth' n n' →
    Agree (fun l l' => l.unplaced = l'.unplaced) (list n) (list' n')

theorem agree_argumentValue (lists : AgreeLists list list' source other depth depth')
    (h : Node.Twins source other depth depth' n n') :
    Agree (fun v v' => v.map ListLiteral.unplaced = v'.map ListLiteral.unplaced)
      (argumentValue list n) (argumentValue list' n') := by
  have values := Node.twins_filter (· ≠ .construct .label) h.parts
  unfold argumentValue
  generalize n.parts.filter _ = vs at values ⊢
  generalize n'.parts.filter _ = vs' at values ⊢
  cases values with
  | nil => exact .ok rfl
  | @cons v v' _ _ twins later =>
      cases later with
      | cons _ _ => exact .ok rfl
      | nil =>
          simp only [twins.kind]
          split
          · exact (lists v v' twins).map fun l l' same => by
              rw [Option.map_some, Option.map_some, same]
          · exact .ok rfl

theorem agree_namedArgument? (lists : AgreeLists list list' source other depth depth')
    (h : Node.Twins source other depth depth' n n') :
    Agree (fun a a' => a.map NamedArgumentOf.unplaced = a'.map NamedArgumentOf.unplaced)
      (namedArgument? list source n) (namedArgument? list' other n') := by
  have name := rel_argumentName? h
  unfold namedArgument?
  generalize argumentName? n = o at name ⊢
  generalize argumentName? n' = o' at name ⊢
  cases name with
  | none => exact .ok rfl
  | some text =>
      refine (agree_argumentValue lists h).bind fun v v' values => ?_
      refine (Agree.of_eq text).bind fun name name' names => .ok ?_
      rw [Option.map_some, Option.map_some, NamedArgumentOf.unplaced_eq,
        NamedArgumentOf.unplaced_eq, names, values]

theorem map_present {α β : Type} (f : α → β) (os : List (Option α)) :
    (present os).map f = present (os.map (Option.map f)) := by
  rw [present, present, List.map_filterMap, List.filterMap_map]
  rfl

theorem agree_namedArguments (lists : AgreeLists list list' source other depth depth')
    (h : Node.Twins source other depth depth' n n') :
    Agree (fun as as' => as.map NamedArgumentOf.unplaced = as'.map NamedArgumentOf.unplaced)
      (namedArguments list source n) (namedArguments list' other n') := by
  have arguments := Node.twins_filter (· = .construct .namedArgument) h.parts
  have each := Agree.mapM arguments fun a _ a' _ twins => agree_namedArgument? lists twins
  refine each.map fun as as' same => ?_
  rw [map_present, map_present, map_eq_map_of_forall₂ same fun a a' values => values]

/-- A group is the call of a plain name just if one that is alike is, and the name and
the arguments are alike. -/
theorem rel_plainCall? {group group' : List Node}
    (h : List.Forall₂ (Node.Twins source other depth depth') group group') :
    Option.Rel (fun call call' => call.1.span.text source = call'.1.span.text other ∧
        Node.Twins source other depth depth' call.2 call'.2)
      (plainCall? group) (plainCall? group') := by
  cases h with
  | nil => exact .none
  | @cons name name' _ _ names later =>
      cases later with
      | nil => exact .none
      | @cons call call' _ _ calls later =>
          cases later with
          | cons _ _ => exact .none
          | nil =>
              simp only [plainCall?, ← names.kind, ← calls.kind]
              split
              · next kinds =>
                  have text := names.text (.inl (by rw [kinds.1]; rfl))
                  have arguments := calls.descendant? (Kind.isRule_of_construct (c := .arguments))
                  generalize call.descendant? _ 2 = o at arguments ⊢
                  generalize call'.descendant? _ 2 = o' at arguments ⊢
                  cases arguments with
                  | none => exact .none
                  | some twins => exact .some ⟨text, twins⟩
              · exact .none

theorem agree_listElement (lists : AgreeLists list list' source other depth depth')
    {first first' : Node} {rest rest' : List Node}
    (h : List.Forall₂ (Node.Twins source other depth depth') (first :: rest) (first' :: rest')) :
    Agree (fun e e' => ListElementOf.unplaced e = ListElementOf.unplaced e')
      (listElement list source first rest) (listElement list' other first' rest') := by
  have calls := rel_plainCall? h
  unfold listElement
  generalize plainCall? (first :: rest) = o at calls ⊢
  generalize plainCall? (first' :: rest') = o' at calls ⊢
  cases calls with
  | none => exact .ok rfl
  | some call =>
      refine (Agree.of_eq call.1).bind fun callee callee' callees => ?_
      refine (agree_namedArguments lists call.2).bind fun as as' arguments => .ok ?_
      rw [ListElementOf.unplaced_eq, ListElementOf.unplaced_eq, callees, arguments]

theorem agree_listElements (lists : AgreeLists list list' source other depth depth')
    {groups groups' : List (List Node)}
    (h : List.Forall₂ (List.Forall₂ (Node.Twins source other depth depth')) groups groups') :
    Agree (fun es es' => es.map ListElementOf.unplaced = es'.map ListElementOf.unplaced)
      (listElements list source groups) (listElements list' other groups') := by
  induction h with
  | nil => exact .ok rfl
  | cons group _ ih =>
      cases group with
      | nil => exact ih
      | cons first later =>
          refine (agree_listElement lists (.cons first later)).bind fun e e' same => ?_
          refine ih.bind fun es es' sames => .ok ?_
          rw [List.map_cons, List.map_cons, same, sames]

/-- Lists are the same without their places, down to depths their trees do not reach. -/
theorem agree_listLiteralTo : AgreeLists (listLiteralTo source depth) (listLiteralTo other depth')
    source other depth depth' := by
  -- the depths differ, since a comment may be the highest child of a node
  induction depth generalizing depth' with
  | zero => exact fun n n' h => absurd n.height_pos (Nat.not_lt.2 h.low)
  | succ depth ih =>
      intro n n' h
      obtain ⟨depth', rfl⟩ := Node.exists_succ_of_height_le h.low'
      obtain ⟨groups, trailing⟩ := Node.twins_commaGroups (twins_insideBrackets h)
      simp only [listLiteralTo, listLiteralWith]
      generalize insideBrackets n = inside at groups trailing ⊢
      generalize insideBrackets n' = inside' at groups trailing ⊢
      refine (agree_listElements ih groups).bind fun es es' elements => .ok ?_
      rw [ListLiteral.unplaced_eq, ListLiteral.unplaced_eq, elements, trailing]

theorem agree_listLiteral (h : Node.Twins source other depth depth' n n') :
    Agree (fun l l' => l.unplaced = l'.unplaced) (listLiteral source n) (listLiteral other n') :=
  agree_listLiteralTo n n' { h with low := Nat.le_refl _, low' := Nat.le_refl _ }

end

end Outline

end RouteGraft
