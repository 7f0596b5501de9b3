import RouteGraft.Dart.Node

/-!
# Groups between commas

Cutting siblings at their commas loses nothing but commas, comments and other
punctuation.  What is left are the *items* of the siblings, and the groups are
the items in order (`flatten_commaGroups`).  No group is empty.
-/

namespace RouteGraft.Dart.Node

/-- Whether a node belongs to a group: it is a part and no comma. -/
def isItem (n : Node) : Bool := n.isPart && n.kind ≠ .terminal .comma

theorem isItem_of_isComment {n : Node} (h : n.isComment = true) : n.isItem = false := by
  simp [isItem, isPart, h]

theorem isComment_of_isItem {n : Node} (h : n.isItem = true) : n.isComment = false := by
  cases comment : n.isComment with
  | false => rfl
  | true =>
      rw [isItem_of_isComment comment] at h
      cases h

theorem isItem_of_comma {n : Node} (h : n.kind = .terminal .comma) : n.isItem = false := by
  simp [isItem, h]

theorem isItem_eq_named {n : Node} (comment : n.isComment = false)
    (comma : n.kind ≠ .terminal .comma) : n.isItem = n.named := by
  simp [isItem, isPart, comment, comma]

/-! ## The groups hold the items -/

theorem flatten_commaGroupsFrom (open_ : List Node) (trailing : Bool) (siblings : List Node) :
    (commaGroupsFrom open_ trailing siblings).groups.flatten
      = open_ ++ siblings.filter isItem := by
  induction siblings generalizing open_ trailing with
  | nil =>
      rw [commaGroupsFrom]
      cases open_ <;> simp
  | cons c rest ih =>
      rw [commaGroupsFrom]
      split
      next comment => rw [ih, List.filter_cons_of_neg (by simp [isItem_of_isComment comment])]
      next comment =>
        split
        next comma =>
          rw [List.filter_cons_of_neg (by simp [isItem_of_comma comma])]
          cases open_ <;> simp [ih]
        next comma =>
          have item : c.isItem = c.named := isItem_eq_named (by simpa using comment) comma
          split
          next named =>
            rw [ih, List.filter_cons_of_pos (item.trans named), List.append_assoc,
              List.singleton_append]
          next unnamed => rw [ih, List.filter_cons_of_neg (by simpa [item] using unnamed)]

/-- The groups of siblings are their items, in order. -/
theorem flatten_commaGroups (siblings : List Node) :
    (commaGroups siblings).groups.flatten = siblings.filter isItem :=
  flatten_commaGroupsFrom [] false siblings

theorem ne_nil_of_mem_commaGroupsFrom {open_ : List Node} {trailing : Bool}
    {siblings g : List Node} (h : g ∈ (commaGroupsFrom open_ trailing siblings).groups) :
    g ≠ [] := by
  induction siblings generalizing open_ trailing with
  | nil =>
      rw [commaGroupsFrom] at h
      cases open_ with
      | nil => simp at h
      | cons first others =>
          obtain rfl : g = first :: others := by simpa using h
          exact List.cons_ne_nil _ _
  | cons c rest ih =>
      rw [commaGroupsFrom] at h
      split at h
      next => exact ih h
      next =>
        split at h
        next =>
          cases open_ with
          | nil => exact ih h
          | cons first others =>
              rcases List.mem_cons.1 h with rfl | h
              · exact List.cons_ne_nil _ _
              · exact ih h
        next =>
          split at h
          next => exact ih h
          next => exact ih h

theorem ne_nil_of_mem_commaGroups {siblings g : List Node}
    (h : g ∈ (commaGroups siblings).groups) : g ≠ [] :=
  ne_nil_of_mem_commaGroupsFrom h

theorem sublist_flatten_commaGroups (siblings : List Node) :
    (commaGroups siblings).groups.flatten.Sublist siblings := by
  rw [flatten_commaGroups]
  exact List.filter_sublist

theorem mem_of_mem_commaGroups {siblings g : List Node} {n : Node}
    (hg : g ∈ (commaGroups siblings).groups) (hn : n ∈ g) : n ∈ siblings :=
  (sublist_flatten_commaGroups siblings).subset (List.mem_flatten_of_mem hg hn)

/-! ## Groups of siblings put together -/

/-- Whether a node matters for the groups: it belongs to one, or it cuts them. -/
def isMark (n : Node) : Bool := n.isItem || n.kind = .terminal .comma

theorem not_comma_of_isMark {n : Node} (h : n.isMark = false) : n.kind ≠ .terminal .comma := by
  intro comma
  simp [isMark, comma] at h

theorem isItem_of_isMark {n : Node} (h : n.isMark = false) : n.isItem = false := by
  simp only [isMark, Bool.or_eq_false_iff] at h
  exact h.1

theorem commaGroupsFrom_nil (open_ : List Node) (trailing : Bool) :
    commaGroupsFrom open_ trailing [] = ⟨if open_.isEmpty then [] else [open_], trailing⟩ := rfl

theorem commaGroupsFrom_cons (open_ : List Node) (trailing : Bool) (c : Node) (rest : List Node) :
    commaGroupsFrom open_ trailing (c :: rest) =
      if c.isComment then commaGroupsFrom open_ trailing rest
      else if c.kind = .terminal .comma then
        ⟨if open_.isEmpty then (commaGroupsFrom [] true rest).groups
          else open_ :: (commaGroupsFrom [] true rest).groups,
          (commaGroupsFrom [] true rest).trailing⟩
      else if c.named then commaGroupsFrom (open_ ++ [c]) false rest
      else commaGroupsFrom open_ trailing rest := rfl

/-- Siblings that do not matter leave the groups as they are. -/
theorem commaGroupsFrom_of_gap {open_ gap : List Node} {trailing : Bool}
    (h : ∀ n ∈ gap, n.isMark = false) :
    commaGroupsFrom open_ trailing gap = commaGroupsFrom open_ trailing [] := by
  induction gap with
  | nil => rfl
  | cons c rest ih =>
      have skip := h c List.mem_cons_self
      have ih := ih fun n hn => h n (List.mem_cons_of_mem c hn)
      rw [commaGroupsFrom_cons]
      split
      next => exact ih
      next comment =>
        rw [if_neg (not_comma_of_isMark skip)]
        have unnamed := isItem_of_isMark skip
        rw [isItem_eq_named (by simpa using comment) (not_comma_of_isMark skip)] at unnamed
        rw [unnamed, if_neg Bool.false_ne_true]
        exact ih

theorem commaGroupsFrom_append_gap {xs gap open_ : List Node} {trailing : Bool}
    (h : ∀ n ∈ gap, n.isMark = false) :
    commaGroupsFrom open_ trailing (xs ++ gap) = commaGroupsFrom open_ trailing xs := by
  induction xs generalizing open_ trailing with
  | nil => exact commaGroupsFrom_of_gap h
  | cons c rest ih =>
      rw [List.cons_append, commaGroupsFrom_cons, commaGroupsFrom_cons, ih, ih, ih]

/-- Behind siblings without a comma the groups go on with what they are. -/
theorem commaGroupsFrom_append {xs ys open_ : List Node} {trailing : Bool}
    (h : ∀ n ∈ xs, n.kind ≠ .terminal .comma) :
    commaGroupsFrom open_ trailing (xs ++ ys)
      = commaGroupsFrom (open_ ++ xs.filter isItem) (trailing && !xs.any isItem) ys := by
  induction xs generalizing open_ trailing with
  | nil => simp
  | cons c rest ih =>
      have comma := h c List.mem_cons_self
      have ih {open_ : List Node} {trailing : Bool} :=
        @ih open_ trailing fun n hn => h n (List.mem_cons_of_mem c hn)
      rw [List.cons_append, commaGroupsFrom_cons]
      split
      next comment =>
        rw [ih, List.filter_cons, List.any_cons, isItem_of_isComment comment]
        rfl
      next comment =>
        have item : c.isItem = c.named := isItem_eq_named (by simpa using comment) comma
        rw [List.filter_cons, List.any_cons, item]
        split
        next named => rw [ih, List.append_assoc, List.singleton_append, named]; simp
        next unnamed => rw [ih, eq_false_of_ne_true unnamed]; rfl

/-- A comma cuts groups. -/
theorem commaGroupsFrom_comma {open_ xs ys : List Node} {trailing : Bool} {c : Node}
    (comma : c.kind = .terminal .comma) :
    commaGroupsFrom open_ trailing (xs ++ c :: ys)
      = ⟨(commaGroupsFrom open_ trailing xs).groups ++ (commaGroupsFrom [] true ys).groups,
        (commaGroupsFrom [] true ys).trailing⟩ := by
  have comment : c.isComment = false := by
    simp [isComment, Kind.isComment, comma]
  induction xs generalizing open_ trailing with
  | nil =>
      rw [List.nil_append, commaGroupsFrom_cons, comment, if_neg Bool.false_ne_true, if_pos comma,
        commaGroupsFrom_nil]
      cases open_ <;> rfl
  | cons n rest ih =>
      rw [List.cons_append, commaGroupsFrom_cons, commaGroupsFrom_cons]
      split
      next => exact ih
      next =>
        split
        next =>
          rw [ih]
          cases open_ <;> rfl
        next =>
          split
          next => exact ih
          next => exact ih

/-- One group with a comma behind it. -/
theorem commaGroupsFrom_element {xs : List Node} {trailing : Bool} {c : Node}
    (h : ∀ n ∈ xs, n.kind ≠ .terminal .comma) (items : xs.filter isItem ≠ [])
    (comma : c.kind = .terminal .comma) :
    commaGroupsFrom [] trailing (xs ++ [c]) = ⟨[xs.filter isItem], true⟩ := by
  have group := @commaGroupsFrom_append xs [] [] trailing h
  rw [List.append_nil, List.nil_append, commaGroupsFrom_nil,
    if_neg (by simpa using items)] at group
  rw [commaGroupsFrom_comma comma, group]
  rfl

/-- The last sibling that matters, if there is one. -/
theorem exists_last_mark (siblings : List Node) :
    (∀ n ∈ siblings, n.isMark = false) ∨
      ∃ front m gap, siblings = front ++ m :: gap ∧ m.isMark = true ∧
        ∀ n ∈ gap, n.isMark = false := by
  induction siblings with
  | nil => exact .inl fun _ hn => absurd hn List.not_mem_nil
  | cons c rest ih =>
      rcases ih with gap | ⟨front, m, gap, rfl, mark, skip⟩
      · cases mark : c.isMark with
        | false => exact .inl (List.forall_mem_cons.2 ⟨mark, gap⟩)
        | true => exact .inr ⟨[], c, rest, rfl, mark, gap⟩
      · exact .inr ⟨c :: front, m, gap, rfl, mark, skip⟩

end RouteGraft.Dart.Node
