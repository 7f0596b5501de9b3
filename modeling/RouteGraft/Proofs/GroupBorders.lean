import RouteGraft.Proofs.Appending
import RouteGraft.Proofs.Shapes

/-!
# Borders of groups

The groups of siblings are their items in order (`flatten_commaGroups`), but this does not tell
where one group ends and the next one starts.  Two items with no other item between them are
*neighbours*, and they share a group if it goes on behind the first of them
(`Dart.Node.Share`).

Neighbours share a group just if there is no comma between them, whatever else there is
(`commaGroups_borders`).  A comma cuts the siblings into two rows whose groups have nothing to
do with one another (`commaGroupsFrom_comma`), so no group goes on behind it.  Without a comma
the second neighbour is put to the group that is open, and a group that is open is never
closed in front of a comma (`exists_open_group`).
-/

namespace RouteGraft.Dart.Node

variable {siblings front between back : List Node} {a b : Node}

/-- Two items that follow on the items `before` share one of some groups. -/
def Share (groups : List (List Node)) (before : List Node) (a b : Node) : Prop :=
  ∃ earlier left right later, groups = earlier ++ (left ++ a :: b :: right) :: later ∧
    earlier.flatten ++ left = before

/-! ## The group that is open -/

/-- Siblings in front of others leave some groups behind, and one that is open. -/
theorem exists_groups_in_front (open_ : List Node) (trailing : Bool) (front : List Node) :
    ∃ earlier left trailing', earlier.flatten ++ left = open_ ++ front.filter isItem ∧
      ∀ rest, (commaGroupsFrom open_ trailing (front ++ rest)).groups
        = earlier ++ (commaGroupsFrom left trailing' rest).groups := by
  induction front generalizing open_ trailing with
  | nil => exact ⟨[], open_, trailing, by simp, fun _ => rfl⟩
  | cons c front ih =>
      simp only [List.cons_append, commaGroupsFrom_cons]
      cases comment : c.isComment with
      | true =>
          rw [List.filter_cons_of_neg (by simp [isItem_of_isComment comment])]
          simpa using ih open_ trailing
      | false =>
          by_cases comma : c.kind = .terminal .comma
          · obtain ⟨earlier, left, trailing', items, groups⟩ := ih [] true
            refine ⟨(if open_.isEmpty then [] else [open_]) ++ earlier, left, trailing', ?_, ?_⟩
            · rw [List.filter_cons_of_neg (by simp [isItem_of_comma comma]), List.flatten_append,
                List.append_assoc, items]
              cases open_ <;> simp
            · intro rest
              simp only [Bool.false_eq_true, if_false, comma, if_true, groups]
              cases open_ <;> rfl
          · have item := isItem_eq_named comment comma
            cases named : c.named with
            | true =>
                rw [List.filter_cons_of_pos (item.trans named)]
                simpa [comma] using ih (open_ ++ [c]) false
            | false =>
                rw [List.filter_cons_of_neg (by simp [item, named])]
                simpa [comma] using ih open_ trailing

/-- A group that is open goes on, and nothing is put in front of it. -/
theorem exists_open_group {open_ : List Node} (nonempty : open_ ≠ []) (trailing : Bool)
    (rest : List Node) :
    ∃ right later, (commaGroupsFrom open_ trailing rest).groups = (open_ ++ right) :: later := by
  have isEmpty : open_.isEmpty = false := List.isEmpty_eq_false_iff.2 nonempty
  induction rest generalizing open_ trailing with
  | nil => exact ⟨[], [], by simp [commaGroupsFrom_nil, isEmpty]⟩
  | cons c rest ih =>
      rw [commaGroupsFrom_cons]
      split
      · exact ih nonempty trailing isEmpty
      split
      · exact ⟨[], _, by rw [isEmpty, if_neg Bool.false_ne_true, List.append_nil]⟩
      split
      · obtain ⟨right, later, groups⟩ := @ih (open_ ++ [c]) (by simp) false (by simp)
        exact ⟨c :: right, later, by rw [groups, List.append_assoc, List.singleton_append]⟩
      · exact ih nonempty trailing isEmpty

/-! ## Neighbours -/

theorem not_comma_of_isItem {n : Node} (h : n.isItem = true) : n.kind ≠ .terminal .comma := by
  intro comma
  rw [isItem_of_comma comma] at h
  cases h

/-- Neighbours without a comma between them share a group. -/
theorem share_of_noComma (shape : siblings = front ++ a :: (between ++ b :: back))
    (first : a.isItem = true) (second : b.isItem = true)
    (neighbours : ∀ n ∈ between, n.isItem = false)
    (noComma : ∀ n ∈ between, n.kind ≠ .terminal .comma) :
    Share (commaGroups siblings).groups (front.filter isItem) a b := by
  obtain ⟨earlier, left, trailing, items, groups⟩ := exists_groups_in_front [] false front
  have noCommas : ∀ n ∈ a :: (between ++ [b]), n.kind ≠ .terminal .comma := by
    intro n hn
    rw [← List.cons_append, List.mem_append, List.mem_cons, List.mem_singleton] at hn
    rcases hn with (rfl | hn) | rfl
    · exact not_comma_of_isItem first
    · exact noComma n hn
    · exact not_comma_of_isItem second
  have both : (a :: (between ++ [b])).filter isItem = [a, b] := by
    have none_ : between.filter isItem = [] :=
      List.filter_eq_nil_iff.2 fun n hn => by simp [neighbours n hn]
    simp [first, second, none_]
  have opened := @commaGroupsFrom_append _ back left trailing noCommas
  rw [both] at opened
  have nonempty : left ++ [a, b] ≠ [] := by simp
  obtain ⟨right, later, open_⟩ := exists_open_group nonempty
    (trailing && !(a :: (between ++ [b])).any isItem) back
  refine ⟨earlier, left, right, later, ?_, by simpa using items⟩
  have split : a :: (between ++ b :: back) = a :: (between ++ [b]) ++ back := by simp
  rw [shape, commaGroups, groups, split, opened, open_, List.append_assoc]
  rfl

/-- No group goes on behind the last item of the groups in front of it. -/
theorem not_share_of_append {groups groups' : List (List Node)} {before : List Node}
    (ends : groups.flatten = before ++ [a]) : ¬ Share (groups ++ groups') before a b := by
  rintro ⟨earlier, left, right, later, shape, rfl⟩
  have length := congrArg List.length ends
  simp only [List.length_append, List.length_singleton] at length
  -- the shared group is among the groups in front, or all of these are in front of it
  rcases List.append_eq_append_iff.1 shape with ⟨more, rfl, -⟩ | ⟨more, rfl, rest⟩
  · simp only [List.flatten_append, List.length_append] at length
    omega
  · cases more with
    | nil =>
        rw [List.append_nil] at length
        omega
    | cons g more =>
        cases rest
        simp only [List.flatten_append, List.flatten_cons, List.length_append,
          List.length_cons] at length
        omega

/-- Neighbours with a comma between them do not share a group. -/
theorem not_share_of_comma {n : Node} (shape : siblings = front ++ a :: (between ++ b :: back))
    (first : a.isItem = true) (neighbours : ∀ n ∈ between, n.isItem = false)
    (hn : n ∈ between) (comma : n.kind = .terminal .comma) :
    ¬ Share (commaGroups siblings).groups (front.filter isItem) a b := by
  obtain ⟨gap, gap', rfl⟩ := List.append_of_mem hn
  have none_ : gap.filter isItem = [] :=
    List.filter_eq_nil_iff.2 fun m hm => by simp [neighbours m (List.mem_append_left _ hm)]
  have shape : siblings = (front ++ a :: gap) ++ n :: (gap' ++ b :: back) := by simp [shape]
  rw [shape, commaGroups, commaGroupsFrom_comma comma]
  refine not_share_of_append ?_
  rw [flatten_commaGroupsFrom, List.nil_append, List.filter_append,
    List.filter_cons_of_pos first, none_]

/-! ## The comma at the end -/

/-- Nothing but items takes back that a comma was last. -/
theorem trailing_of_noItem {gap : List Node} (skip : ∀ n ∈ gap, n.isItem = false) :
    (commaGroupsFrom [] true gap).trailing = true := by
  rcases exists_last_mark gap with none_ | ⟨front, m, rest, rfl, mark, none_⟩
  · rw [commaGroupsFrom_of_gap none_]
    rfl
  · rw [isMark, skip m (by simp), Bool.false_or, decide_eq_true_eq] at mark
    rw [commaGroupsFrom_comma mark, commaGroupsFrom_of_gap none_]
    rfl

theorem trailing_iff :
    (commaGroups siblings).trailing = true ↔ ∃ front comma gap,
      siblings = front ++ comma :: gap ∧ comma.kind = .terminal .comma ∧
        ∀ n ∈ gap, n.isPart = false := by
  constructor
  · intro trailing
    rcases commaGroups_ends siblings with ⟨closed, -⟩ | ⟨_, _, _, _, _, _, _, open_⟩
    · rcases closed with none_ | ⟨front, comma, gap, shape, isComma, none_⟩
      · rw [commaGroups, commaGroupsFrom_of_gap none_] at trailing
        cases trailing
      · refine ⟨front, comma, gap, shape, isComma, fun n hn => ?_⟩
        have item := isItem_of_isMark (none_ n hn)
        rwa [isItem, decide_eq_true (not_comma_of_isMark (none_ n hn)), Bool.and_true] at item
    · cases trailing.symm.trans open_
  · rintro ⟨front, comma, gap, rfl, isComma, none_⟩
    rw [commaGroups, commaGroupsFrom_comma isComma]
    exact trailing_of_noItem fun n hn => by rw [isItem, none_ n hn, Bool.false_and]

/-! ## All of it together -/

/-- How siblings are cut at their commas.  No group is empty, and together the groups are the
items, in order.  Neighbours share a group just if there is no comma between them.  A comma is
at the end just if no part is behind it, whatever comments and signs there are. -/
theorem commaGroups_borders (siblings : List Node) :
    (∀ group ∈ (commaGroups siblings).groups, group ≠ []) ∧
      (commaGroups siblings).groups.flatten = siblings.filter isItem ∧
      (∀ front a between b back, siblings = front ++ a :: (between ++ b :: back) →
        a.isItem = true → b.isItem = true → (∀ n ∈ between, n.isItem = false) →
          (Share (commaGroups siblings).groups (front.filter isItem) a b ↔
            ∀ n ∈ between, n.kind ≠ .terminal .comma)) ∧
      ((commaGroups siblings).trailing = true ↔ ∃ front comma gap,
        siblings = front ++ comma :: gap ∧ comma.kind = .terminal .comma ∧
          ∀ n ∈ gap, n.isPart = false) := by
  refine ⟨fun _ => ne_nil_of_mem_commaGroups, flatten_commaGroups siblings, ?_, trailing_iff⟩
  intro front a between b back shape first second neighbours
  constructor
  · intro share n hn comma
    exact not_share_of_comma shape first neighbours hn comma share
  · exact share_of_noComma shape first second neighbours

/-- Siblings with two commas between the first two items, a comment and a sign between the other
two, and a comment behind the last comma. -/
def mixedSiblings : List Node :=
  [plainName 0 1, token .comma 1 2, token .comma 2 3, plainName 3 4,
    mk .comment true none ⟨4, 8⟩ [], token .dot 8 9, plainName 9 10, token .comma 10 11,
    mk .comment true none ⟨11, 15⟩ []]

theorem commaGroups_borders_mixed :
    ¬ Share (commaGroups mixedSiblings).groups [] (plainName 0 1) (plainName 3 4) ∧
      Share (commaGroups mixedSiblings).groups [plainName 0 1] (plainName 3 4)
        (plainName 9 10) ∧
      (commaGroups mixedSiblings).trailing = true := by
  obtain ⟨-, -, share, trailing⟩ := commaGroups_borders mixedSiblings
  refine ⟨fun shared => ?_, ?_, ?_⟩
  · have noComma := (share [] _ [token .comma 1 2, token .comma 2 3] _ _ rfl rfl rfl
      (by decide)).1 shared
    exact noComma (token .comma 1 2) (by simp) rfl
  · exact (share [plainName 0 1, token .comma 1 2, token .comma 2 3] _
      [mk .comment true none ⟨4, 8⟩ [], token .dot 8 9] _ _ rfl rfl rfl (by decide)).2 (by decide)
  · exact trailing.2 ⟨mixedSiblings.take 7, token .comma 10 11,
      [mk .comment true none ⟨11, 15⟩ []], rfl, rfl, by decide⟩

end RouteGraft.Dart.Node
