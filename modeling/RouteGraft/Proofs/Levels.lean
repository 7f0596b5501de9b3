import Mathlib.Data.List.Basic
import RouteGraft.Proofs.Reader

/-!
# Searches by levels

A search by levels takes all nodes of one depth together, and goes on with the children of
them all.  How deep a node is and which of two nodes stands in front of the other one is told
by a walk through the tree that does not know of levels: it gives every node before those it
consists of, each with its depth (`Node.descendants`).

The nodes of one depth stand in the same order in the walk as on their level
(`firstAt_deeper`), so the search asks for one depth after the other
(`findOnLevels_eq_findSome?`).  What it finds is the *shallowest* node of the kinds that are
looked for, and the first one of these (`Node.Shallowest`), and it finds something just if
there is such a node within its bound (`descendant?_iff_shallowest`).
-/

namespace RouteGraft

open Dart (Node Kind)

namespace Dart.Node

/-! ## Depths -/

/-- All nodes below a node with their depths, each before the nodes it consists of.  Its
children have the given depth. -/
def descendants : Node → (depth : Nat) → List (Nat × Node)
  | mk _ _ _ _ cs, depth => forest cs depth
where
  /-- Some siblings of a depth and all nodes below them. -/
  forest : List Node → (depth : Nat) → List (Nat × Node)
    | [], _ => []
    | n :: rest, depth => (depth, n) :: (n.descendants (depth + 1) ++ forest rest depth)

open descendants (forest)

variable {wanted : Kind → Bool} {n m : Node} {cs : List Node} {d k depth : Nat}

theorem descendants_eq (n : Node) (d : Nat) : n.descendants d = forest n.children d := by
  cases n
  rfl

theorem forest_append (xs ys : List Node) (d : Nat) :
    forest (xs ++ ys) d = forest xs d ++ forest ys d := by
  induction xs with
  | nil => rfl
  | cons x xs ih => rw [List.cons_append, forest, forest, ih, List.cons_append, List.append_assoc]

/-- The walk passes all nodes of a tree but its root, in order. -/
theorem nodes_eq (n : Node) (d : Nat) : n.nodes = n :: (n.descendants d).map Prod.snd := by
  induction n using induct generalizing d with
  | mk kind named field span children ih =>
      rw [nodes, descendants]
      refine congrArg _ ?_
      induction children with
      | nil => rfl
      | cons c rest ihRest =>
          have later := ihRest fun c' hc' => ih c' (List.mem_cons_of_mem c hc')
          rw [nodes.nodesOf, ih c List.mem_cons_self (d + 1), later, forest, List.map_cons,
            List.map_append, List.cons_append]

theorem mem_forest {p : Nat × Node} :
    p ∈ forest cs d ↔ ∃ c ∈ cs, p = (d, c) ∨ p ∈ c.descendants (d + 1) := by
  induction cs with
  | nil => simp [forest]
  | cons c cs ih => simp [forest, ih, or_assoc]

theorem depth_le_of_mem_descendants {p : Nat × Node} (h : p ∈ n.descendants d) : d ≤ p.1 := by
  induction n using induct generalizing d with
  | mk kind named field span children ih =>
      rw [descendants_eq] at h
      obtain ⟨c, hc, rfl | below⟩ := mem_forest.1 h
      · exact Nat.le_refl d
      · exact Nat.le_of_succ_le (ih c hc below)

/-! ## The first node of a depth -/

/-- Of nodes with their depths, the first one of some kinds that has depth `k`. -/
def firstAt (wanted : Kind → Bool) (k : Nat) (entries : List (Nat × Node)) : Option Node :=
  (entries.find? fun p => p.1 = k && wanted p.2.kind).map Prod.snd

theorem firstAt_append (xs ys : List (Nat × Node)) :
    firstAt wanted k (xs ++ ys) = (firstAt wanted k xs).or (firstAt wanted k ys) := by
  rw [firstAt, List.find?_append, Option.map_or]
  rfl

theorem firstAt_cons_of_ne (h : d ≠ k) (rest : List (Nat × Node)) :
    firstAt wanted k ((d, n) :: rest) = firstAt wanted k rest := by
  rw [firstAt, List.find?_cons_of_neg (by simp [h])]
  rfl

theorem firstAt_eq_none {entries : List (Nat × Node)} :
    firstAt wanted k entries = none ↔ ∀ p ∈ entries, p.1 = k → wanted p.2.kind = false := by
  simp [firstAt]

theorem firstAt_eq_some {entries : List (Nat × Node)} :
    firstAt wanted k entries = some m ↔ ∃ front back, entries = front ++ (k, m) :: back ∧
      wanted m.kind = true ∧ ∀ p ∈ front, p.1 = k → wanted p.2.kind = false := by
  simp only [firstAt, Option.map_eq_some_iff, List.find?_eq_some_iff_append, Prod.exists,
    Bool.and_eq_true, decide_eq_true_eq, Bool.not_eq_true', Bool.and_eq_false_imp]
  constructor
  · rintro ⟨_, _, ⟨⟨rfl, isWanted⟩, front, back, shape, others⟩, rfl⟩
    exact ⟨front, back, shape, isWanted, others⟩
  · rintro ⟨front, back, shape, isWanted, others⟩
    exact ⟨k, m, ⟨⟨rfl, isWanted⟩, front, back, shape, others⟩, rfl⟩

/-- The siblings themselves are all there is of their depth. -/
theorem firstAt_level (cs : List Node) (d : Nat) :
    firstAt wanted d (forest cs d) = cs.find? (wanted ·.kind) := by
  induction cs with
  | nil => rfl
  | cons c cs ih =>
      have deeper : firstAt wanted d (c.descendants (d + 1)) = none :=
        firstAt_eq_none.2 fun p hp same =>
          absurd (depth_le_of_mem_descendants hp) (by rw [same]; exact Nat.not_succ_le_self d)
      rw [forest, List.find?_cons]
      cases isWanted : wanted c.kind with
      | true => simp [firstAt, isWanted]
      | false =>
          rw [← ih, ← Option.none_or (o := firstAt wanted d (forest cs d)), ← deeper,
            ← firstAt_append]
          simp [firstAt, isWanted]

/-- Below some siblings the walk passes the nodes of a depth in the same order as below all of
their children together. -/
theorem firstAt_deeper (deeper : d < k) (cs : List Node) :
    firstAt wanted k (forest cs d) = firstAt wanted k (forest (cs.flatMap children) (d + 1)) := by
  induction cs with
  | nil => rfl
  | cons c cs ih =>
      rw [forest, firstAt_cons_of_ne (Nat.ne_of_lt deeper), firstAt_append, ih, List.flatMap_cons,
        forest_append, firstAt_append, descendants_eq]

/-- A search on levels asks for one depth after the other. -/
theorem findOnLevels_eq_findSome? (wanted : Kind → Bool) (depth d : Nat) (level : List Node) :
    findOnLevels wanted depth level
      = (List.range' d depth).findSome? fun k => firstAt wanted k (forest level d) := by
  induction depth generalizing d level with
  | zero => rfl
  | succ depth ih =>
      rw [findOnLevels, List.range'_succ, List.findSome?_cons, firstAt_level]
      cases level.find? (wanted ·.kind) with
      | some c => rfl
      | none =>
          have deeper : ∀ k ∈ List.range' (d + 1) depth,
              firstAt wanted k (forest (level.flatMap children) (d + 1))
                = firstAt wanted k (forest level d) :=
            fun k hk => (firstAt_deeper (List.mem_range'_1.1 hk).1 level).symm
          dsimp only
          rw [ih (d + 1), ← List.head?_filterMap, ← List.head?_filterMap,
            List.filterMap_congr deeper]

/-! ## The shallowest node -/

/-- A node at most so many levels below another, of one of some kinds.  No node of these kinds
is less deep, and of those as deep as it is the first one. -/
def Shallowest (wanted : Kind → Bool) (depth : Nat) (n m : Node) : Prop :=
  ∃ k front back, n.descendants 1 = front ++ (k, m) :: back ∧ k ≤ depth ∧
    wanted m.kind = true ∧ (∀ p ∈ front, wanted p.2.kind = true → k < p.1) ∧
      ∀ p ∈ back, wanted p.2.kind = true → k ≤ p.1

theorem descendant?_eq_findSome? (n : Node) (wanted : Kind → Bool) (depth : Nat) :
    n.descendant? wanted depth
      = (List.range' 1 depth).findSome? fun k => firstAt wanted k (n.descendants 1) := by
  rw [descendant?, findOnLevels_eq_findSome? wanted depth 1, descendants_eq]

theorem descendant?_eq_none :
    n.descendant? wanted depth = none ↔
      ∀ p ∈ n.descendants 1, p.1 ≤ depth → wanted p.2.kind = false := by
  rw [descendant?_eq_findSome?, List.findSome?_eq_none_iff]
  simp only [List.mem_range'_1, firstAt_eq_none]
  constructor
  · intro none_ p hp low
    exact none_ p.1 ⟨depth_le_of_mem_descendants hp, by omega⟩ p hp rfl
  · rintro none_ k ⟨-, low⟩ p hp rfl
    exact none_ p hp (by omega)

/-- The search finds the node of a depth that comes first, if there is nothing at the depths
above it. -/
theorem descendant?_eq_some :
    n.descendant? wanted depth = some m ↔
      ∃ k, 1 ≤ k ∧ k ≤ depth ∧ firstAt wanted k (n.descendants 1) = some m ∧
        ∀ j, 1 ≤ j → j < k → firstAt wanted j (n.descendants 1) = none := by
  rw [descendant?_eq_findSome?, List.findSome?_eq_some_iff]
  constructor
  · rintro ⟨above, k, below, shape, found, nothing⟩
    obtain ⟨i, low, rfl, rest⟩ := List.range'_eq_append_iff.1 shape
    obtain ⟨rfl, some_, -⟩ := List.range'_eq_cons_iff.1 rest.symm
    refine ⟨_, by omega, by omega, found, fun j high low' => nothing j ?_⟩
    exact List.mem_range'_1.2 ⟨high, by omega⟩
  · rintro ⟨k, high, low, found, nothing⟩
    refine ⟨List.range' 1 (k - 1), k, List.range' (k + 1) (depth - k), ?_, found, fun j hj => ?_⟩
    · rw [← List.range'_succ]
      refine List.range'_eq_append_iff.2 ⟨k - 1, by omega, rfl, ?_⟩
      congr 1 <;> omega
    · obtain ⟨high', low'⟩ := List.mem_range'_1.1 hj
      exact nothing j high' (by omega)

theorem descendant?_iff_shallowest :
    n.descendant? wanted depth = some m ↔ Shallowest wanted depth n m := by
  rw [descendant?_eq_some]
  constructor
  · rintro ⟨k, -, low, found, nothing⟩
    obtain ⟨front, back, shape, isWanted, others⟩ := firstAt_eq_some.1 found
    have deep : ∀ p ∈ n.descendants 1, wanted p.2.kind = true → k ≤ p.1 := by
      intro p hp wanted_
      by_contra shallow
      have none_ := nothing p.1 (depth_le_of_mem_descendants hp) (by omega)
      rw [firstAt_eq_none.1 none_ p hp rfl] at wanted_
      cases wanted_
    refine ⟨k, front, back, shape, low, isWanted, fun p hp wanted_ => ?_, fun p hp => ?_⟩
    · refine Nat.lt_of_le_of_ne (deep p (by simp [shape, hp]) wanted_) fun same => ?_
      rw [others p hp same.symm] at wanted_
      cases wanted_
    · exact deep p (by simp [shape, hp])
  · rintro ⟨k, front, back, shape, low, isWanted, inFront, behind⟩
    have high : 1 ≤ k := @depth_le_of_mem_descendants n 1 (k, m) (by simp [shape])
    refine ⟨k, high, low, firstAt_eq_some.2 ⟨front, back, shape, isWanted, ?_⟩, ?_⟩
    · intro p hp same
      by_contra wanted_
      exact absurd (inFront p hp (by simpa using wanted_)) (by omega)
    · intro j _ shallow
      refine firstAt_eq_none.2 fun p hp same => ?_
      by_contra wanted_
      rw [shape, List.mem_append, List.mem_cons] at hp
      have wanted_ : wanted p.2.kind = true := by simpa using wanted_
      rcases hp with front_ | rfl | back_
      · exact absurd (inFront p front_ wanted_) (by omega)
      · exact absurd same (by omega)
      · exact absurd (behind p back_ wanted_) (by omega)

end Dart.Node

/-! ## Signatures and arguments -/

namespace Outline

/-- A node declares a member just if it holds one and the shallowest signature in it, on two
levels, has a name. -/
theorem signature?_eq_some {n name : Node} {kind : MemberKind} :
    signature? n = some (name, kind) ↔
      (n.kind = .construct .methodSignature ∨ n.kind = .construct .declaration) ∧
        ∃ s, n.descendant? (fun k => (signatureKind? k).isSome) 2 = some s ∧
          signatureKind? s.kind = some kind ∧
            s.fieldOrChild? .name (· = .identifier) = some name := by
  unfold signature?
  split
  · next holds =>
      cases n.descendant? (fun k => (signatureKind? k).isSome) 2 with
      | none => simp
      | some s =>
          simp only [holds, true_and, Option.some.injEq, exists_eq_left']
          cases s.fieldOrChild? .name (· = .identifier) <;> cases signatureKind? s.kind <;>
            simp [and_comm]
  · next other => simp [other]

/-- A search by levels finds something just if there is a node of the kinds that are looked for
within its depth, and then it finds the shallowest one, and the first one of these.  So the
signature by which a node declares a member, and the arguments of an element that is a call,
are the shallowest ones there are, on the first two levels and never below. -/
theorem search_finds_shallowest (n : Node) (wanted : Kind → Bool) (depth : Nat) :
    n.nodes = n :: (n.descendants 1).map Prod.snd ∧
      ((∃ m, n.descendant? wanted depth = some m) ↔
        ∃ p ∈ n.descendants 1, p.1 ≤ depth ∧ wanted p.2.kind = true) ∧
      (∀ m, n.descendant? wanted depth = some m ↔ n.Shallowest wanted depth m) ∧
      (∀ holder name kind, signature? holder = some (name, kind) ↔
        (holder.kind = .construct .methodSignature ∨ holder.kind = .construct .declaration) ∧
          ∃ s, holder.Shallowest (fun k => (signatureKind? k).isSome) 2 s ∧
            signatureKind? s.kind = some kind ∧
              s.fieldOrChild? .name (· = .identifier) = some name) ∧
      ∀ element name arguments, plainCall? element = some (name, arguments) ↔
        ∃ call, element = [name, call] ∧ name.kind = .identifier ∧
          call.kind = .construct .selector ∧
            call.Shallowest (· = .construct .arguments) 2 arguments := by
  refine ⟨n.nodes_eq 1, ?found, fun m => Node.descendant?_iff_shallowest, ?signature, ?call⟩
  case found =>
    rw [← Option.isSome_iff_exists, ← not_iff_not, Bool.not_eq_true, Option.isSome_eq_false_iff,
      Option.isNone_iff_eq_none, Node.descendant?_eq_none]
    simp
  case signature =>
    intro holder name kind
    simp only [signature?_eq_some, Node.descendant?_iff_shallowest]
  case call =>
    intro element name arguments
    simp only [plainCall?_eq_some, Node.descendant?_iff_shallowest]

/-- A signature that stands further behind is found in front of one that is deeper. -/
example :
    let deep := Node.mk (.construct .getterSignature) true none ⟨0, 1⟩ []
    let shallow := Node.mk (.construct .functionSignature) true none ⟨1, 2⟩ []
    (Node.mk (.construct .declaration) true none ⟨0, 2⟩
      [.mk .comment true none ⟨0, 1⟩ [deep], shallow]).descendant?
        (fun k => (signatureKind? k).isSome) 2 = some shallow := rfl

end Outline

end RouteGraft
