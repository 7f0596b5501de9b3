import Mathlib.Data.List.Forall2

/-!
# Readings one by one

A reader that goes through a list and can fail gives a result if it gives one
for every entry.  What it gives is then related to the list entry by entry
(`mapM_eq_ok`).  If entries may also be left out, it is related to a sublist
(`sublist_of_filterMap`).  Where it fails, it does so with the error of an entry
(`FailsOnly.mapM`).

Lists that are related entry by entry give related results, whichever entries
are searched for or left out, and readings of them agree (`Agree`), be it that
both have related results or that both fail with the same error.
-/

namespace RouteGraft

variable {α β ε : Type}

/-! ## Entry by entry -/

theorem exists_right_of_mem {R : α → β → Prop} {xs : List α} {ys : List β}
    (h : List.Forall₂ R xs ys) {x : α} (hx : x ∈ xs) : ∃ y ∈ ys, R x y := by
  induction h with
  | nil => cases hx
  | @cons a b xs ys hab _ ih =>
      rcases List.mem_cons.1 hx with rfl | hx
      · exact ⟨b, List.mem_cons_self, hab⟩
      · obtain ⟨y, hy, related⟩ := ih hx
        exact ⟨y, List.mem_cons_of_mem b hy, related⟩

theorem exists_left_of_mem {R : α → β → Prop} {xs : List α} {ys : List β}
    (h : List.Forall₂ R xs ys) {y : β} (hy : y ∈ ys) : ∃ x ∈ xs, R x y :=
  exists_right_of_mem h.flip hy

/-- What holds of related entries relates their images. -/
theorem forall₂_map_of_mem {γ δ : Type} {R : α → β → Prop} {S : γ → δ → Prop} {f : α → γ}
    {g : β → δ} {xs : List α} {ys : List β} (h : List.Forall₂ R xs ys)
    (imp : ∀ x ∈ xs, ∀ y ∈ ys, R x y → S (f x) (g y)) :
    List.Forall₂ S (xs.map f) (ys.map g) := by
  induction h with
  | nil => exact .nil
  | @cons a b xs ys hab _ ih =>
      refine .cons (imp a List.mem_cons_self b List.mem_cons_self hab) (ih ?_)
      exact fun x hx y hy => imp x (List.mem_cons_of_mem a hx) y (List.mem_cons_of_mem b hy)

/-- What holds of related entries relates them as well. -/
theorem forall₂_imp_of_mem {R S : α → β → Prop} {xs : List α} {ys : List β}
    (h : List.Forall₂ R xs ys) (imp : ∀ x ∈ xs, ∀ y ∈ ys, R x y → S x y) :
    List.Forall₂ S xs ys := by
  have same := forall₂_map_of_mem (f := id) (g := id) h imp
  rwa [List.map_id, List.map_id] at same

theorem exists_forall₂ {R : α → β → Prop} {xs : List α} (h : ∀ x ∈ xs, ∃ y, R x y) :
    ∃ ys, List.Forall₂ R xs ys := by
  induction xs with
  | nil => exact ⟨[], .nil⟩
  | cons x xs ih =>
      obtain ⟨y, first⟩ := h x List.mem_cons_self
      obtain ⟨ys, later⟩ := ih fun x' hx' => h x' (List.mem_cons_of_mem x hx')
      exact ⟨y :: ys, .cons first later⟩

/-- If every related entry has a related image with a result for it, so do the lists. -/
theorem exists_forall₂_map {γ δ : Type} {R : α → β → Prop} {S : γ → δ → Prop} {T : β → δ → Prop}
    {f : α → γ} {xs : List α} {ys : List β} (h : List.Forall₂ R xs ys)
    (imp : ∀ x ∈ xs, ∀ y, R x y → ∃ z, S (f x) z ∧ T y z) :
    ∃ zs, List.Forall₂ S (xs.map f) zs ∧ List.Forall₂ T ys zs := by
  induction h with
  | nil => exact ⟨[], .nil, .nil⟩
  | @cons a b xs ys hab _ ih =>
      obtain ⟨z, first, first'⟩ := imp a List.mem_cons_self b hab
      obtain ⟨zs, later, later'⟩ := ih fun x hx => imp x (List.mem_cons_of_mem a hx)
      exact ⟨z :: zs, .cons first later, .cons first' later'⟩

theorem exists_head? {R : α → β → Prop} {xs : List α} {ys : List β} (h : List.Forall₂ R xs ys)
    {x : α} (head : xs.head? = some x) : ∃ y, ys.head? = some y ∧ R x y := by
  cases h with
  | nil => cases head
  | cons first _ =>
      cases head
      exact ⟨_, rfl, first⟩

theorem exists_getLast? {R : α → β → Prop} {xs : List α} {ys : List β} (h : List.Forall₂ R xs ys)
    {x : α} (last : xs.getLast? = some x) : ∃ y, ys.getLast? = some y ∧ R x y := by
  rw [List.getLast?_eq_head?_reverse] at last ⊢
  exact exists_head? (List.forall₂_reverse_iff.2 h) last

theorem exists_getElem?_of_forall₂ {R : α → β → Prop} {xs : List α} {ys : List β}
    (h : List.Forall₂ R xs ys) {i : Nat} {y : β} (found : ys[i]? = some y) :
    ∃ x, xs[i]? = some x ∧ R x y := by
  induction h generalizing i with
  | nil => cases found
  | @cons a b xs ys related _ ih =>
      cases i with
      | zero =>
          cases found
          exact ⟨a, rfl, related⟩
      | succ i => exact ih found

theorem exists_append_of_forall₂ {R : α → β → Prop} {xs xs' : List α} {x : α} {ys : List β}
    (h : List.Forall₂ R (xs ++ x :: xs') ys) :
    ∃ zs z zs', ys = zs ++ z :: zs' ∧ List.Forall₂ R xs zs ∧ R x z ∧ List.Forall₂ R xs' zs' := by
  induction xs generalizing ys with
  | nil =>
      obtain ⟨z, zs', first, later, rfl⟩ := List.forall₂_cons_left_iff.1 h
      exact ⟨[], z, zs', rfl, .nil, first, later⟩
  | cons x' xs ih =>
      obtain ⟨y, ys, first, later, rfl⟩ := List.forall₂_cons_left_iff.1 h
      obtain ⟨zs, z, zs', rfl, front, related, back⟩ := ih later
      exact ⟨y :: zs, z, zs', rfl, .cons first front, related, back⟩

/-- The entries that pass a test, if related entries pass it together. -/
theorem forall₂_filter {R : α → β → Prop} {p : α → Bool} {q : β → Bool} {xs : List α}
    {ys : List β} (h : List.Forall₂ R xs ys) (same : ∀ x y, R x y → q y = p x) :
    List.Forall₂ R (xs.filter p) (ys.filter q) :=
  List.rel_filter (fun x y related => Bool.eq_iff_iff.1 (same x y related).symm) h

/-- The last entry that passes a test, if related entries pass it together. -/
theorem exists_getLast?_filter {R : α → β → Prop} {p : α → Bool} {q : β → Bool} {xs : List α}
    {ys : List β} (h : List.Forall₂ R xs ys) (same : ∀ x y, R x y → q y = p x) {x : α}
    (last : (xs.filter p).getLast? = some x) :
    ∃ y, (ys.filter q).getLast? = some y ∧ R x y :=
  exists_getLast? (forall₂_filter h same) last

/-- Entries that are related over entries of a list in between. -/
theorem forall₂_trans {γ : Type} {R : α → β → Prop} {S : β → γ → Prop} {T : α → γ → Prop}
    {xs : List α} {ys : List β} {zs : List γ} (h : List.Forall₂ R xs ys)
    (h' : List.Forall₂ S ys zs) (imp : ∀ x y z, R x y → S y z → T x z) :
    List.Forall₂ T xs zs := by
  induction h generalizing zs with
  | nil =>
      cases h'
      exact .nil
  | @cons a b xs ys hab _ ih =>
      cases h' with
      | cons hbc later => exact .cons (imp _ _ _ hab hbc) (ih later)

/-- Entries without an image can be left out of a search. -/
theorem findSome?_filter {p : α → Bool} {f : α → Option β} {xs : List α}
    (h : ∀ x ∈ xs, p x = false → f x = none) : (xs.filter p).findSome? f = xs.findSome? f := by
  induction xs with
  | nil => rfl
  | cons x xs ih =>
      have later := ih fun x' hx' => h x' (List.mem_cons_of_mem x hx')
      rw [List.filter_cons, List.findSome?_cons]
      cases passes : p x with
      | true => rw [if_pos rfl, List.findSome?_cons, later]
      | false => simp [h x List.mem_cons_self passes, later]

/-- Entries that fail a test can be left out of a search for one that passes it. -/
theorem find?_filter {p q : α → Bool} {xs : List α} (h : ∀ x ∈ xs, p x = false → q x = false) :
    (xs.filter p).find? q = xs.find? q := by
  rw [List.find?_eq_findSome?_guard, List.find?_eq_findSome?_guard]
  refine findSome?_filter fun x hx fails => ?_
  simp [Option.guard, h x hx fails]

/-- The entries from the first one on that fails a test, if related entries fail it
together. -/
theorem forall₂_dropWhile {R : α → β → Prop} {p : α → Bool} {q : β → Bool} {xs : List α}
    {ys : List β} (h : List.Forall₂ R xs ys) (same : ∀ x y, R x y → p x = q y) :
    List.Forall₂ R (xs.dropWhile p) (ys.dropWhile q) := by
  induction h with
  | nil => exact .nil
  | @cons x y xs ys hxy later ih =>
      rw [List.dropWhile_cons, List.dropWhile_cons, same x y hxy]
      split
      · exact ih
      · exact .cons hxy later

theorem forall₂_takeWhile {R : α → β → Prop} {p : α → Bool} {q : β → Bool} {xs : List α}
    {ys : List β} (h : List.Forall₂ R xs ys) (same : ∀ x y, R x y → p x = q y) :
    List.Forall₂ R (xs.takeWhile p) (ys.takeWhile q) := by
  induction h with
  | nil => exact .nil
  | @cons x y xs ys hxy _ ih =>
      rw [List.takeWhile_cons, List.takeWhile_cons, same x y hxy]
      split
      · exact .cons hxy ih
      · exact .nil

/-- Filtering goes together with dropping, if all that stop the dropping are kept. -/
theorem filter_dropWhile {p q : α → Bool} (kept : ∀ x, p x = false → q x = true)
    (xs : List α) : (xs.dropWhile p).filter q = (xs.filter q).dropWhile p := by
  induction xs with
  | nil => rfl
  | cons x xs ih =>
      rw [List.dropWhile_cons]
      cases passes : p x with
      | false => simp [kept x passes, passes]
      | true =>
          rw [if_pos rfl, ih, List.filter_cons]
          split
          · rw [List.dropWhile_cons, if_pos passes]
          · rfl

/-- What is left of a suffix that ends like a list, without that end, in a filtered
list. -/
theorem filter_take_of_suffix {q : α → Bool} {xs front back : List α} {x : α}
    (h : xs <:+ front ++ x :: back) (kept : q x = true) :
    (xs.take (xs.length - (back.length + 1))).filter q
      = (xs.filter q).take ((xs.filter q).length - ((back.filter q).length + 1)) := by
  rcases List.suffix_or_suffix_of_suffix h (List.suffix_append front (x :: back)) with
    short | ⟨rest, rfl⟩
  · have length := short.length_le
    have filtered := (short.filter q).length_le
    rw [List.length_cons] at length
    rw [List.filter_cons, if_pos kept, List.length_cons] at filtered
    rw [Nat.sub_eq_zero_of_le length, Nat.sub_eq_zero_of_le filtered, List.take_zero,
      List.take_zero, List.filter_nil]
  · simp [kept]

/-- The first entry that passes a test, if related entries pass it together. -/
theorem rel_find? {R : α → β → Prop} {p : α → Bool} {q : β → Bool} {xs : List α} {ys : List β}
    (h : List.Forall₂ R xs ys) (same : ∀ x y, R x y → p x = q y) :
    Option.Rel R (xs.find? p) (ys.find? q) := by
  induction h with
  | nil => exact .none
  | @cons x y xs ys hxy _ ih =>
      rw [List.find?_cons, List.find?_cons, same x y hxy]
      split
      · exact .some hxy
      · exact ih

/-- The first image there is, if related entries have related images. -/
theorem rel_findSome? {γ δ : Type} {R : α → β → Prop} {S : γ → δ → Prop} {f : α → Option γ}
    {g : β → Option δ} {xs : List α} {ys : List β} (h : List.Forall₂ R xs ys)
    (imp : ∀ x ∈ xs, ∀ y ∈ ys, R x y → Option.Rel S (f x) (g y)) :
    Option.Rel S (xs.findSome? f) (ys.findSome? g) := by
  induction h with
  | nil => exact .none
  | @cons x y xs ys hxy _ ih =>
      have first := imp x List.mem_cons_self y List.mem_cons_self hxy
      have later := ih fun x' hx' y' hy' =>
        imp x' (List.mem_cons_of_mem x hx') y' (List.mem_cons_of_mem y hy')
      rw [List.findSome?_cons, List.findSome?_cons]
      generalize f x = o at first
      generalize g y = o' at first
      cases first with
      | some related => exact .some related
      | none => exact later

/-- The last entry, of related lists. -/
theorem rel_getLast? {R : α → β → Prop} {xs : List α} {ys : List β} (h : List.Forall₂ R xs ys) :
    Option.Rel R xs.getLast? ys.getLast? := by
  have reversed := List.forall₂_reverse_iff.2 h
  rw [List.getLast?_eq_head?_reverse, List.getLast?_eq_head?_reverse]
  generalize xs.reverse = xs' at reversed
  generalize ys.reverse = ys' at reversed
  cases reversed with
  | nil => exact .none
  | cons first _ => exact .some first

/-- Two searches in a row, of which the second one is for what the first one finds. -/
theorem rel_bind {γ δ : Type} {R : α → β → Prop} {S : γ → δ → Prop} {o : Option α} {o' : Option β}
    {f : α → Option γ} {g : β → Option δ} (h : Option.Rel R o o')
    (later : ∀ a ∈ o, ∀ b ∈ o', R a b → Option.Rel S (f a) (g b)) :
    Option.Rel S (o.bind f) (o'.bind g) := by
  cases h with
  | none => exact .none
  | some related => exact later _ rfl _ rfl related

/-- Related entries with equal images. -/
theorem map_eq_map_of_forall₂ {γ : Type} {R : α → β → Prop} {f : α → γ} {g : β → γ}
    {xs : List α} {ys : List β} (h : List.Forall₂ R xs ys)
    (imp : ∀ x y, R x y → f x = g y) : xs.map f = ys.map g := by
  rw [← List.forall₂_eq_eq_eq]
  exact forall₂_map_of_mem h fun x _ y _ => imp x y

/-! ## Results -/

/-- Two readings in a row succeed if both do. -/
theorem bind_eq_ok {x : Except ε α} {f : α → Except ε β} {b : β} :
    (x >>= f) = .ok b ↔ ∃ a, x = .ok a ∧ f a = .ok b := by
  cases x with
  | error e => simp [bind, Except.bind]
  | ok a => simp [bind, Except.bind]

theorem map_eq_ok {x : Except ε α} {f : α → β} {b : β} :
    x.map f = .ok b ↔ ∃ a, x = .ok a ∧ f a = b := by
  cases x with
  | error e => simp [Except.map]
  | ok a => simp [Except.map]

theorem mapM_eq_ok {f : α → Except ε β} {xs : List α} {ys : List β} :
    xs.mapM f = .ok ys ↔ List.Forall₂ (fun x y => f x = .ok y) xs ys := by
  induction xs generalizing ys with
  | nil =>
      rw [List.mapM_nil, List.forall₂_nil_left_iff]
      exact ⟨fun h => (Except.ok.inj h).symm, fun h => h ▸ rfl⟩
  | cons x xs ih =>
      rw [List.mapM_cons, List.forall₂_cons_left_iff]
      simp only [bind_eq_ok, ih]
      constructor
      · rintro ⟨y, first, ys, later, ⟨⟩⟩
        exact ⟨y, ys, first, later, rfl⟩
      · rintro ⟨y, ys, first, later, rfl⟩
        exact ⟨y, first, ys, later, rfl⟩

/-- The results there are come from a sublist. -/
theorem sublist_of_filterMap {f : α → Except ε (Option β)} {xs : List α} {os : List (Option β)}
    (h : List.Forall₂ (fun x o => f x = .ok o) xs os) :
    ∃ kept, kept.Sublist xs ∧
      List.Forall₂ (fun x y => f x = .ok (some y)) kept (os.filterMap id) := by
  induction h with
  | nil => exact ⟨[], List.Sublist.refl _, .nil⟩
  | @cons x o xs os hxo _ ih =>
      obtain ⟨kept, sub, related⟩ := ih
      cases o with
      | none => exact ⟨kept, sub.cons x, related⟩
      | some y => exact ⟨x :: kept, sub.cons_cons x, .cons hxo related⟩

/-! ## Readings that fail -/

/-- A reading fails at most with errors of some kind. -/
def FailsOnly (P : ε → Prop) (x : Except ε α) : Prop := ∀ e, x = .error e → P e

namespace FailsOnly

variable {P : ε → Prop}

theorem ok (a : α) : FailsOnly P (.ok a) := fun _ failed => nomatch failed

/-- Of two readings in a row the second one takes place only if the first one succeeds. -/
theorem bind {x : Except ε α} {f : α → Except ε β} (h : FailsOnly P x)
    (later : ∀ a, x = .ok a → FailsOnly P (f a)) : FailsOnly P (x >>= f) := by
  cases x with
  | error e => exact fun e' failed => h e' (by cases failed; rfl)
  | ok a => exact later a rfl

theorem map {x : Except ε α} {f : α → β} (h : FailsOnly P x) : FailsOnly P (x.map f) := by
  cases x with
  | error e => exact fun e' failed => h e' (by cases failed; rfl)
  | ok a => exact .ok (f a)

theorem mapM {f : α → Except ε β} {xs : List α} (each : ∀ x ∈ xs, FailsOnly P (f x)) :
    FailsOnly P (xs.mapM f) := by
  induction xs with
  | nil => exact .ok []
  | cons x xs ih =>
      rw [List.mapM_cons]
      refine (each x List.mem_cons_self).bind fun y _ => ?_
      exact (ih fun x' hx' => each x' (List.mem_cons_of_mem x hx')).bind fun ys _ => .ok (y :: ys)

end FailsOnly

/-! ## Readings that agree -/

/-- Two readings agree if both have results and these are related, or if both fail in the
same way. -/
inductive Agree (R : α → β → Prop) : Except ε α → Except ε β → Prop
  | ok {a : α} {b : β} : R a b → Agree R (.ok a) (.ok b)
  | error (e : ε) : Agree R (.error e) (.error e)

namespace Agree

variable {γ δ : Type} {R : α → β → Prop} {S : γ → δ → Prop}

theorem of_eq {x y : Except ε α} (h : x = y) : Agree Eq x y := by
  subst h
  cases x with
  | ok a => exact .ok rfl
  | error e => exact .error e

theorem bind {x : Except ε α} {y : Except ε β} {f : α → Except ε γ} {g : β → Except ε δ}
    (h : Agree R x y) (later : ∀ a b, R a b → Agree S (f a) (g b)) :
    Agree S (x >>= f) (y >>= g) := by
  cases h with
  | ok related => exact later _ _ related
  | error e => exact .error e

theorem map {x : Except ε α} {y : Except ε β} {f : α → γ} {g : β → δ} (h : Agree R x y)
    (image : ∀ a b, R a b → S (f a) (g b)) : Agree S (x.map f) (y.map g) := by
  cases h with
  | ok related => exact .ok (image _ _ related)
  | error e => exact .error e

theorem mapM {T : γ → δ → Prop} {f : γ → Except ε α} {g : δ → Except ε β} {xs : List γ}
    {ys : List δ} (h : List.Forall₂ T xs ys)
    (each : ∀ x ∈ xs, ∀ y ∈ ys, T x y → Agree R (f x) (g y)) :
    Agree (List.Forall₂ R) (xs.mapM f) (ys.mapM g) := by
  induction h with
  | nil => exact .ok .nil
  | @cons x y xs ys hxy _ ih =>
      rw [List.mapM_cons, List.mapM_cons]
      refine (each x List.mem_cons_self y List.mem_cons_self hxy).bind fun a b first => ?_
      refine (ih ?_).bind fun as bs later => .ok (.cons first later)
      exact fun x' hx' y' hy' =>
        each x' (List.mem_cons_of_mem x hx') y' (List.mem_cons_of_mem y hy')

end Agree

end RouteGraft
