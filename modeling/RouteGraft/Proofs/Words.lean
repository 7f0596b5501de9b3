import Mathlib.Data.List.Basic
import RouteGraft.Naming

/-!
# Words and their places

The words of a text hold its letters and digits in order (`Naming.flatten_wordsAfter`).  To say
which characters share a word takes more, since the words alone do not tell where they stand.
`Naming.Cuts` is how a text is cut: a character that belongs to no word is passed over, and a
word is taken as a whole, with its place (`Naming.Found`).  It is a word if it ends by the rule
after its last character and nowhere before (`Naming.IsWord`).

The words of a text are the texts of its cut (`Naming.Cuts.wordsAfter_eq`).  Every letter and digit
is at the place of one word and of no other one, and this word goes on to the next place unless
the rule ends it (`Naming.Cuts.exists_covers`, `Naming.Cuts.eq_of_covers`).
-/

namespace RouteGraft.Naming

/-! ## Classes of characters -/

theorem isCapital_iff {c : Char} : isCapital c = true ↔ 65 ≤ c.toNat ∧ c.toNat ≤ 90 := by
  rw [isCapital, Bool.and_eq_true, decide_eq_true_eq, decide_eq_true_eq]
  exact Iff.rfl

theorem isSmallLetter_iff {c : Char} :
    isSmallLetter c = true ↔ 97 ≤ c.toNat ∧ c.toNat ≤ 122 := by
  rw [isSmallLetter, Bool.and_eq_true, decide_eq_true_eq, decide_eq_true_eq]
  exact Iff.rfl

theorem isDigit_iff {c : Char} : isDigit c = true ↔ 48 ≤ c.toNat ∧ c.toNat ≤ 57 := by
  rw [isDigit, Bool.and_eq_true, decide_eq_true_eq, decide_eq_true_eq]
  exact Iff.rfl

theorem isSmall_of_isSmallLetter {c : Char} (h : isSmallLetter c = true) : isSmall c = true := by
  simp [isSmall, h]

theorem not_isCapital_of_isSmall {c : Char} (h : isSmall c = true) : isCapital c = false := by
  rw [isSmall, Bool.or_eq_true, isSmallLetter_iff, isDigit_iff] at h
  rw [← Bool.not_eq_true, isCapital_iff]
  omega

theorem not_isSmall_of_isCapital {c : Char} (h : isCapital c = true) : isSmall c = false := by
  cases small : isSmall c with
  | false => rfl
  | true => rw [not_isCapital_of_isSmall small] at h; cases h

theorem not_isDigit_of_isSmallLetter {c : Char} (h : isSmallLetter c = true) :
    isDigit c = false := by
  rw [isSmallLetter_iff] at h
  rw [← Bool.not_eq_true, isDigit_iff]
  omega

theorem isWordChar_of_isSmall {c : Char} (h : isSmall c = true) : isWordChar c = true := by
  simp [isWordChar, h]

theorem isWordChar_of_isCapital {c : Char} (h : isCapital c = true) : isWordChar c = true := by
  simp [isWordChar, h]

theorem not_isCapital_of_not_isWordChar {c : Char} (h : isWordChar c = false) :
    isCapital c = false := by
  simp only [isWordChar, Bool.or_eq_false_iff] at h
  exact h.1

/-! ## The characters of words -/

/-- Words hold the characters of words, in order, and nothing else. -/
theorem flatten_wordsAfter (before : Option Char) (cs : List Char) :
    (wordsAfter before cs).flatten = cs.filter isWordChar := by
  induction cs generalizing before with
  | nil => rfl
  | cons c rest ih =>
      rw [wordsAfter, List.filter_cons]
      cases word : isWordChar c with
      | false => simp [ih]
      | true =>
          simp only [Bool.not_true, Bool.false_eq_true, if_false, if_true]
          split
          · simp [ih]
          · rw [← ih (some c)]
            split
            · next none => simp [none]
            · next w ws later => simp [later]

theorem isWordChar_of_mem_wordsAfter {before : Option Char} {cs w : List Char}
    (hw : w ∈ wordsAfter before cs) : ∀ c ∈ w, isWordChar c = true := by
  intro c hc
  have member : c ∈ (wordsAfter before cs).flatten := List.mem_flatten.2 ⟨w, hw, hc⟩
  rw [flatten_wordsAfter] at member
  exact (List.mem_filter.1 member).2

theorem ne_nil_of_mem_wordsAfter {before : Option Char} {cs w : List Char}
    (hw : w ∈ wordsAfter before cs) : w ≠ [] := by
  induction cs generalizing before w with
  | nil => exact absurd hw List.not_mem_nil
  | cons c rest ih =>
      rw [wordsAfter] at hw
      split at hw
      · exact ih hw
      split at hw
      · rcases List.mem_cons.1 hw with rfl | later
        · exact List.cons_ne_nil c []
        · exact ih later
      split at hw
      · rw [List.mem_singleton.1 hw]
        exact List.cons_ne_nil c []
      next v vs later =>
        rcases List.mem_cons.1 hw with rfl | member
        · exact List.cons_ne_nil c v
        · exact ih (later ▸ List.mem_cons_of_mem v member)

/-! ## Where words end -/

section Ends

variable {before : Option Char} {c d : Char} {more rest : List Char}

theorem endsWord_of_isSmall (small : isSmall c = true) :
    endsWord before c rest = !rest.head?.any isSmall := by
  cases rest with
  | nil => rfl
  | cons d more =>
      cases smaller : isSmall d with
      | true => simp [endsWord, small, smaller, isWordChar, not_isCapital_of_isSmall smaller]
      | false => simp [endsWord, small, smaller, isWordChar]

theorem endsWord_of_capitals (capital : isCapital c = true) (capital' : isCapital d = true) :
    endsWord before c (d :: more) = more.head?.any isSmallLetter := by
  simp [endsWord, isWordChar, not_isSmall_of_isCapital capital, capital']

theorem endsWord_of_capital_small (capital : isCapital c = true) (small : isSmall d = true) :
    endsWord before c (d :: more) = (isDigit d && before.any isCapital) := by
  simp [endsWord, isWordChar, not_isSmall_of_isCapital capital, small,
    not_isCapital_of_isSmall small]

end Ends

/-! ## How a text is cut -/

/-- A text that was found, and its place. -/
structure Found where
  /-- The place of its first character. -/
  start : Nat
  /-- Its characters. -/
  text : List Char
  deriving DecidableEq, Repr

/-- Whether a place is inside of a text that was found. -/
def Found.Covers (f : Found) (i : Nat) : Prop := f.start ≤ i ∧ i < f.start + f.text.length

/-- A word at the start of a text.  It ends after its last character and not before.  The
character in front of it is `before`, and `rest` is behind it. -/
structure IsWord (before : Option Char) (w rest : List Char) : Prop where
  nonempty : w ≠ []
  wordChars : ∀ c ∈ w, isWordChar c = true
  ends : ∀ front c back, w = front ++ c :: back →
    endsWord (front.getLast?.or before) c (back ++ rest) = back.isEmpty

/-- How a text is cut into words.  It starts at a place and has `before` in front of it. -/
inductive Cuts : (start : Nat) → (before : Option Char) → List Char → List Found → Prop
  | nil {start : Nat} {before : Option Char} : Cuts start before [] []
  /-- A character that belongs to no word is passed over. -/
  | skip {start : Nat} {before : Option Char} {c : Char} {rest : List Char} {found : List Found} :
      isWordChar c = false → Cuts (start + 1) (some c) rest found →
        Cuts start before (c :: rest) found
  /-- A word is taken as a whole. -/
  | word {start : Nat} {before : Option Char} {w rest : List Char} {found : List Found} :
      IsWord before w rest → Cuts (start + w.length) w.getLast? rest found →
        Cuts start before (w ++ rest) (⟨start, w⟩ :: found)

/-! ## The rule cuts a text -/

/-- The character in front of a place does not change when the text is taken one character
earlier. -/
theorem getLast?_or_some (front : List Char) (c : Char) (before : Option Char) :
    front.getLast?.or (some c) = (c :: front).getLast?.or before := by
  rw [List.getLast?_cons]
  cases front.getLast? <;> rfl

namespace IsWord

variable {before : Option Char} {w rest : List Char} {c d : Char}

theorem tail (h : IsWord before (c :: d :: w) rest) : IsWord (some c) (d :: w) rest where
  nonempty := List.cons_ne_nil d w
  wordChars := fun x hx => h.wordChars x (List.mem_cons_of_mem c hx)
  ends := by
    intro front x back shape
    rw [getLast?_or_some front c before]
    exact h.ends (c :: front) x back (by rw [shape, List.cons_append])

theorem wordsAfter_append (h : IsWord before w rest) :
    wordsAfter before (w ++ rest) = w :: wordsAfter w.getLast? rest := by
  induction w generalizing before with
  | nil => exact absurd rfl h.nonempty
  | cons c w ih =>
      have here : isWordChar c = true := h.wordChars c List.mem_cons_self
      have ends : endsWord before c (w ++ rest) = w.isEmpty := h.ends [] c w rfl
      rw [List.cons_append, wordsAfter, here, ends]
      cases w with
      | nil => rfl
      | cons d v =>
          have last : (c :: d :: v).getLast? = (d :: v).getLast? := by simp [List.getLast?_cons]
          rw [ih h.tail, last]
          rfl

end IsWord

/-- Small letters and digits are a word as far as they go. -/
theorem isWord_small {before : Option Char} {w rest : List Char} (nonempty : w ≠ [])
    (small : ∀ c ∈ w, isSmall c = true) (stop : rest.head?.any isSmall = false) :
    IsWord before w rest where
  nonempty := nonempty
  wordChars := fun c hc => isWordChar_of_isSmall (small c hc)
  ends := by
    rintro front c back rfl
    rw [endsWord_of_isSmall (small c (by simp))]
    cases back with
    | nil => simp [stop]
    | cons d back => simp [small d (by simp)]

theorem Cuts.wordsAfter_eq {start : Nat} {before : Option Char} {cs : List Char}
    {found : List Found} (h : Cuts start before cs found) :
    wordsAfter before cs = found.map Found.text := by
  induction h with
  | nil => rfl
  | skip other _ ih => rw [wordsAfter, ← ih, other]; rfl
  | word isWord _ ih => rw [isWord.wordsAfter_append, ih, List.map_cons]

/-! ## The places of words -/

/-- Two places are in different words. -/
def Apart (found : List Found) (i j : Nat) : Prop :=
  ∃ f ∈ found, ∃ g ∈ found, f.Covers i ∧ g.Covers j ∧ f ≠ g

/-- A word ends between two neighbours, `c` and `d`, with `front` in front of them and `back`
behind them. -/
inductive Boundary (front : List Char) (c d : Char) (back : List Char) : Prop
  /-- A small letter or a digit is in front of a capital. -/
  | capital : isSmall c = true → isCapital d = true → Boundary front c d back
  /-- Of two capitals the second one is in front of a small letter. -/
  | lastCapital {e : Char} {more : List Char} : isCapital c = true → isCapital d = true →
      back = e :: more → isSmallLetter e = true → Boundary front c d back
  /-- A capital behind a capital is in front of a digit. -/
  | digit {earlier : List Char} {b : Char} : isCapital c = true → isDigit d = true →
      front = earlier ++ [b] → isCapital b = true → Boundary front c d back

theorem endsWord_iff {front back : List Char} {c d : Char} (here : isWordChar c = true)
    (next : isWordChar d = true) :
    endsWord front.getLast? c (d :: back) = true ↔ Boundary front c d back := by
  constructor
  · intro ends
    cases capital : isCapital c with
    | false =>
        have small : isSmall c = true := by simpa [isWordChar, capital] using here
        refine .capital small ?_
        rw [endsWord_of_isSmall small, Bool.not_eq_true'] at ends
        simpa [isWordChar, show isSmall d = false from ends] using next
    | true =>
        cases capital' : isCapital d with
        | true =>
            rw [endsWord_of_capitals capital capital'] at ends
            cases back with
            | nil => cases ends
            | cons e more => exact .lastCapital capital capital' rfl ends
        | false =>
            have small : isSmall d = true := by simpa [isWordChar, capital'] using next
            rw [endsWord_of_capital_small capital small, Bool.and_eq_true] at ends
            obtain ⟨digit, behind⟩ := ends
            obtain ⟨b, last, capitalBefore⟩ := (Option.any_eq_true _ _).1 behind
            obtain ⟨earlier, shape⟩ := List.getLast?_eq_some_iff.1 last
            exact .digit capital digit shape capitalBefore
  · intro boundary
    cases boundary with
    | capital small capital =>
        rw [endsWord_of_isSmall small]
        simp [not_isSmall_of_isCapital capital]
    | lastCapital capital capital' shape letter =>
        rw [endsWord_of_capitals capital capital', shape]
        simpa using letter
    | digit capital digit shape capitalBefore =>
        have small : isSmall d = true := by simp [isSmall, digit]
        rw [endsWord_of_capital_small capital small, shape]
        simp [digit, capitalBefore]

namespace Cuts

variable {start : Nat} {before : Option Char} {cs : List Char} {found : List Found}

theorem start_le (h : Cuts start before cs found) : ∀ f ∈ found, start ≤ f.start := by
  induction h with
  | nil => exact fun f hf => absurd hf List.not_mem_nil
  | skip _ _ ih => exact fun f hf => Nat.le_of_succ_le (ih f hf)
  | word _ _ ih =>
      refine List.forall_mem_cons.2 ⟨Nat.le_refl _, fun f hf => ?_⟩
      exact Nat.le_trans (Nat.le_add_right _ _) (ih f hf)

/-- What is found stands at its place. -/
theorem stands (h : Cuts start before cs found) :
    ∀ f ∈ found, ∃ front back, cs = front ++ f.text ++ back ∧ f.start = start + front.length := by
  induction h with
  | nil => exact fun f hf => absurd hf List.not_mem_nil
  | @skip _ _ c _ _ _ _ ih =>
      intro f hf
      obtain ⟨front, back, rfl, place⟩ := ih f hf
      exact ⟨c :: front, back, rfl, by rw [place, List.length_cons]; omega⟩
  | @word _ _ w rest _ _ _ ih =>
      refine List.forall_mem_cons.2 ⟨⟨[], rest, rfl, rfl⟩, fun f hf => ?_⟩
      obtain ⟨front, back, rfl, place⟩ := ih f hf
      exact ⟨w ++ front, back, by simp, by rw [place, List.length_append]; omega⟩

/-- No two words have a place in common. -/
theorem eq_of_covers (h : Cuts start before cs found) {f g : Found} {i : Nat} (hf : f ∈ found)
    (hg : g ∈ found) (coversF : f.Covers i) (coversG : g.Covers i) : f = g := by
  induction h with
  | nil => exact absurd hf List.not_mem_nil
  | skip _ _ ih => exact ih hf hg
  | @word start _ w _ _ _ later ih =>
      have beyond {k : Found} (hk : Found.Covers ⟨start, w⟩ i) (member : k ∈ _) : ¬ k.Covers i :=
        fun covers => Nat.lt_irrefl i
          (Nat.lt_of_lt_of_le hk.2 (Nat.le_trans (later.start_le k member) covers.1))
      rcases List.mem_cons.1 hf with rfl | hf
      · rcases List.mem_cons.1 hg with rfl | hg
        · rfl
        · exact absurd coversG (beyond coversF hg)
      · rcases List.mem_cons.1 hg with rfl | hg
        · exact absurd coversF (beyond coversG hf)
        · exact ih hf hg

/-- A character of a word is in one, and the word goes on behind it if the rule says so. -/
theorem exists_covers (h : Cuts start before cs found) {front back : List Char} {c : Char}
    (shape : cs = front ++ c :: back) (word : isWordChar c = true) :
    ∃ f ∈ found, f.Covers (start + front.length) ∧
      (f.Covers (start + front.length + 1) ↔
        endsWord (front.getLast?.or before) c back = false) := by
  induction h generalizing front with
  | nil => exact absurd shape.symm (by simp)
  | @skip start _ x rest found other _ ih =>
      cases front with
      | nil =>
          cases shape
          rw [word] at other
          cases other
      | cons _ front =>
          cases shape
          obtain ⟨f, hf, here, next⟩ := ih rfl
          have place : start + (x :: front).length = start + 1 + front.length := by
            rw [List.length_cons]
            omega
          rw [getLast?_or_some front x] at next
          exact ⟨f, hf, by rwa [place], by rwa [place]⟩
  | @word start before w rest found isWord later ih =>
      -- the character is behind the word or inside of it
      have behind (more : List Char) (shape : rest = more ++ c :: back) :
          ∃ f ∈ ⟨start, w⟩ :: found, f.Covers (start + (w ++ more).length) ∧
            (f.Covers (start + (w ++ more).length + 1) ↔
              endsWord ((w ++ more).getLast?.or before) c back = false) := by
        obtain ⟨f, hf, here, next⟩ := ih shape
        have last : (w ++ more).getLast?.or before = more.getLast?.or w.getLast? := by
          rw [List.getLast?_append, List.getLast?_eq_some_getLast isWord.nonempty]
          cases more.getLast? <;> rfl
        rw [List.length_append, ← Nat.add_assoc, last]
        exact ⟨f, List.mem_cons_of_mem _ hf, here, next⟩
      rcases List.append_eq_append_iff.1 shape with ⟨more, rfl, split⟩ | ⟨inside, rfl, split⟩
      · exact behind more split
      · cases inside with
        | nil =>
            have behind := behind [] split.symm
            simpa only [List.append_nil] using behind
        | cons x inside =>
            rw [List.cons_append] at split
            obtain ⟨rfl, rfl⟩ := List.cons.inj split
            have next : Found.Covers ⟨start, front ++ c :: inside⟩ (start + front.length + 1) ↔
                0 < inside.length := by
              simp only [Found.Covers, List.length_append, List.length_cons]
              omega
            refine ⟨_, List.mem_cons_self, ⟨by simp, by simp⟩, ?_⟩
            rw [next, isWord.ends front c inside rfl, List.length_pos_iff]
            cases inside <;> simp

/-- A word is found at no other character. -/
theorem isWordChar_of_covers (h : Cuts start before cs found) {f : Found} (hf : f ∈ found)
    {front back : List Char} {c : Char} (shape : cs = front ++ c :: back)
    (covers : f.Covers (start + front.length)) : isWordChar c = true := by
  have word : ∀ c ∈ f.text, isWordChar c = true :=
    isWordChar_of_mem_wordsAfter (h.wordsAfter_eq ▸ List.mem_map_of_mem hf)
  obtain ⟨earlier, later, same, place⟩ := h.stands f hf
  obtain ⟨low, high⟩ := covers
  have inside : front.length - earlier.length < f.text.length := by omega
  have reads : f.text[front.length - earlier.length]? = some c := by
    have reads : cs[front.length]? = some c := by simp [shape]
    rwa [same, List.append_assoc, List.getElem?_append_right (by omega),
      List.getElem?_append_left inside] at reads
  exact word c (List.mem_of_getElem? reads)

/-- Characters of words with another character between them are in different words. -/
theorem apart_of_between (h : Cuts start before cs found) {front middle back : List Char}
    {c d x : Char} (shape : cs = front ++ c :: (middle ++ d :: back)) (here : isWordChar c = true)
    (there : isWordChar d = true) (member : x ∈ middle) (other : isWordChar x = false) :
    Apart found (start + front.length) (start + (front ++ c :: middle).length) := by
  obtain ⟨f, hf, coversC, -⟩ := h.exists_covers shape here
  have shapeD : cs = (front ++ c :: middle) ++ d :: back := by
    rw [shape, List.append_assoc, List.cons_append]
  obtain ⟨g, hg, coversD, -⟩ := h.exists_covers shapeD there
  refine ⟨f, hf, g, hg, coversC, coversD, ?_⟩
  rintro rfl
  -- one word for both would hold the character between them
  obtain ⟨left, right, rfl⟩ := List.append_of_mem member
  have shapeX : cs = (front ++ c :: left) ++ x :: (right ++ d :: back) := by simp [shape]
  have between : f.Covers (start + (front ++ c :: left).length) := by
    obtain ⟨low, -⟩ := coversC
    obtain ⟨-, high⟩ := coversD
    simp only [List.length_append, List.length_cons] at high
    simp only [Found.Covers, List.length_append, List.length_cons]
    omega
  rw [h.isWordChar_of_covers hf shapeX between] at other
  cases other

/-- Neighbours are in different words just if a word ends between them. -/
theorem apart_iff (h : Cuts start before cs found) {front back : List Char} {c d : Char}
    (shape : cs = front ++ c :: d :: back) (here : isWordChar c = true)
    (there : isWordChar d = true) :
    Apart found (start + front.length) (start + front.length + 1) ↔
      endsWord (front.getLast?.or before) c (d :: back) = true := by
  obtain ⟨f, hf, coversC, next⟩ := h.exists_covers shape here
  have shapeD : cs = (front ++ [c]) ++ d :: back := by rw [shape, List.append_assoc]; rfl
  obtain ⟨g, hg, coversD, -⟩ := h.exists_covers shapeD there
  rw [List.length_append, List.length_singleton, ← Nat.add_assoc] at coversD
  rw [← Bool.not_eq_false, ← next]
  constructor
  · rintro ⟨f', hf', g', hg', coversC', coversD', different⟩ both
    obtain rfl := h.eq_of_covers hf' hf coversC' coversC
    exact different (h.eq_of_covers hf' hg' both coversD')
  · exact fun ends => ⟨f, hf, g, hg, coversC, coversD, fun same => ends (same ▸ coversD)⟩

end Cuts

end RouteGraft.Naming
