import RouteGraft.Proofs.Characters
import RouteGraft.Proofs.Documents

/-!
# Words, numbers and strings that are read back

A reader is given a text with something behind it, and has to stop where the text stops.
For most texts it does not matter what is behind them.  A number only ends where a blank, a
comma or a closing bracket stands behind it, or nothing (`Ends`), which is all that can
stand behind a value in a document.

A string is read byte by byte into the bytes it stands for, and its characters are the ones
of the text because every character adds its own bytes (`CharText.stringBytes_append`),
however it is written.
-/

namespace RouteGraft.Json

open Reader (byte isBlank isDigit digitsValue skipBlanks)

/-! ## What stands behind a text -/

/-- Nothing, or something that ends a number. -/
def Ends (rest : Bytes) : Prop :=
  ∀ b ∈ rest.head?, isBlank b = true ∨ b = byte ',' ∨ b = byte ']' ∨ b = byte '\x7d'

/-- Nothing, or something that is no digit. -/
def EndsDigits (rest : Bytes) : Prop := ∀ b ∈ rest.head?, isDigit b = false

theorem endsDigits_cons {b : UInt8} {rest : Bytes} (h : isDigit b = false) :
    EndsDigits (b :: rest) := by
  intro b' hb'
  cases hb'
  exact h

theorem not_isDigit_of_isBlank {b : UInt8} (h : isBlank b = true) : isDigit b = false := by
  simp only [isBlank, Bool.or_eq_true, decide_eq_true_eq] at h
  rcases h with ((rfl | rfl) | rfl) | rfl
  all_goals rfl

theorem Ends.endsDigits {rest : Bytes} (h : Ends rest) : EndsDigits rest := by
  intro b hb
  rcases h b hb with blank | rfl | rfl | rfl
  · exact not_isDigit_of_isBlank blank
  all_goals rfl

/-- What ends a number does not go on with a point or a power of ten. -/
theorem Ends.ne {rest : Bytes} (h : Ends rest) {b : UInt8} {more : Bytes} (hb : rest = b :: more) :
    b ≠ byte '.' ∧ b ≠ byte 'e' ∧ b ≠ byte 'E' := by
  subst hb
  rcases h b rfl with blank | rfl | rfl | rfl
  · simp only [isBlank, Bool.or_eq_true, decide_eq_true_eq] at blank
    rcases blank with ((rfl | rfl) | rfl) | rfl
    all_goals decide
  all_goals decide

theorem ends_nil : Ends [] := fun _ hb => by cases hb

/-- Blanks in front of what ends a number end it as well. -/
theorem ends_append {w rest : Bytes} (blanks : Blanks w) (h : Ends rest) : Ends (w ++ rest) := by
  cases w with
  | nil => exact h
  | cons b w =>
      intro b' hb'
      cases hb'
      exact .inl (blanks b List.mem_cons_self)

theorem ends_comma (rest : Bytes) : Ends (byte ',' :: rest) := by
  intro b hb
  cases hb
  exact .inr (.inl rfl)

/-! ## Blanks -/

theorem skipBlanks_append {w rest : Bytes} (blanks : Blanks w) :
    skipBlanks (w ++ rest) = skipBlanks rest :=
  List.dropWhile_append_of_pos blanks

theorem skipBlanks_cons {b : UInt8} {rest : Bytes} (h : isBlank b = false) :
    skipBlanks (b :: rest) = b :: rest := by
  simp [skipBlanks, h]

theorem skipBlanks_append_cons {w : Bytes} {b : UInt8} {rest : Bytes} (blanks : Blanks w)
    (h : isBlank b = false) : skipBlanks (w ++ b :: rest) = b :: rest :=
  (skipBlanks_append blanks).trans (skipBlanks_cons h)

/-! ## Words -/

theorem word_append (w : List Char) (rest : Bytes) :
    Reader.word w (w.map byte ++ rest) = .ok rest := by
  induction w with
  | nil => rfl
  | cons c w ih => simp [Reader.word, ih]

/-! ## Digits -/

theorem Digits.exists_cons {t : Bytes} (h : Digits t) :
    ∃ b more, t = b :: more ∧ isDigit b = true := by
  obtain ⟨nonempty, all⟩ := h
  obtain ⟨b, more, rfl⟩ := List.exists_cons_of_ne_nil nonempty
  exact ⟨b, more, rfl, all b List.mem_cons_self⟩

/-- Digits do not start with something that is no digit. -/
theorem Digits.head?_ne {t : Bytes} (h : Digits t) (rest : Bytes) (b : UInt8)
    (hb : isDigit b = false) :
    (t ++ rest).head? ≠ some b := by
  obtain ⟨b', more, rfl, digit⟩ := h.exists_cons
  intro same
  cases same
  cases digit.symm.trans hb

theorem someDigits_append {t rest : Bytes} (digits : Digits t) (ends : EndsDigits rest) :
    Reader.someDigits (t ++ rest) = .ok (t, rest) := by
  obtain ⟨nonempty, all⟩ := digits
  have front : (t ++ rest).takeWhile isDigit = t := by
    rw [List.takeWhile_append_of_pos all]
    cases rest with
    | nil => simp
    | cons b rest => simp [ends b rfl]
  have back : (t ++ rest).dropWhile isDigit = rest := by
    rw [List.dropWhile_append_of_pos all]
    cases rest with
    | nil => simp
    | cons b rest => simp [ends b rfl]
  cases t with
  | nil => exact absurd rfl nonempty
  | cons b t =>
      rw [List.cons_append] at front back ⊢
      simp [Reader.someDigits, all b List.mem_cons_self, front, back]

theorem wholeDigits_append {t rest : Bytes} (whole : WholeDigits t) (ends : EndsDigits rest) :
    Reader.wholeDigits (t ++ rest) = .ok (t, rest) := by
  obtain ⟨digits, zero⟩ := whole
  cases t with
  | nil => exact absurd rfl digits.1
  | cons b t =>
      by_cases hb : b = byte '0'
      · obtain ⟨-, rfl⟩ := List.cons.inj (zero (by rw [hb]; rfl))
        cases rest with
        | nil => simp [Reader.wholeDigits, hb]
        | cons d rest => simp [Reader.wholeDigits, hb, ends d rfl]
      · have some := someDigits_append digits ends
        rw [List.cons_append] at some ⊢
        simp [Reader.wholeDigits, hb, some]

/-! ## Numbers -/

theorem fraction_append {behind : Option Bytes} {f rest : Bytes} (h : FractionText behind f)
    (ends : EndsDigits rest) (noPoint : ∀ b ∈ rest.head?, b ≠ byte '.') :
    Reader.fraction (f ++ rest) = .ok (behind, rest) := by
  cases h with
  | absent =>
      cases rest with
      | nil => rfl
      | cons b rest => simp [Reader.fraction, noPoint b rfl]
  | digits digits => simp [Reader.fraction, someDigits_append digits ends, Except.map]

theorem isExponent_of {e : Char} (h : e = 'e' ∨ e = 'E') :
    byte e = byte 'e' ∨ byte e = byte 'E' := by
  rcases h with rfl | rfl
  · exact .inl rfl
  · exact .inr rfl

theorem exponent_append {power : Option Int} {p rest : Bytes} (h : ExponentText power p)
    (ends : Ends rest) : Reader.exponent (p ++ rest) = .ok (power, rest) := by
  cases h with
  | absent =>
      cases rest with
      | nil => rfl
      | cons b rest =>
          obtain ⟨-, small, capital⟩ := ends.ne rfl
          simp [Reader.exponent, small, capital]
  | plain letter digits =>
      have noMinus := digits.head?_ne rest (byte '-') rfl
      have noPlus := digits.head?_ne rest (byte '+') rfl
      simp [Reader.exponent, isExponent_of letter, noMinus, noPlus, -List.head?_append,
        someDigits_append digits ends.endsDigits, Except.map]
  | plus letter digits =>
      have noMinus : byte '+' ≠ byte '-' := by decide
      simp [Reader.exponent, isExponent_of letter, noMinus,
        someDigits_append digits ends.endsDigits, Except.map]
  | minus letter digits =>
      simp [Reader.exponent, isExponent_of letter, someDigits_append digits ends.endsDigits,
        Except.map]

/-- A power of ten starts with no digit and no point. -/
theorem ExponentText.head {power : Option Int} {p rest : Bytes} (h : ExponentText power p)
    (ends : Ends rest) : EndsDigits (p ++ rest) ∧ ∀ b ∈ (p ++ rest).head?, b ≠ byte '.' := by
  have starts (e : Char) (letter : e = 'e' ∨ e = 'E') (t : Bytes) :
      EndsDigits (byte e :: t) ∧ ∀ b ∈ (byte e :: t).head?, b ≠ byte '.' := by
    rcases letter with rfl | rfl
    · exact ⟨endsDigits_cons rfl, fun b hb => by cases hb; decide⟩
    · exact ⟨endsDigits_cons rfl, fun b hb => by cases hb; decide⟩
  cases h with
  | absent =>
      refine ⟨ends.endsDigits, fun b hb => ?_⟩
      cases rest with
      | nil => cases hb
      | cons b' rest =>
          cases hb
          exact (ends.ne rfl).1
  | plain letter digits => exact starts _ letter _
  | plus letter digits => exact starts _ letter _
  | minus letter digits => exact starts _ letter _

/-- A fraction starts with no digit. -/
theorem FractionText.head {behind : Option Bytes} {f rest : Bytes} (h : FractionText behind f)
    (ends : EndsDigits rest) : EndsDigits (f ++ rest) := by
  cases h with
  | absent => exact ends
  | digits digits => exact endsDigits_cons rfl

theorem checkLength_of_le {longest : Nat} (short : longest ≤ Reader.maxDigits) {negative : Bool}
    {whole : Bytes} (h : (sign negative ++ whole).length ≤ longest) (s : Bytes) :
    Reader.checkLength negative whole s = .ok () := by
  have length : (if negative then 1 else 0) + whole.length ≤ longest := by
    cases negative with
    | false => simpa [sign] using h
    | true => simpa [sign, Nat.add_comm] using h
  unfold Reader.checkLength
  simp only
  rw [if_neg (by omega)]

/-- The digits and all that belongs to a number behind its sign. -/
theorem unsignedNumber_append {longest : Nat} (short : longest ≤ Reader.maxDigits)
    {negative : Bool} {whole f p rest : Bytes} {behind : Option Bytes} {power : Option Int}
    (digits : WholeDigits whole) (length : (sign negative ++ whole).length ≤ longest)
    (fractional : FractionText behind f) (exponential : ExponentText power p) (ends : Ends rest) :
    Reader.unsignedNumber negative (whole ++ (f ++ (p ++ rest)))
      = .ok (match behind, power with
          | none, none =>
              .integer (if negative then -(digitsValue whole : Int) else digitsValue whole)
          | _, _ =>
              .decimal negative (digitsValue (whole ++ behind.getD []))
                (power.getD 0 - (behind.getD []).length), rest) := by
  obtain ⟨endsWhole, noPoint⟩ := exponential.head ends
  have first := wholeDigits_append digits (fractional.head endsWhole)
  have second := fraction_append fractional endsWhole noPoint
  have third := exponent_append exponential ends
  unfold Reader.unsignedNumber
  rw [if_neg (digits.1.head?_ne _ _ rfl)]
  simp only [first, second, third, checkLength_of_le short length, bind, Except.bind, pure,
    Except.pure]
  cases behind with
  | none =>
      cases power with
      | none => rfl
      | some n => rfl
  | some t => rfl

/-- A number stops the reader if it is too long, whatever stands behind its first digits. -/
theorem unsignedNumber_tooLong {whole rest : Bytes} (digits : WholeDigits whole)
    (long : Reader.maxDigits < whole.length) (ends : EndsDigits rest) :
    Reader.unsignedNumber false (whole ++ rest)
      = .error (.numberTooLong, (whole ++ rest).drop (Reader.maxDigits + 1)) := by
  have first := wholeDigits_append digits ends
  have refused : Reader.checkLength false whole (whole ++ rest)
      = .error (.numberTooLong, (whole ++ rest).drop (Reader.maxDigits + 1)) := by
    unfold Reader.checkLength
    simp only
    rw [if_pos (by simpa using long)]
    rfl
  unfold Reader.unsignedNumber
  rw [if_neg (digits.1.head?_ne _ _ rfl)]
  simp only [first, refused, bind, Except.bind]

/-- The number of a text is read, whatever it is. -/
theorem NumberText.unsignedNumber_append {longest : Nat} (short : longest ≤ Reader.maxDigits)
    {n : Number} {t : Bytes} (h : NumberText longest n t) :
    n = .nan ∧ t = ascii "NaN" ∨
      ∃ negative behind, t = sign negative ++ behind ∧
        (∃ b ∈ behind.head?, isDigit b = true ∨ b = byte 'I') ∧
          ∀ {rest}, Ends rest →
            Reader.unsignedNumber negative (behind ++ rest) = .ok (n, rest) := by
  have first {whole more : Bytes} (digits : WholeDigits whole) :
      ∃ b ∈ (whole ++ more).head?, isDigit b = true ∨ b = byte 'I' := by
    obtain ⟨b, whole, rfl, digit⟩ := digits.1.exists_cons
    exact ⟨b, rfl, .inl digit⟩
  cases h with
  | @integer negative whole digits length =>
      exact .inr ⟨negative, whole, rfl, List.append_nil whole ▸ first digits,
        Json.unsignedNumber_append short digits length .absent .absent⟩
  | @decimal negative whole f p behind power digits length fractional exponential decimal =>
      refine .inr ⟨negative, whole ++ (f ++ p), rfl, first digits, fun {rest} ends => ?_⟩
      have read := Json.unsignedNumber_append short digits length fractional exponential ends
      rw [List.append_assoc, List.append_assoc, read]
      cases behind with
      | none =>
          cases power with
          | none => simp at decimal
          | some n => rfl
      | some t => rfl
  | nan => exact .inl ⟨rfl, rfl⟩
  | @infinite negative =>
      refine .inr ⟨negative, ascii "Infinity", rfl, ⟨byte 'I', rfl, .inr rfl⟩,
        fun {rest} _ => ?_⟩
      have read : Reader.word "nfinity".toList ((ascii "Infinity" ++ rest).drop 1) = .ok rest :=
        word_append "nfinity".toList rest
      have first : (ascii "Infinity" ++ rest).head? = some (byte 'I') := rfl
      rw [Reader.unsignedNumber, if_pos first, read]
      rfl

/-! ## Escapes -/

theorem hexValue?_of_isHexDigit {n : Nat} {b : UInt8} (h : IsHexDigit n b) :
    Reader.hexValue? b = some n := by
  have small : ∀ i : Fin 16,
      Reader.hexValue? ((ascii "0123456789abcdef")[i.val]?.getD 0) = some i.val := by
    decide
  have capital : ∀ i : Fin 16,
      Reader.hexValue? ((ascii "0123456789ABCDEF")[i.val]?.getD 0) = some i.val := by
    decide
  rcases h with h | h
  · have bound : n < 16 := (List.getElem?_eq_some_iff.1 h).1
    simpa [h] using small ⟨n, bound⟩
  · have bound : n < 16 := (List.getElem?_eq_some_iff.1 h).1
    simpa [h] using capital ⟨n, bound⟩

theorem FourDigits.fourHexDigits_append {n : Nat} {t : Bytes} (h : FourDigits n t) (rest : Bytes) :
    Reader.fourHexDigits (t ++ rest) = .ok n := by
  cases h with
  | mk first second third fourth =>
      simp [Reader.fourHexDigits, Reader.hexDigits, hexValue?_of_isHexDigit first,
        hexValue?_of_isHexDigit second, hexValue?_of_isHexDigit third,
        hexValue?_of_isHexDigit fourth]

theorem FourDigits.length {n : Nat} {t : Bytes} (h : FourDigits n t) : t.length = 4 := by
  cases h
  rfl

/-- A character has no number of a surrogate. -/
theorem not_half (c : Char) :
    Reader.isFirstHalf c.toNat = false ∧ Reader.isSecondHalf c.toNat = false := by
  have valid : c.toNat < 0xD800 ∨ 0xDFFF < c.toNat ∧ c.toNat < 0x110000 := c.valid
  simp only [Reader.isFirstHalf, Reader.isSecondHalf, Bool.and_eq_false_iff,
    decide_eq_false_iff_not]
  omega

/-- The escape by the number of a character. -/
theorem escape_number {c : Char} {t : Bytes} (digits : FourDigits c.toNat t) (rest : Bytes) :
    Reader.escape (byte 'u' :: t ++ rest) = .ok (c, (byte 'u' :: t).length) := by
  obtain ⟨noFirst, noSecond⟩ := not_half c
  have number : Reader.numberEscape (t ++ rest) = .ok (c, 4) := by
    simp [Reader.numberEscape, digits.fourHexDigits_append, noFirst, noSecond, bind, Except.bind,
      pure, Except.pure, Char.ofNat_toNat]
  simp [Reader.escape, number, Except.map, digits.length]

/-- The escape by a surrogate pair. -/
theorem escape_pair {c : Char} {first second : Nat} {t t' : Bytes} (hfirst : first < 0x400)
    (hsecond : second < 0x400) (value : c.toNat = 0x10000 + first * 0x400 + second)
    (digits : FourDigits (0xD800 + first) t) (digits' : FourDigits (0xDC00 + second) t')
    (rest : Bytes) :
    Reader.escape (byte 'u' :: t ++ byte '\\' :: byte 'u' :: t' ++ rest)
      = .ok (c, (byte 'u' :: t ++ byte '\\' :: byte 'u' :: t').length) := by
  have isFirst : Reader.isFirstHalf (0xD800 + first) = true
      ∧ Reader.isSecondHalf (0xD800 + first) = false := by
    simp only [Reader.isFirstHalf, Reader.isSecondHalf, Bool.and_eq_true, Bool.and_eq_false_iff,
      decide_eq_true_eq, decide_eq_false_iff_not]
    omega
  have isSecond : Reader.isSecondHalf (0xDC00 + second) = true := by
    simp only [Reader.isSecondHalf, Bool.and_eq_true, decide_eq_true_eq]
    omega
  have half :
      Reader.secondHalf (byte '\\' :: byte 'u' :: (t' ++ rest)) = .ok (0xDC00 + second) := by
    simp [Reader.secondHalf, digits'.fourHexDigits_append, isSecond, bind, Except.bind, pure,
      Except.pure]
  have char : Reader.pairChar (0xD800 + first) (0xDC00 + second) = c := by
    rw [Reader.pairChar, Nat.add_sub_cancel_left, Nat.add_sub_cancel_left, ← value,
      Char.ofNat_toNat]
  have number : Reader.numberEscape (t ++ byte '\\' :: byte 'u' :: (t' ++ rest)) = .ok (c, 10) := by
    have behind : (t ++ byte '\\' :: byte 'u' :: (t' ++ rest)).drop 4
        = byte '\\' :: byte 'u' :: (t' ++ rest) := by
      rw [← digits.length, List.drop_left]
    simp [Reader.numberEscape, digits.fourHexDigits_append, isFirst, behind, half, char, bind,
      Except.bind, pure, Except.pure]
  simp [Reader.escape, number, Except.map, digits.length, digits'.length]

theorem escape_letter {e c : Char} (h : (e, c) ∈ letterEscapes) (rest : Bytes) :
    Reader.escape (byte e :: rest) = .ok (c, 1) := by
  have all : ∀ p ∈ letterEscapes,
      byte p.1 ≠ byte 'u' ∧ Reader.letterEscape? (byte p.1) = some p.2 := by
    decide
  obtain ⟨noNumber, letter⟩ := all _ h
  simp [Reader.escape, noNumber, letter]

/-! ## Strings -/

/-- The bytes of an escape are skipped. -/
theorem stringBytes_skip (front back : Bytes) :
    Reader.stringBytes front.length (front ++ back) = Reader.stringBytes 0 back := by
  induction front with
  | nil => rfl
  | cons b front ih => exact ih

theorem stringBytes_escape {c : Char} {t rest : Bytes}
    (h : Reader.escape (t ++ rest) = .ok (c, t.length)) :
    Reader.stringBytes 0 (byte '\\' :: t ++ rest)
      = (Reader.stringBytes 0 rest).map fun (more, rest) =>
          (String.utf8EncodeChar c ++ more, rest) := by
  have noQuote : byte '\\' ≠ byte '"' := by decide
  simp [Reader.stringBytes, noQuote, h, stringBytes_skip]

/-- A byte that stands for itself in a string. -/
def IsPlain (b : UInt8) : Prop := b ≠ byte '"' ∧ b ≠ byte '\\' ∧ 0x20 ≤ b

theorem stringBytes_plain {bytes rest : Bytes} (plain : ∀ b ∈ bytes, IsPlain b) :
    Reader.stringBytes 0 (bytes ++ rest)
      = (Reader.stringBytes 0 rest).map fun (more, rest) => (bytes ++ more, rest) := by
  induction bytes with
  | nil =>
      rw [List.nil_append]
      cases Reader.stringBytes 0 rest with
      | ok r => rfl
      | error e => rfl
  | cons b bytes ih =>
      obtain ⟨noQuote, noBackslash, noControl⟩ := plain b List.mem_cons_self
      have rest := ih fun b' hb' => plain b' (List.mem_cons_of_mem _ hb')
      simp only [List.cons_append, Reader.stringBytes, if_neg noQuote, if_neg noBackslash,
        if_neg (UInt8.not_lt.2 noControl), rest]
      cases Reader.stringBytes 0 _ with
      | ok r => rfl
      | error e => rfl

theorem isPlain_ofNat {n : Nat} (h : n < 256) :
    IsPlain (UInt8.ofNat n) ↔ n ≠ 0x22 ∧ n ≠ 0x5C ∧ 0x20 ≤ n := by
  have same (m : Nat) (hm : m < 256) : UInt8.ofNat n = UInt8.ofNat m ↔ n = m := by
    rw [← UInt8.toNat_inj, Utf8.byte_toNat h, Utf8.byte_toNat hm]
  have order : (0x20 : UInt8) ≤ UInt8.ofNat n ↔ 0x20 ≤ n := by
    rw [UInt8.le_iff_toNat_le, Utf8.byte_toNat h]
    rfl
  exact and_congr (not_congr (same 0x22 (by decide)))
    (and_congr (not_congr (same 0x5C (by decide))) order)

/-- The bytes of a character that needs no escape stand for themselves.  Only the characters
of one byte have to be told from a quote and a backslash. -/
theorem isPlain_encode {c : Char} (noControl : 0x20 ≤ c.toNat) (noQuote : c ≠ '"')
    (noBackslash : c ≠ '\\') : ∀ b ∈ String.utf8EncodeChar c, IsPlain b := by
  have number : c.val.toNat = c.toNat := rfl
  have noQuote : c.toNat ≠ 0x22 := fun same => noQuote (Char.toNat_inj.1 same)
  have noBackslash : c.toNat ≠ 0x5C := fun same => noBackslash (Char.toNat_inj.1 same)
  have valid : c.toNat < 0xD800 ∨ 0xDFFF < c.toNat ∧ c.toNat < 0x110000 := c.valid
  intro b hb
  simp only [String.utf8EncodeChar, number] at hb
  split at hb
  · obtain rfl := List.mem_singleton.1 hb
    exact (isPlain_ofNat (by omega)).2 ⟨noQuote, noBackslash, noControl⟩
  · split at hb
    · simp only [List.mem_cons, List.not_mem_nil, or_false] at hb
      rcases hb with rfl | rfl
      all_goals exact (isPlain_ofNat (by omega)).2 (by omega)
    · split at hb
      · simp only [List.mem_cons, List.not_mem_nil, or_false] at hb
        rcases hb with rfl | rfl | rfl
        all_goals exact (isPlain_ofNat (by omega)).2 (by omega)
      · simp only [List.mem_cons, List.not_mem_nil, or_false] at hb
        rcases hb with rfl | rfl | rfl | rfl
        all_goals exact (isPlain_ofNat (by omega)).2 (by omega)

theorem CharText.stringBytes_append {c : Char} {t : Bytes} (h : CharText c t) (rest : Bytes) :
    Reader.stringBytes 0 (t ++ rest)
      = (Reader.stringBytes 0 rest).map fun (more, rest) =>
          (String.utf8EncodeChar c ++ more, rest) := by
  cases h with
  | plain noControl noQuote noBackslash =>
      exact stringBytes_plain (isPlain_encode noControl noQuote noBackslash)
  | letter h => exact stringBytes_escape (escape_letter h rest)
  | number digits => exact stringBytes_escape (escape_number digits rest)
  | pair hfirst hsecond value digits digits' =>
      exact stringBytes_escape (escape_pair hfirst hsecond value digits digits' rest)

theorem CharsText.stringBytes_append {cs : List Char} {t : Bytes} (h : CharsText cs t)
    (rest : Bytes) :
    Reader.stringBytes 0 (t ++ byte '"' :: rest)
      = .ok (cs.flatMap String.utf8EncodeChar, rest) := by
  induction h with
  | nil => rfl
  | cons first more ih => rw [List.append_assoc, first.stringBytes_append, ih]; rfl

/-- A string is read back behind its opening quote. -/
theorem string_append {s : String} {t : Bytes} (h : CharsText s.toList t) (rest : Bytes) :
    Reader.string (t ++ byte '"' :: rest) = .ok (s, rest) := by
  have decoded : Utf8.decode (s.toList.flatMap String.utf8EncodeChar) = .ok s :=
    Utf8.decode_encode s
  simp [Reader.string, h.stringBytes_append, decoded, bind, Except.bind, pure, Except.pure]

end RouteGraft.Json
