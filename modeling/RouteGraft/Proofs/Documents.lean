import RouteGraft.Json.Read

/-!
# Documents of JSON

The grammar of JSON, as a relation between a value and the bytes it may be written with.
A value has many texts: characters of strings may be escaped or not, and blanks may stand
around every value, key, comma and colon.

The relation follows the depth of a value (`TextTo`).  At each depth a value has its texts
by `ValueText`, whose parameter says how the values inside of it are written.  Arrays and
objects are rows of items (`Row`), and an item of an object is a key with a value behind it
(`MemberText`).

Numbers are bounded by the number of characters in front of their decimal point, since a
reader refuses numbers that are too long.  Standard JSON is what is written with some
bound.
-/

namespace RouteGraft.Json

open Reader (byte isBlank isDigit digitsValue)

/-! ## Blanks and words -/

/-- The bytes of a text in ASCII. -/
def ascii (s : String) : Bytes := s.toList.map byte

/-- Blanks only. -/
def Blanks (t : Bytes) : Prop := ∀ b ∈ t, isBlank b = true

/-! ## Strings -/

/-- The letters of the escapes of one letter, each with its character. -/
def letterEscapes : List (Char × Char) :=
  [('"', '"'), ('\\', '\\'), ('/', '/'), ('b', '\x08'), ('f', '\x0c'), ('n', '\n'), ('r', '\r'),
    ('t', '\t')]

/-- A hexadecimal digit with its value. -/
def IsHexDigit (n : Nat) (b : UInt8) : Prop :=
  (ascii "0123456789abcdef")[n]? = some b ∨ (ascii "0123456789ABCDEF")[n]? = some b

/-- Four hexadecimal digits with their number. -/
inductive FourDigits : Nat → Bytes → Prop
  | mk {i j k l : Nat} {a b c d : UInt8} :
      IsHexDigit i a → IsHexDigit j b → IsHexDigit k c → IsHexDigit l d →
        FourDigits (((i * 16 + j) * 16 + k) * 16 + l) [a, b, c, d]

/-- The texts of a character in a string. -/
inductive CharText : Char → Bytes → Prop
  /-- The character itself, if it is no control character, quote or backslash. -/
  | plain {c : Char} :
      0x20 ≤ c.toNat → c ≠ '"' → c ≠ '\\' → CharText c (String.utf8EncodeChar c)
  /-- An escape of one letter. -/
  | letter {e c : Char} : (e, c) ∈ letterEscapes → CharText c [byte '\\', byte e]
  /-- An escape by number. -/
  | number {c : Char} {t : Bytes} : FourDigits c.toNat t → CharText c (byte '\\' :: byte 'u' :: t)
  /-- A surrogate pair. -/
  | pair {c : Char} {first second : Nat} {t t' : Bytes} :
      first < 0x400 → second < 0x400 → c.toNat = 0x10000 + first * 0x400 + second →
        FourDigits (0xD800 + first) t → FourDigits (0xDC00 + second) t' →
          CharText c (byte '\\' :: byte 'u' :: t ++ byte '\\' :: byte 'u' :: t')

/-- The texts of characters in a row. -/
inductive CharsText : List Char → Bytes → Prop
  | nil : CharsText [] []
  | cons {c : Char} {cs : List Char} {t ts : Bytes} :
      CharText c t → CharsText cs ts → CharsText (c :: cs) (t ++ ts)

/-- The texts of a string, in its quotes. -/
inductive StringText : String → Bytes → Prop
  | mk {s : String} {t : Bytes} : CharsText s.toList t → StringText s (byte '"' :: t ++ [byte '"'])

/-! ## Numbers -/

/-- One or more digits. -/
def Digits (t : Bytes) : Prop := t ≠ [] ∧ ∀ b ∈ t, isDigit b = true

/-- The digits in front of a decimal point.  A zero stands alone. -/
def WholeDigits (t : Bytes) : Prop := Digits t ∧ (t.head? = some (byte '0') → t = [byte '0'])

/-- The sign of a number. -/
def sign (negative : Bool) : Bytes := if negative then [byte '-'] else []

/-- The texts of the digits behind a decimal point, if there is one. -/
inductive FractionText : Option Bytes → Bytes → Prop
  | absent : FractionText none []
  | digits {t : Bytes} : Digits t → FractionText (some t) (byte '.' :: t)

/-- The texts of a power of ten, if there is one. -/
inductive ExponentText : Option Int → Bytes → Prop
  | absent : ExponentText none []
  | plain {e : Char} {t : Bytes} :
      e = 'e' ∨ e = 'E' → Digits t → ExponentText (some (digitsValue t)) (byte e :: t)
  | plus {e : Char} {t : Bytes} :
      e = 'e' ∨ e = 'E' → Digits t → ExponentText (some (digitsValue t)) (byte e :: byte '+' :: t)
  | minus {e : Char} {t : Bytes} :
      e = 'e' ∨ e = 'E' → Digits t →
        ExponentText (some (-(digitsValue t : Int))) (byte e :: byte '-' :: t)

/-- The texts of a number with at most `longest` characters in front of its decimal
point. -/
inductive NumberText (longest : Nat) : Number → Bytes → Prop
  | integer {negative : Bool} {whole : Bytes} :
      WholeDigits whole → (sign negative ++ whole).length ≤ longest →
        NumberText longest
          (.integer (if negative then -(digitsValue whole : Int) else digitsValue whole))
          (sign negative ++ whole)
  | decimal {negative : Bool} {whole f p : Bytes} {behind : Option Bytes} {power : Option Int} :
      WholeDigits whole → (sign negative ++ whole).length ≤ longest →
        FractionText behind f → ExponentText power p → behind.isSome ∨ power.isSome →
          NumberText longest
            (.decimal negative (digitsValue (whole ++ behind.getD []))
              (power.getD 0 - (behind.getD []).length))
            (sign negative ++ (whole ++ (f ++ p)))
  | nan : NumberText longest .nan (ascii "NaN")
  | infinite {negative : Bool} :
      NumberText longest (.infinite negative) (sign negative ++ ascii "Infinity")

/-! ## Values -/

/-- Items in a row, with commas between them and blanks around each. -/
inductive Row {α : Type} (R : α → Bytes → Prop) : List α → Bytes → Prop
  | one {a : α} {w t w' : Bytes} : Blanks w → R a t → Blanks w' → Row R [a] (w ++ (t ++ w'))
  | cons {a : α} {more : List α} {w t w' ts : Bytes} :
      Blanks w → R a t → Blanks w' → Row R more ts →
        Row R (a :: more) (w ++ (t ++ (w' ++ byte ',' :: ts)))

/-- The texts of a member whose values have their texts by `R`. -/
inductive MemberText (R : Json → Bytes → Prop) : String × Json → Bytes → Prop
  | mk {key : String} {v : Json} {k w w' t : Bytes} :
      StringText key k → Blanks w → Blanks w' → R v t →
        MemberText R (key, v) (k ++ (w ++ byte ':' :: (w' ++ t)))

/-- The texts of a value with values inside of it that have their texts by `R`. -/
inductive ValueText (longest : Nat) (R : Json → Bytes → Prop) : Json → Bytes → Prop
  | null : ValueText longest R .null (ascii "null")
  | true : ValueText longest R (.bool true) (ascii "true")
  | false : ValueText longest R (.bool false) (ascii "false")
  | number {n : Number} {t : Bytes} : NumberText longest n t → ValueText longest R (.number n) t
  | string {s : String} {t : Bytes} : StringText s t → ValueText longest R (.string s) t
  | emptyArray {w : Bytes} :
      Blanks w → ValueText longest R (.array []) (byte '[' :: (w ++ [byte ']']))
  | array {vs : List Json} {t : Bytes} :
      Row R vs t → ValueText longest R (.array vs) (byte '[' :: (t ++ [byte ']']))
  | emptyObject {w : Bytes} :
      Blanks w → ValueText longest R (.object []) (byte '\x7b' :: (w ++ [byte '\x7d']))
  | object {ms : Members} {t : Bytes} :
      Row (MemberText R) ms t →
        ValueText longest R (.object ms) (byte '\x7b' :: (t ++ [byte '\x7d']))

/-- The texts of a value down to a depth. -/
def TextTo (longest : Nat) : (depth : Nat) → Json → Bytes → Prop
  | 0 => ValueText longest fun _ _ => False
  | depth + 1 => ValueText longest (TextTo longest depth)
termination_by structural depth => depth

/-- The documents of a value: its texts with blanks around them, nested no deeper than a
reader follows. -/
inductive Document (longest : Nat) (v : Json) : Bytes → Prop
  | mk {w t w' : Bytes} :
      Blanks w → TextTo longest Reader.maxDepth v t → Blanks w' →
        Document longest v (w ++ (t ++ w'))

/-! ## Depths -/

section Depths

variable {longest : Nat} {R R' : Json → Bytes → Prop}

theorem Row.imp {α : Type} {R R' : α → Bytes → Prop} {as : List α} {t : Bytes}
    (weaker : ∀ a ∈ as, ∀ {t}, R a t → R' a t) (h : Row R as t) : Row R' as t := by
  induction h with
  | one blanks item blanks' => exact .one blanks (weaker _ List.mem_cons_self item) blanks'
  | cons blanks item blanks' _ ih =>
      exact .cons blanks (weaker _ List.mem_cons_self item) blanks'
        (ih fun a ha => weaker a (List.mem_cons_of_mem _ ha))

theorem MemberText.imp {m : String × Json} {t : Bytes} (weaker : ∀ {t}, R m.2 t → R' m.2 t)
    (h : MemberText R m t) : MemberText R' m t := by
  cases h with
  | mk key blanks blanks' text => exact .mk key blanks blanks' (weaker text)

theorem ValueText.imp {v : Json} {t : Bytes} (weaker : ∀ {v t}, R v t → R' v t)
    (h : ValueText longest R v t) : ValueText longest R' v t := by
  cases h with
  | null => exact .null
  | true => exact .true
  | false => exact .false
  | number text => exact .number text
  | string text => exact .string text
  | emptyArray blanks => exact .emptyArray blanks
  | array row => exact .array (row.imp fun _ _ => weaker)
  | emptyObject blanks => exact .emptyObject blanks
  | object row => exact .object (row.imp fun _ _ _ member => member.imp weaker)

/-- A text down to a depth is one down to every greater depth. -/
theorem TextTo.mono {depth depth' : Nat} (deeper : depth ≤ depth') {v : Json} {t : Bytes}
    (h : TextTo longest depth v t) : TextTo longest depth' v t := by
  induction depth' generalizing depth v t with
  | zero =>
      obtain rfl := Nat.le_zero.1 deeper
      exact h
  | succ depth' ih =>
      cases depth with
      | zero => exact ValueText.imp (fun none => none.elim) h
      | succ depth => exact ValueText.imp (fun text => ih (Nat.le_of_succ_le_succ deeper) text) h

/-- A value with no number in it, and no other value. -/
def Atomic : Json → Prop
  | .null | .bool _ | .string _ => True
  | .number _ | .array _ | .object _ => False

/-- What bounds numbers and depths does not bound the texts of an atomic value. -/
theorem TextTo.atomic {longest' depth depth' : Nat} {v : Json} {t : Bytes} (atomic : v.Atomic)
    (h : TextTo longest depth v t) : TextTo longest' depth' v t := by
  have any {R R' : Json → Bytes → Prop} (h : ValueText longest R v t) :
      ValueText longest' R' v t := by
    cases h with
    | null => exact .null
    | true => exact .true
    | false => exact .false
    | string text => exact .string text
    | _ => exact atomic.elim
  cases depth with
  | zero =>
      cases depth' with
      | zero => exact any h
      | succ depth' => exact any h
  | succ depth =>
      cases depth' with
      | zero => exact any h
      | succ depth' => exact any h

/-- The documents of an object of atomic values are the same under every bound. -/
theorem Document.atomic {longest' : Nat} {ms : Members} {s : Bytes} (atomic : ∀ m ∈ ms, m.2.Atomic)
    (h : Document longest (.object ms) s) : Document longest' (.object ms) s := by
  cases h with
  | mk blanks text blanks' =>
      refine .mk blanks ?_ blanks'
      cases text with
      | emptyObject blanks => exact .emptyObject blanks
      | object row =>
          exact .object
            (row.imp fun m hm _ member => member.imp fun text => text.atomic (atomic m hm))

end Depths

/-! ## Texts without blanks and escapes -/

theorem blanks_nil : Blanks [] := fun _ hb => absurd hb List.not_mem_nil

theorem blanks_of_all {w : Bytes} (h : w.all isBlank = true) : Blanks w := List.all_eq_true.1 h

/-- The characters that need no escape. -/
def isUnescaped (c : Char) : Bool := 0x20 ≤ c.toNat && c ≠ '"' && c ≠ '\\'

/-- Characters that need no escapes may be written as they are. -/
theorem charsText_encode {cs : List Char} (plain : cs.all isUnescaped = true) :
    CharsText cs (cs.flatMap String.utf8EncodeChar) := by
  induction cs with
  | nil => exact .nil
  | cons c cs ih =>
      rw [List.all_cons, Bool.and_eq_true] at plain
      obtain ⟨first, more⟩ := plain
      simp only [isUnescaped, Bool.and_eq_true, decide_eq_true_eq] at first
      exact .cons (.plain first.1.1 first.1.2 first.2) (ih more)

/-- A string with its characters as they are. -/
theorem stringText_encode (s : String) (plain : s.toList.all isUnescaped = true) :
    StringText s (byte '"' :: Utf8.encode s ++ [byte '"']) :=
  .mk (charsText_encode plain)

/-- A member without blanks around its colon. -/
theorem memberText_encode {R : Json → Bytes → Prop} (key : String)
    (plain : key.toList.all isUnescaped = true) {v : Json} {t : Bytes} (text : R v t) :
    MemberText R (key, v)
      (byte '"' :: Utf8.encode key ++ [byte '"'] ++ ([] ++ byte ':' :: ([] ++ t))) :=
  .mk (stringText_encode key plain) blanks_nil blanks_nil text

/-- A document of an object with no values inside of its values. -/
theorem document_of_flat {longest : Nat} {ms : Members} {w t w' : Bytes} (blanks : Blanks w)
    (row : Row (MemberText (TextTo longest 0)) ms t) (blanks' : Blanks w') :
    Document longest (.object ms) (w ++ (byte '\x7b' :: (t ++ [byte '\x7d']) ++ w')) :=
  have text : TextTo longest 1 (.object ms) (byte '\x7b' :: (t ++ [byte '\x7d'])) :=
    ValueText.object row
  .mk blanks (text.mono (by decide)) blanks'

end RouteGraft.Json
