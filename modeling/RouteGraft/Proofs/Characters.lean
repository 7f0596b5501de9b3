import RouteGraft.Text.Utf8

/-!
# Characters among bytes

Bytes that can be decoded are the bytes of characters in a row (`Encodes`).  The
bytes of a character start with one that starts characters only and go on with
bytes that never start one, so that a character never depends on what follows
it.  Hence decoding can be cut in two wherever no byte goes on with a character
(`Encodes.split`), two decodable texts can be put together (`Encodes.append`),
and what was encoded is decoded to what it was (`decode_encode`).
-/

namespace RouteGraft.Utf8

/-! ## Bytes that go on with a character -/

/-- A byte that goes on with a character and never starts one. -/
def Continues (b : UInt8) : Prop := 0x80 ≤ b.toNat ∧ b.toNat ≤ 0xBF

instance : DecidablePred Continues := fun b =>
  inferInstanceAs (Decidable (0x80 ≤ b.toNat ∧ b.toNat ≤ 0xBF))

/-- An offset at which no character is cut in two: the end, or one with a byte
that does not go on with a character. -/
def IsBoundary (bytes : Bytes) (k : Nat) : Prop := ∀ b ∈ bytes[k]?, ¬ Continues b

/-- The table of first bytes, in numbers. -/
theorem lead_eq (b : UInt8) :
    lead b =
      if b.toNat < 0x80 then .ascii
      else if b.toNat < 0xC2 then .none
      else if b.toNat < 0xE0 then .long 1 (b.toNat - 0xC0) 0x80 0xBF
      else if b.toNat = 0xE0 then .long 2 0 0xA0 0xBF
      else if b.toNat = 0xED then .long 2 0xD 0x80 0x9F
      else if b.toNat < 0xF0 then .long 2 (b.toNat - 0xE0) 0x80 0xBF
      else if b.toNat = 0xF0 then .long 3 0 0x90 0xBF
      else if b.toNat < 0xF4 then .long 3 (b.toNat - 0xF0) 0x80 0xBF
      else if b.toNat = 0xF4 then .long 3 4 0x80 0x8F
      else .none := by
  simp only [lead, UInt8.lt_iff_toNat_lt, ← UInt8.toNat_inj]
  rfl

theorem not_continues_of_ascii {b : UInt8} (h : lead b = .ascii) : ¬ Continues b := by
  rw [lead_eq] at h
  split at h
  · next small =>
      rintro ⟨large, -⟩
      omega
  · repeat' split at h
    all_goals cases h

/-- The first byte of a character does not go on with one, and the bounds of the
second byte are at least as narrow as those of every byte that goes on. -/
theorem bounds_of_long {b low high : UInt8} {more value : Nat}
    (h : lead b = .long more value low high) :
    ¬ Continues b ∧ 0x80 ≤ low.toNat ∧ high.toNat ≤ 0xBF := by
  rw [lead_eq] at h
  repeat' split at h
  all_goals cases h
  all_goals
    refine ⟨?_, by decide, by decide⟩
    rintro ⟨-, small⟩
    omega

/-! ## One character -/

/-- The further bytes of a character go on with it, and what follows them does
not matter. -/
theorem tail_eq_ok {value more v : Nat} {low high : UInt8} {rest : Bytes}
    (h : tail value low high more rest = .ok v) (hlow : 0x80 ≤ low.toNat)
    (hhigh : high.toNat ≤ 0xBF) :
    ∃ front back, rest = front ++ back ∧ front.length = more ∧ (∀ b ∈ front, Continues b) ∧
      ∀ later, tail value low high more (front ++ later) = .ok v := by
  induction more generalizing value low high rest with
  | zero =>
      rw [tail] at h
      exact ⟨[], rest, rfl, rfl, fun _ hb => absurd hb List.not_mem_nil, fun _ => by rw [tail, h]⟩
  | succ more ih =>
      cases rest with
      | nil => cases h
      | cons b rest =>
          rw [tail] at h
          split at h
          · next bounds =>
              split at h
              · next v' read =>
                  cases h
                  obtain ⟨front, back, rfl, length, goes, same⟩ := ih read (by decide) (by decide)
                  have bounds' := bounds
                  simp only [UInt8.le_iff_toNat_le] at bounds'
                  refine ⟨b :: front, back, rfl, by rw [List.length_cons, length], ?_, ?_⟩
                  · exact List.forall_mem_cons.2 ⟨⟨by omega, by omega⟩, goes⟩
                  · intro later
                    rw [List.cons_append, tail, if_pos bounds, same]
              · cases h
          · cases h

/-- The bytes of a character. -/
inductive IsChar : Bytes → Char → Prop
  | mk {b : UInt8} {more : Bytes} {c : Char} :
      ¬ Continues b → (∀ b' ∈ more, Continues b') →
        (∀ later, next b (more ++ later) = .ok (c, more.length + 1)) → IsChar (b :: more) c

theorem next_eq_ok {b : UInt8} {rest : Bytes} {c : Char} {size : Nat}
    (h : next b rest = .ok (c, size)) :
    ∃ more back, rest = more ++ back ∧ size = more.length + 1 ∧ IsChar (b :: more) c := by
  unfold next at h
  split at h
  · next first =>
      cases h
      refine ⟨[], rest, rfl, rfl, .mk (not_continues_of_ascii first) ?_ ?_⟩
      · exact fun _ hb => absurd hb List.not_mem_nil
      · intro later
        simp only [next, first, List.length_nil]
  · cases h
  · next more value low high first =>
      obtain ⟨starts, hlow, hhigh⟩ := bounds_of_long first
      split at h
      · next v read =>
          cases h
          obtain ⟨front, back, rfl, rfl, goes, same⟩ := tail_eq_ok read hlow hhigh
          refine ⟨front, back, rfl, rfl, .mk starts goes fun later => ?_⟩
          simp only [next, first, same]
      · cases h

/-! ## Characters in a row -/

/-- Bytes that are those of some characters in a row. -/
inductive Encodes : Bytes → List Char → Prop
  | nil : Encodes [] []
  | cons {front back : Bytes} {c : Char} {cs : List Char} :
      IsChar front c → Encodes back cs → Encodes (front ++ back) (c :: cs)

theorem decodeFrom_skip (offset : Nat) (front back : Bytes) :
    decodeFrom offset front.length (front ++ back)
      = decodeFrom (offset + front.length) 0 back := by
  induction front generalizing offset with
  | nil => rfl
  | cons b front ih =>
      rw [List.cons_append, List.length_cons, decodeFrom, ih, Nat.add_right_comm, Nat.add_assoc]

theorem decodeFrom_of_encodes {bytes : Bytes} {cs : List Char} (h : Encodes bytes cs) :
    ∀ offset, decodeFrom offset 0 bytes = .ok cs := by
  induction h with
  | nil => exact fun _ => rfl
  | cons first _ ih =>
      intro offset
      cases first with
      | mk _ _ read =>
          rw [List.cons_append, decodeFrom]
          simp only [read, Nat.add_sub_cancel, decodeFrom_skip, ih]

/-- Decoding succeeds on the bytes of characters in a row and on no others. -/
theorem decodeFrom_eq_ok {offset : Nat} {bytes : Bytes} {cs : List Char} :
    decodeFrom offset 0 bytes = .ok cs ↔ Encodes bytes cs := by
  refine ⟨fun h => ?_, fun h => decodeFrom_of_encodes h offset⟩
  induction length : bytes.length using Nat.strongRecOn generalizing offset bytes cs with
  | ind n ih =>
      cases bytes with
      | nil =>
          cases h
          exact .nil
      | cons b rest =>
          rw [decodeFrom] at h
          split at h
          · cases h
          · next c size read =>
              obtain ⟨more, back, rfl, rfl, first⟩ := next_eq_ok read
              rw [Nat.add_sub_cancel, decodeFrom_skip] at h
              split at h
              · next cs' later =>
                  cases h
                  have shorter : back.length < n := by
                    rw [← length, List.length_cons, List.length_append]
                    omega
                  exact .cons first (ih back.length shorter later rfl)
              · cases h

theorem decode_eq_ok {bytes : Bytes} {s : String} :
    decode bytes = .ok s ↔ Encodes bytes s.toList := by
  rw [← @decodeFrom_eq_ok 0, decode]
  split
  · next cs read =>
      rw [read, Except.ok.injEq, Except.ok.injEq, ← String.toList_inj, String.toList_ofList]
  · next e read => simp [read]

theorem Encodes.append {front back : Bytes} {cs ds : List Char} (h : Encodes front cs)
    (h' : Encodes back ds) : Encodes (front ++ back) (cs ++ ds) := by
  induction h with
  | nil => exact h'
  | cons first _ ih =>
      rw [List.append_assoc, List.cons_append]
      exact .cons first ih

/-- Characters in a row can be cut in two where no byte goes on with one. -/
theorem Encodes.split {bytes : Bytes} {cs : List Char} {k : Nat} (h : Encodes bytes cs)
    (boundary : IsBoundary bytes k) :
    (∃ front, Encodes (bytes.take k) front) ∧ ∃ back, Encodes (bytes.drop k) back := by
  induction h generalizing k with
  | nil =>
      rw [List.take_nil, List.drop_nil]
      exact ⟨⟨[], .nil⟩, [], .nil⟩
  | @cons front back c cs first later ih =>
      rcases Nat.lt_or_ge k front.length with inside | behind
      · rcases Nat.eq_zero_or_pos k with rfl | positive
        · exact ⟨⟨[], .nil⟩, c :: cs, .cons first later⟩
        · -- all bytes of a character but the first one go on with it
          cases first with
          | @mk b more c _ goes _ =>
              obtain ⟨j, rfl⟩ : ∃ j, k = j + 1 := ⟨k - 1, by omega⟩
              have inMore : j < more.length := by
                rw [List.length_cons] at inside
                omega
              have found : (b :: more ++ back)[j + 1]? = some more[j] := by
                rw [List.cons_append, List.getElem?_cons_succ, List.getElem?_append_left inMore,
                  List.getElem?_eq_getElem inMore]
              exact absurd (goes _ (List.getElem_mem inMore)) (boundary _ found)
      · obtain ⟨j, rfl⟩ := Nat.exists_eq_add_of_le behind
        have boundary' : IsBoundary back j := by
          intro b hb
          refine boundary b ?_
          rwa [List.getElem?_append_right behind, Nat.add_sub_cancel_left]
        obtain ⟨⟨ds, frontRead⟩, es, backRead⟩ := ih boundary'
        rw [List.take_length_add_append, List.drop_length_add_append]
        exact ⟨⟨c :: ds, .cons first frontRead⟩, es, backRead⟩

/-! ## What was encoded -/

theorem byte_toNat {n : Nat} (h : n < 256) : (UInt8.ofNat n).toNat = n :=
  UInt8.toNat_ofNat_of_lt' h

/-- One further byte of a character, with its number. -/
theorem tail_succ {value more n v : Nat} {low high : UInt8} {rest : Bytes} (hn : n < 256)
    (hlow : low.toNat ≤ n) (hhigh : n ≤ high.toNat)
    (h : tail (value * 64 + (n - 0x80)) 0x80 0xBF more rest = .ok v) :
    tail value low high (more + 1) (UInt8.ofNat n :: rest) = .ok v := by
  have bounds : low ≤ UInt8.ofNat n ∧ UInt8.ofNat n ≤ high := by
    rw [UInt8.le_iff_toNat_le, UInt8.le_iff_toNat_le, byte_toNat hn]
    exact ⟨hlow, hhigh⟩
  rw [tail, if_pos bounds, byte_toNat hn, h]

/-- A first byte and the further bytes it asks for are those of a character. -/
theorem isChar_of_tail {b low high : UInt8} {value : Nat} {more : Bytes} {c : Char}
    (first : lead b = .long more.length value low high)
    (read : tail value low high more.length more = .ok c.toNat) : IsChar (b :: more) c := by
  obtain ⟨starts, hlow, hhigh⟩ := bounds_of_long first
  obtain ⟨front, back, parts, length, goes, same⟩ := tail_eq_ok read hlow hhigh
  obtain rfl : back = [] := by
    have lengths := congrArg List.length parts
    rw [List.length_append] at lengths
    exact List.length_eq_zero_iff.1 (by omega)
  rw [List.append_nil] at parts
  subst parts
  refine .mk starts goes fun later => ?_
  simp only [next, first, same, Char.ofNat_toNat]

/-- A character of one byte. -/
theorem isChar_one {c : Char} (h : c.toNat ≤ 0x7F) : IsChar [UInt8.ofNat c.toNat] c := by
  have value : (UInt8.ofNat c.toNat).toNat = c.toNat := byte_toNat (by omega)
  have first : lead (UInt8.ofNat c.toNat) = .ascii := by
    rw [lead_eq, value, if_pos (by omega)]
  refine .mk (not_continues_of_ascii first) (fun _ hb => absurd hb List.not_mem_nil) ?_
  intro later
  simp only [next, first, value, List.length_nil, Char.ofNat_toNat]

/-- A character of two bytes. -/
theorem isChar_two {c : Char} {a b : Nat} (ha : 0xC2 ≤ a ∧ a < 0xE0) (hb : 0x80 ≤ b ∧ b ≤ 0xBF)
    (value : c.toNat = (a - 0xC0) * 64 + (b - 0x80)) :
    IsChar [UInt8.ofNat a, UInt8.ofNat b] c := by
  have first : lead (UInt8.ofNat a) = .long 1 (a - 0xC0) 0x80 0xBF := by
    rw [lead_eq, byte_toNat (by omega), if_neg (by omega), if_neg (by omega), if_pos (by omega)]
  refine isChar_of_tail first (tail_succ (by omega) hb.1 hb.2 ?_)
  exact congrArg Except.ok value.symm

/-- A character of three bytes.  The second one leaves out long forms and
surrogates. -/
theorem isChar_three {c : Char} {a b d : Nat} (ha : 0xE0 ≤ a ∧ a < 0xF0)
    (hb : 0x80 ≤ b ∧ b ≤ 0xBF) (hd : 0x80 ≤ d ∧ d ≤ 0xBF) (long : a = 0xE0 → 0xA0 ≤ b)
    (surrogate : a = 0xED → b ≤ 0x9F)
    (value : c.toNat = ((a - 0xE0) * 64 + (b - 0x80)) * 64 + (d - 0x80)) :
    IsChar [UInt8.ofNat a, UInt8.ofNat b, UInt8.ofNat d] c := by
  obtain ⟨low, high, first, hlow, hhigh⟩ : ∃ low high,
      lead (UInt8.ofNat a) = .long 2 (a - 0xE0) low high ∧ low.toNat ≤ b ∧ b ≤ high.toNat := by
    rw [lead_eq, byte_toNat (by omega), if_neg (by omega), if_neg (by omega), if_neg (by omega)]
    split
    · next isLow => exact ⟨0xA0, 0xBF, by rw [isLow], long isLow, hb.2⟩
    · split
      · next isHigh => exact ⟨0x80, 0x9F, by rw [isHigh], hb.1, surrogate isHigh⟩
      · rw [if_pos (by omega)]
        exact ⟨0x80, 0xBF, rfl, hb⟩
  refine isChar_of_tail first (tail_succ (by omega) hlow hhigh ?_)
  refine tail_succ (by omega) hd.1 hd.2 ?_
  exact congrArg Except.ok value.symm

/-- A character of four bytes.  The second one leaves out long forms and numbers
that are too large. -/
theorem isChar_four {c : Char} {a b d e : Nat} (ha : 0xF0 ≤ a ∧ a ≤ 0xF4)
    (hb : 0x80 ≤ b ∧ b ≤ 0xBF) (hd : 0x80 ≤ d ∧ d ≤ 0xBF) (he : 0x80 ≤ e ∧ e ≤ 0xBF)
    (long : a = 0xF0 → 0x90 ≤ b) (large : a = 0xF4 → b ≤ 0x8F)
    (value : c.toNat = (((a - 0xF0) * 64 + (b - 0x80)) * 64 + (d - 0x80)) * 64 + (e - 0x80)) :
    IsChar [UInt8.ofNat a, UInt8.ofNat b, UInt8.ofNat d, UInt8.ofNat e] c := by
  obtain ⟨low, high, first, hlow, hhigh⟩ : ∃ low high,
      lead (UInt8.ofNat a) = .long 3 (a - 0xF0) low high ∧ low.toNat ≤ b ∧ b ≤ high.toNat := by
    rw [lead_eq, byte_toNat (by omega), if_neg (by omega), if_neg (by omega), if_neg (by omega),
      if_neg (by omega), if_neg (by omega), if_neg (by omega)]
    split
    · next isLow => exact ⟨0x90, 0xBF, by rw [isLow], long isLow, hb.2⟩
    · split
      · exact ⟨0x80, 0xBF, rfl, hb⟩
      · have isHigh : a = 0xF4 := by omega
        rw [if_pos isHigh]
        exact ⟨0x80, 0x8F, by rw [isHigh], hb.1, large isHigh⟩
  refine isChar_of_tail first (tail_succ (by omega) hlow hhigh ?_)
  refine tail_succ (by omega) hd.1 hd.2 (tail_succ (by omega) he.1 he.2 ?_)
  exact congrArg Except.ok value.symm

/-- The bytes a character is written with are its bytes. -/
theorem isChar_encode (c : Char) : IsChar (String.utf8EncodeChar c) c := by
  have valid : c.toNat < 0xD800 ∨ 0xDFFF < c.toNat ∧ c.toNat < 0x110000 := c.valid
  have number : c.val.toNat = c.toNat := rfl
  simp only [String.utf8EncodeChar, number]
  split
  · next h => exact isChar_one h
  · split
    · exact isChar_two (by omega) (by omega) (by omega)
    · split
      · exact isChar_three (by omega) (by omega) (by omega) (by omega) (by omega) (by omega)
      · exact isChar_four (by omega) (by omega) (by omega) (by omega) (by omega) (by omega)
          (by omega)

theorem encodes_encode (s : String) : Encodes (encode s) s.toList := by
  unfold encode
  induction s.toList with
  | nil => exact .nil
  | cons c cs ih => exact .cons (isChar_encode c) ih

/-- Decoding undoes encoding. -/
theorem decode_encode (s : String) : decode (encode s) = .ok s :=
  decode_eq_ok.2 (encodes_encode s)

/-! ## Texts put together -/

/-- The number of bytes of a text. -/
def size (s : String) : Int := (encode s).length

theorem encode_append (s t : String) : encode (s ++ t) = encode s ++ encode t := by
  rw [encode, String.toList_append, List.flatMap_append, encode, encode]

theorem size_append (s t : String) : size (s ++ t) = size s + size t := by
  rw [size, encode_append, List.length_append, Int.natCast_add, size, size]

theorem size_nonneg (s : String) : 0 ≤ size s := Int.natCast_nonneg _

theorem size_pos {s : String} (h : s ≠ "") : 0 < size s := by
  have positive : (encode s).length ≠ 0 := by
    intro none
    have read := decode_encode s
    rw [List.length_eq_zero_iff.1 none] at read
    exact h (Except.ok.inj (read.symm.trans (decode_encode "")))
  rw [size]
  omega

/-- A text stays decodable when another one is put in between two characters. -/
theorem decode_splice {bytes : Bytes} {s t : String} {k : Nat} (read : decode bytes = .ok s)
    (boundary : IsBoundary bytes k) :
    ∃ r, decode (bytes.take k ++ encode t ++ bytes.drop k) = .ok r := by
  obtain ⟨⟨front, hfront⟩, back, hback⟩ := (decode_eq_ok.1 read).split boundary
  have whole := (hfront.append (encodes_encode t)).append hback
  refine ⟨String.ofList (front ++ t.toList ++ back), decode_eq_ok.2 ?_⟩
  rwa [String.toList_ofList]

end RouteGraft.Utf8
