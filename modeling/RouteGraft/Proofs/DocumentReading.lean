import RouteGraft.Proofs.ScalarReading

/-!
# Documents that are read back

Every document of a value is read as that value (`read_of_document`).

The texts of values follow the depth, and so does their reader, which makes the proof an
induction on the depth: a reader that reads the values inside of arrays and objects gives
one that reads the arrays and objects as well (`Reads.valueWith`).

The readers of elements and of members go through a row in the same way and differ in what
they call an item and in what closes the row (`ReadsRows`).  They skip the blanks in front
of an item before they look at it, so all that they need to know of the texts of items is
that these start with something else (`Starts`).
-/

namespace RouteGraft.Json

open Reader (byte isBlank isDigit skipBlanks)

/-! ## Readers of texts -/

/-- Something stands in front that is no blank and closes no array or object. -/
def Starts (t : Bytes) : Prop :=
  ∃ b more, t = b :: more ∧ isBlank b = false ∧ b ≠ byte ']' ∧ b ≠ byte '\x7d'

theorem Starts.append {t : Bytes} (h : Starts t) (rest : Bytes) : Starts (t ++ rest) := by
  obtain ⟨b, more, rfl, blank, noBracket, noBrace⟩ := h
  exact ⟨b, more ++ rest, rfl, blank, noBracket, noBrace⟩

/-- Only blanks are skipped in front of it. -/
theorem Starts.skipBlanks_append {w t : Bytes} (h : Starts t) (blanks : Blanks w) :
    skipBlanks (w ++ t) = t := by
  obtain ⟨b, more, rfl, blank, -, -⟩ := h
  exact skipBlanks_append_cons blanks blank

/-- Every text of a relation is read back. -/
structure Reads {α : Type} (item : Bytes → Except Stop (α × Bytes)) (R : α → Bytes → Prop) :
    Prop where
  /-- What the texts start with. -/
  starts : ∀ {a t}, R a t → Starts t
  /-- What is read of them. -/
  read : ∀ {a t rest}, R a t → Ends rest → item (t ++ rest) = .ok (a, rest)

/-! ## Rows -/

/-- A reader of items, with commas between them and a closing bracket behind the last. -/
structure ReadsRows {α : Type} (close : UInt8) (item : Bytes → Except Stop (α × Bytes))
    (items : Nat → Bytes → Except Stop (List α × Bytes)) : Prop where
  /-- The closing bracket is one. -/
  closes : close = byte ']' ∨ close = byte '\x7d'
  /-- The item in front of the closing bracket is the last one. -/
  last : ∀ {limit s a rest behind}, item s = .ok (a, rest) → skipBlanks rest = close :: behind →
    items (limit + 1) s = .ok ([a], behind)
  /-- A comma in front of anything else goes on to the next item. -/
  next : ∀ {limit s a rest more c behind}, item s = .ok (a, rest) →
    skipBlanks rest = byte ',' :: more → skipBlanks more = c :: behind → c ≠ close →
      items (limit + 1) s
        = (items limit (c :: behind)).map fun (as, rest) => (a :: as, rest)

theorem readsRows_elements (value : Reader.ValueReader) :
    ReadsRows (byte ']') value (Reader.elements value) where
  closes := .inl rfl
  last item behind := by
    simp [Reader.elements, item, behind, bind, Except.bind, pure, Except.pure]
  next {limit _ _ _ _ c behind} item comma following open' := by
    have noClose : byte ',' ≠ byte ']' := by decide
    simp only [Reader.elements, item, comma, following, if_neg noClose, if_neg open', if_pos, bind,
      Except.bind, pure, Except.pure]
    cases Reader.elements value limit (c :: behind) with
    | ok r => rfl
    | error e => rfl

theorem readsRows_members (value : Reader.ValueReader) :
    ReadsRows (byte '\x7d') (Reader.member value) (Reader.members value) where
  closes := .inr rfl
  last item behind := by
    simp [Reader.members, item, behind, bind, Except.bind, pure, Except.pure]
  next {limit _ _ _ _ c behind} item comma following open' := by
    have noClose : byte ',' ≠ byte '\x7d' := by decide
    simp only [Reader.members, item, comma, following, if_neg noClose, if_neg open', if_pos, bind,
      Except.bind, pure, Except.pure]
    cases Reader.members value limit (c :: behind) with
    | ok r => rfl
    | error e => rfl

section Rows

variable {α : Type} {R : α → Bytes → Prop} {close : UInt8}
  {item : Bytes → Except Stop (α × Bytes)} {items : Nat → Bytes → Except Stop (List α × Bytes)}

/-- Every item has a byte. -/
theorem Row.length_le {as : List α} {t : Bytes} (row : Row R as t)
    (starts : ∀ {a t}, R a t → Starts t) : as.length ≤ t.length := by
  have positive {a : α} {t : Bytes} (h : R a t) : 1 ≤ t.length := by
    obtain ⟨b, more, rfl, -⟩ := starts h
    exact Nat.le_add_left 1 more.length
  induction row with
  | one blanks item blanks' =>
      have := positive item
      simp only [List.length_append, List.length_cons, List.length_nil]
      omega
  | cons blanks item blanks' more ih =>
      have := positive item
      simp only [List.length_append, List.length_cons]
      omega

theorem ReadsRows.ends (rows : ReadsRows close item items) (rest : Bytes) :
    Ends (close :: rest) := by
  intro b hb
  cases hb
  exact .inr (.inr rows.closes)

theorem ReadsRows.not_isBlank (rows : ReadsRows close item items) : isBlank close = false := by
  rcases rows.closes with rfl | rfl
  all_goals rfl

/-- A text of an item is what the reader finds behind blanks, and it does not close the
row. -/
theorem ReadsRows.start (rows : ReadsRows close item items) {w t : Bytes} (blanks : Blanks w)
    (starts : Starts t) : skipBlanks (w ++ t) = t ∧ ∃ b more, t = b :: more ∧ b ≠ close := by
  refine ⟨starts.skipBlanks_append blanks, ?_⟩
  obtain ⟨b, more, rfl, -, noBracket, noBrace⟩ := starts
  rcases rows.closes with rfl | rfl
  · exact ⟨b, more, rfl, noBracket⟩
  · exact ⟨b, more, rfl, noBrace⟩

/-- A row is read from its first item on, behind the blanks in front of it. -/
theorem ReadsRows.read (rows : ReadsRows close item items) (reads : Reads item R) {as : List α}
    {t : Bytes} (row : Row R as t) (rest : Bytes) {limit : Nat} (enough : as.length ≤ limit) :
    ∃ b s, skipBlanks (t ++ close :: rest) = b :: s ∧ b ≠ close ∧
      items limit (b :: s) = .ok (as, rest) := by
  -- The limit falls with every item, so it is any limit that is enough for the items left.
  induction row generalizing limit with
  | @one a w t w' blanks text blanks' =>
      obtain ⟨limit, rfl⟩ := Nat.exists_eq_add_of_le' enough
      obtain ⟨found, b, s, first, noClose⟩ :=
        rows.start blanks ((reads.starts text).append (w' ++ close :: rest))
      have read := reads.read text (ends_append blanks' (rows.ends rest))
      refine ⟨b, s, ?_, noClose, ?_⟩
      · rw [← first, ← found, List.append_assoc, List.append_assoc]
      · rw [← first]
        exact rows.last read (skipBlanks_append_cons blanks' rows.not_isBlank)
  | @cons a more w t w' ts blanks text blanks' behind ih =>
      obtain ⟨limit, rfl⟩ := Nat.exists_eq_add_of_le' enough
      obtain ⟨c, s', following, noClose', readMore⟩ := ih (Nat.le_add_left more.length limit)
      obtain ⟨found, b, s, first, noClose⟩ :=
        rows.start blanks ((reads.starts text).append (w' ++ byte ',' :: (ts ++ close :: rest)))
      have read := reads.read text (ends_append blanks' (ends_comma (ts ++ close :: rest)))
      refine ⟨b, s, ?_, noClose, ?_⟩
      · rw [← first, ← found]
        simp only [List.append_assoc, List.cons_append]
      · have onward : items (limit + more.length + 1) _ = _ := rows.next read
          (skipBlanks_append_cons blanks' rfl) following noClose'
        rw [readMore, first] at onward
        exact onward

end Rows

/-! ## Members -/

theorem StringText.starts {s : String} {t : Bytes} (h : StringText s t) : Starts t := by
  cases h
  exact ⟨_, _, rfl, rfl, by decide, by decide⟩

theorem Reads.member {value : Reader.ValueReader} {R : Json → Bytes → Prop}
    (reads : Reads value R) : Reads (Reader.member value) (MemberText R) where
  starts h := by
    cases h with
    | mk key blanks blanks' text => exact key.starts.append _
  read {m t rest} h ends := by
    cases h with
    | @mk key v k w w' t keyText blanks blanks' text =>
        cases keyText with
        | @mk k chars =>
            have readKey := string_append chars (w ++ byte ':' :: (w' ++ (t ++ rest)))
            have colon : skipBlanks (w ++ byte ':' :: (w' ++ (t ++ rest)))
                = byte ':' :: (w' ++ (t ++ rest)) :=
              skipBlanks_append_cons blanks rfl
            have start : skipBlanks (w' ++ (t ++ rest)) = t ++ rest :=
              ((reads.starts text).append rest).skipBlanks_append blanks'
            simp [Reader.member, readKey, colon, start, reads.read text ends, bind, Except.bind,
              pure, Except.pure]

/-! ## Values -/

theorem array_blanks (value : Reader.ValueReader) {w : Bytes} (blanks : Blanks w) (rest : Bytes) :
    Reader.array value (w ++ byte ']' :: rest) = .ok (.array [], rest) := by
  rw [Reader.array, skipBlanks_append_cons blanks rfl]
  rfl

theorem object_blanks (value : Reader.ValueReader) {w : Bytes} (blanks : Blanks w) (rest : Bytes) :
    Reader.object value (w ++ byte '\x7d' :: rest) = .ok (.object [], rest) := by
  rw [Reader.object, skipBlanks_append_cons blanks rfl]
  rfl

theorem array_append {value : Reader.ValueReader} {R : Json → Bytes → Prop} (reads : Reads value R)
    {vs : List Json} {t : Bytes} (row : Row R vs t) (rest : Bytes) :
    Reader.array value (t ++ byte ']' :: rest) = .ok (.array vs, rest) := by
  have enough : vs.length ≤ (t ++ byte ']' :: rest).length := by
    have := row.length_le reads.starts
    rw [List.length_append]
    omega
  obtain ⟨b, s, start, noClose, read⟩ := (readsRows_elements value).read reads row rest enough
  simp only [Reader.array, start, if_neg noClose, read]
  rfl

theorem object_append {value : Reader.ValueReader} {R : Json → Bytes → Prop} (reads : Reads value R)
    {ms : Members} {t : Bytes} (row : Row (MemberText R) ms t) (rest : Bytes) :
    Reader.object value (t ++ byte '\x7d' :: rest) = .ok (.object ms, rest) := by
  have enough : ms.length ≤ (t ++ byte '\x7d' :: rest).length := by
    have := row.length_le reads.member.starts
    rw [List.length_append]
    omega
  obtain ⟨b, s, start, noClose, read⟩ := (readsRows_members value).read reads.member row rest enough
  simp only [Reader.object, start, if_neg noClose, read]
  rfl

/-- A digit is nothing else that a value may start with. -/
theorem ne_of_isDigit {b b' : UInt8} (digit : isDigit b = true) (h : isDigit b' = false) :
    b ≠ b' := by
  rintro rfl
  cases digit.symm.trans h

theorem starts_unsigned {b : UInt8} {more : Bytes} (h : isDigit b = true ∨ b = byte 'I') :
    Starts (b :: more) := by
  rcases h with digit | rfl
  · have blank : isBlank b = false :=
      Bool.eq_false_iff.2 fun blank => ne_of_isDigit digit (not_isDigit_of_isBlank blank) rfl
    exact ⟨b, more, rfl, blank, ne_of_isDigit digit rfl, ne_of_isDigit digit rfl⟩
  · exact ⟨_, _, rfl, rfl, by decide, by decide⟩

/-- What starts with a digit or the word of infinity is a number without a sign. -/
theorem valueWith_unsigned {array object : Reader.ValueReader} {b : UInt8} {more : Bytes}
    (h : isDigit b = true ∨ b = byte 'I') :
    Reader.valueWith array object (b :: more)
      = (Reader.unsignedNumber false (b :: more)).map fun (n, rest) => (.number n, rest) := by
  rcases h with digit | rfl
  · have ne (c : Char) (h : isDigit (byte c) = false) : b ≠ byte c := ne_of_isDigit digit h
    simp only [Reader.valueWith, digit, true_or, if_pos, if_neg (ne '"' rfl), if_neg (ne '[' rfl),
      if_neg (ne '\x7b' rfl), if_neg (ne 't' rfl), if_neg (ne 'f' rfl), if_neg (ne 'n' rfl),
      if_neg (ne 'N' rfl), if_neg (ne '-' rfl)]
  · rfl

/-- A number starts with its sign, a digit, or the letter of a word. -/
theorem NumberText.read {longest : Nat} (short : longest ≤ Reader.maxDigits) {n : Number}
    {t : Bytes} (h : NumberText longest n t) :
    Starts t ∧ ∀ {array object rest}, Ends rest →
      Reader.valueWith array object (t ++ rest) = .ok (.number n, rest) := by
  rcases h.unsignedNumber_append short with ⟨rfl, rfl⟩ | ⟨negative, behind, rfl, first, read⟩
  · refine ⟨⟨_, _, rfl, rfl, by decide, by decide⟩, fun {array object rest} _ => ?_⟩
    exact congrArg (Except.map _) (word_append "aN".toList rest)
  · obtain ⟨b, hb, digit⟩ := first
    cases negative with
    | true =>
        refine ⟨⟨_, _, rfl, rfl, by decide, by decide⟩, fun {array object rest} ends => ?_⟩
        exact congrArg (Except.map _) (read ends)
    | false =>
        obtain ⟨more, rfl⟩ : ∃ more, behind = b :: more := List.head?_eq_some_iff.1 hb
        refine ⟨starts_unsigned digit, fun {array object rest} ends => ?_⟩
        rw [sign, if_neg Bool.false_ne_true, List.nil_append, List.cons_append,
          valueWith_unsigned digit]
        exact congrArg (Except.map _) (read ends)

theorem ValueText.starts {longest : Nat} (short : longest ≤ Reader.maxDigits)
    {R : Json → Bytes → Prop} {v : Json} {t : Bytes} (h : ValueText longest R v t) : Starts t := by
  cases h with
  | number text => exact (text.read short).1
  | string text => exact text.starts
  | _ => exact ⟨_, _, rfl, rfl, by decide, by decide⟩

/-- A reader of the values inside of arrays and objects gives a reader of the values.  What a
value starts with says which reader it is left to. -/
theorem Reads.valueWith {longest : Nat} (short : longest ≤ Reader.maxDigits)
    {value : Reader.ValueReader} {R : Json → Bytes → Prop} (reads : Reads value R) :
    Reads (Reader.valueWith (Reader.array value) (Reader.object value)) (ValueText longest R) where
  starts h := h.starts short
  read {v t rest} h ends := by
    cases h with
    | null => exact congrArg (Except.map _) (word_append "ull".toList rest)
    | true => exact congrArg (Except.map _) (word_append "rue".toList rest)
    | false => exact congrArg (Except.map _) (word_append "alse".toList rest)
    | number text => exact (text.read short).2 ends
    | string text =>
        cases text with
        | @mk t chars =>
            have read := string_append chars rest
            rw [List.append_assoc]
            exact congrArg (Except.map _) read
    | emptyArray blanks =>
        rw [List.cons_append, List.append_assoc]
        exact array_blanks value blanks rest
    | array row =>
        rw [List.cons_append, List.append_assoc]
        exact array_append reads row rest
    | emptyObject blanks =>
        rw [List.cons_append, List.append_assoc]
        exact object_blanks value blanks rest
    | object row =>
        rw [List.cons_append, List.append_assoc]
        exact object_append reads row rest

/-- Where the first value of an object stops its reader, the object does. -/
theorem object_first_error {value : Reader.ValueReader} {key : String} {k t : Bytes} {stop : Stop}
    (text : StringText key k) (starts : Starts t) (h : value t = .error stop) :
    Reader.object value (k ++ byte ':' :: t) = .error stop := by
  cases text with
  | @mk k chars =>
      have readKey := string_append chars (byte ':' :: t)
      have colon : skipBlanks (byte ':' :: t) = byte ':' :: t := skipBlanks_cons rfl
      have start : skipBlanks t = t := starts.skipBlanks_append blanks_nil
      have member : Reader.member value (byte '"' :: (k ++ byte '"' :: byte ':' :: t))
          = .error stop := by
        simp [Reader.member, readKey, colon, start, h, bind, Except.bind]
      have members (limit : Nat) :
          Reader.members value (limit + 1) (byte '"' :: (k ++ byte '"' :: byte ':' :: t))
            = .error stop := by
        simp [Reader.members, member, bind, Except.bind]
      have quote : skipBlanks (byte '"' :: (k ++ byte '"' :: byte ':' :: t))
          = byte '"' :: (k ++ byte '"' :: byte ':' :: t) := skipBlanks_cons rfl
      have noClose : byte '"' ≠ byte '\x7d' := by decide
      simp only [Reader.object, List.cons_append, List.append_assoc, List.nil_append, quote,
        if_neg noClose, List.length_cons, members]
      rfl

/-- The texts of values down to a depth are read back. -/
theorem reads_valueTo {longest : Nat} (short : longest ≤ Reader.maxDigits) (depth : Nat) :
    Reads (Reader.valueTo depth) (TextTo longest depth) := by
  induction depth with
  | zero => exact Reads.valueWith short ⟨False.elim, fun h => h.elim⟩
  | succ depth ih => exact ih.valueWith short

/-- Every document of a value is read as that value, if its numbers are not too long for the
reader. -/
theorem read_of_document {longest : Nat} (short : longest ≤ Reader.maxDigits) {v : Json}
    {s : Bytes} (h : Document longest v s) : Json.read s = .ok v := by
  cases h with
  | @mk w t w' blanks text blanks' =>
      have reads := reads_valueTo short Reader.maxDepth
      have start : skipBlanks (w ++ (t ++ w')) = t ++ w' :=
        ((reads.starts text).append w').skipBlanks_append blanks
      have behind : skipBlanks w' = [] := List.append_nil w' ▸ skipBlanks_append blanks'
      have value := reads.read text (List.append_nil w' ▸ ends_append blanks' ends_nil)
      simp [Json.read, Reader.document, start, value, behind, bind, Except.bind, pure, Except.pure]

end RouteGraft.Json
