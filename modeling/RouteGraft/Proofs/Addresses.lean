import RouteGraft.Dart.Scan
import RouteGraft.Proofs.Characters
import RouteGraft.Proofs.Words
import RouteGraft.Route.Fragment

/-!
# The address of a name

The address of a name is empty, or groups of small letters and digits with a hyphen between any
two (`Naming.IsAddress`).  The words of such a text are its groups, since a word of small letters
and digits ends at a hyphen and not before (`Naming.wordsAfter_hyphenate`).  So the address of an
address is the address itself, and no other text is its own address (`Naming.kebab_address`).

No character of an address means anything inside of quotes.  The string with the address in
the class of a route ends at the quote behind the address (`Naming.lexeme_address`).
-/

namespace RouteGraft.Naming

/-! ## Small forms -/

/-- The small form is that of ASCII. -/
theorem lower_eq (c : Char) : lower c = c.toLower := by
  cases capital : isCapital c with
  | true =>
      have capitals : ∀ n, n < 26 →
          lower (Char.ofNat (n + 65)) = (Char.ofNat (n + 65)).toLower := by
        decide
      obtain ⟨low, high⟩ := isCapital_iff.1 capital
      have := capitals (c.toNat - 65) (by omega)
      rwa [Nat.sub_add_cancel low, Char.ofNat_toNat] at this
  | false =>
      have other : ¬ (c.val ≥ 'A'.val ∧ c.val ≤ 'Z'.val) := by
        rw [← Bool.not_eq_true, isCapital, Bool.and_eq_true, decide_eq_true_eq,
          decide_eq_true_eq] at capital
        exact capital
      have same : c.toLower = c := dif_neg other
      rw [lower, capital, same]
      rfl

theorem isSmall_lower {c : Char} (h : isWordChar c = true) : isSmall (lower c) = true := by
  unfold lower
  split
  · next capital =>
      have small : ∀ n, n < 26 → isSmall (Char.ofNat (n + 65 + 32)) = true := by decide
      obtain ⟨low, high⟩ := isCapital_iff.1 capital
      have := small (c.toNat - 65) (by omega)
      rwa [Nat.sub_add_cancel low] at this
  · next other => simpa [isWordChar, other] using h

theorem lower_of_isSmall {c : Char} (h : isSmall c = true) : lower c = c := by
  rw [lower, not_isCapital_of_isSmall h]
  rfl

/-! ## Characters of an address -/

theorem hyphenate_eq (ws : List (List Char)) : hyphenate ws = ['-'].intercalate ws := by
  induction ws with
  | nil => rfl
  | cons w rest ih =>
      cases rest with
      | nil => simp [hyphenate]
      | cons v rest => rw [hyphenate, ih, List.intercalate_cons_cons, List.append_assoc]; rfl

theorem mem_hyphenate {ws : List (List Char)} {c : Char} (hc : c ∈ hyphenate ws) :
    c = '-' ∨ ∃ w ∈ ws, c ∈ w := by
  induction ws with
  | nil => simp [hyphenate] at hc
  | cons w rest ih =>
      cases rest with
      | nil => exact .inr ⟨w, List.mem_cons_self, hc⟩
      | cons v rest =>
          rw [hyphenate, List.mem_append, List.mem_cons] at hc
          rcases hc with here | hyphen | later
          · exact .inr ⟨w, List.mem_cons_self, here⟩
          · exact .inl hyphen
          · rcases ih later with hyphen | ⟨w', member, here⟩
            · exact .inl hyphen
            · exact .inr ⟨w', List.mem_cons_of_mem w member, here⟩

/-- A character of an address: a small letter, a digit or a hyphen. -/
def IsAddressChar (c : Char) : Prop := isSmall c = true ∨ c = '-'

instance : DecidablePred IsAddressChar := fun c =>
  inferInstanceAs (Decidable (isSmall c = true ∨ c = '-'))

theorem isAddressChar_of_mem_kebab {raw : String} {c : Char} (hc : c ∈ (kebab raw).toList) :
    IsAddressChar c := by
  rw [kebab, String.toList_ofList] at hc
  rcases mem_hyphenate hc with hyphen | ⟨w, hw, hc⟩
  · exact .inr hyphen
  · obtain ⟨v, hv, rfl⟩ := List.mem_map.1 hw
    obtain ⟨d, hd, rfl⟩ := List.mem_map.1 hc
    exact .inl (isSmall_lower (isWordChar_of_mem_wordsAfter hv d hd))

/-! ## The form of an address -/

/-- Small letters and digits, at least one. -/
def IsGroup (g : List Char) : Prop := g ≠ [] ∧ ∀ c ∈ g, isSmall c = true

/-- Groups of small letters and digits with a hyphen between any two. -/
def IsAddress (s : String) : Prop :=
  ∃ groups : List String, groups ≠ [] ∧ (∀ g ∈ groups, IsGroup g.toList) ∧
    s = "-".intercalate groups

/-- The empty text and addresses are what is made of groups. -/
theorem isAddress_iff {s : String} :
    s = "" ∨ IsAddress s ↔ ∃ gs, (∀ g ∈ gs, IsGroup g) ∧ s.toList = hyphenate gs := by
  constructor
  · rintro (rfl | ⟨groups, -, all, rfl⟩)
    · exact ⟨[], by simp, rfl⟩
    · refine ⟨groups.map String.toList, List.forall_mem_map.2 all, ?_⟩
      rw [String.toList_intercalate, hyphenate_eq]
      rfl
  · rintro ⟨gs, all, same⟩
    cases gs with
    | nil => exact .inl (String.toList_eq_nil_iff.1 same)
    | cons g gs =>
        refine .inr ⟨(g :: gs).map String.ofList, by simp, ?_, ?_⟩
        · simpa using all
        · rw [← String.toList_inj, same, String.toList_intercalate, hyphenate_eq, List.map_map]
          simp [Function.comp_def]

/-- The words of groups are the groups. -/
theorem wordsAfter_hyphenate {gs : List (List Char)} (all : ∀ g ∈ gs, IsGroup g)
    (before : Option Char) : wordsAfter before (hyphenate gs) = gs := by
  induction gs generalizing before with
  | nil => rfl
  | cons g rest ih =>
      obtain ⟨⟨nonempty, small⟩, later⟩ := List.forall_mem_cons.1 all
      cases rest with
      | nil =>
          have word : IsWord before g [] := isWord_small nonempty small rfl
          have := word.wordsAfter_append
          rwa [List.append_nil] at this
      | cons g' rest =>
          have word : IsWord before g ('-' :: hyphenate (g' :: rest)) :=
            isWord_small nonempty small rfl
          rw [hyphenate, word.wordsAfter_append, wordsAfter, ih later]
          rfl

/-- The small forms of words are groups. -/
theorem isGroup_lower {before : Option Char} {cs : List Char} :
    ∀ g ∈ (wordsAfter before cs).map (·.map lower), IsGroup g := by
  intro g hg
  obtain ⟨w, hw, rfl⟩ := List.mem_map.1 hg
  refine ⟨by simpa using ne_nil_of_mem_wordsAfter hw, fun c hc => ?_⟩
  obtain ⟨d, hd, rfl⟩ := List.mem_map.1 hc
  exact isSmall_lower (isWordChar_of_mem_wordsAfter hw d hd)

theorem isAddress_kebab (s : String) : kebab s = "" ∨ IsAddress (kebab s) :=
  isAddress_iff.2 ⟨_, isGroup_lower, by rw [kebab, String.toList_ofList]⟩

/-- An address is its own address. -/
theorem kebab_of_isAddress {s : String} (h : s = "" ∨ IsAddress s) : kebab s = s := by
  obtain ⟨gs, all, same⟩ := isAddress_iff.1 h
  have lowered (g : List Char) (hg : g ∈ gs) : g.map lower = g :=
    (List.map_congr_left fun c hc => lower_of_isSmall ((all g hg).2 c hc)).trans (List.map_id g)
  rw [kebab, same, wordsAfter_hyphenate all, (List.map_congr_left lowered).trans (List.map_id gs),
    ← same, String.ofList_toList]

theorem words_kebab (s : String) : words (kebab s) = (words s).map String.toLower := by
  rw [words, kebab, String.toList_ofList, wordsAfter_hyphenate isGroup_lower, words,
    List.map_map, List.map_map]
  refine List.map_congr_left fun w _ => ?_
  have small : (String.ofList w).toLower = (String.ofList w).map Char.toLower := rfl
  rw [← String.toList_inj, Function.comp, Function.comp, small, String.toList_map,
    String.toList_ofList, String.toList_ofList, funext lower_eq]

/-! ## Addresses in quotes -/

/-- The text in front of the address in the class of a route. -/
def beforeAddress (m : RouteMeta) (name : String) : String :=
  "class " ++ m.className name ++ " extends " ++ m.baseClass ++ "<" ++ m.generic ++ "> \x7b\n"
    ++ "  " ++ m.className name ++ "() : super("

theorem routeClass_eq (m : RouteMeta) (name : String) :
    Fragment.routeClass m name
      = beforeAddress m name ++ "'" ++ kebab name ++ "'" ++ ");\n\x7d" := by
  have opening : "() : super('" = "() : super(" ++ "'" := rfl
  have closing : "');\n" ++ "\x7d" = "'" ++ ");\n\x7d" := rfl
  unfold Fragment.routeClass beforeAddress
  rw [opening]
  simp only [String.append_assoc, closing]

/-- A byte of a string that is nothing but itself. -/
def IsInert (b : UInt8) : Prop := b ≠ 0x27 ∧ b ≠ 0x0A ∧ b ≠ 0x5C ∧ b ≠ 0x24

/-- A single-quoted string ends at the first quote if the bytes in front of it are inert. -/
theorem enclosed_inert {bytes : Bytes} (inert : ∀ b ∈ bytes, IsInert b) (inWord : Bool)
    (rest : Bytes) :
    Dart.enclosed [.quoted 0x27 false false] inWord 0 (bytes ++ 0x27 :: rest)
      = bytes.length + 1 := by
  induction bytes generalizing inWord with
  | nil =>
      have outside (inWord : Bool) : Dart.enclosed [] inWord 0 rest = 0 := by cases rest <;> rfl
      simp [Dart.enclosed, Dart.stepEnclosed, Dart.stepQuoted, outside]
  | cons b bytes ih =>
      obtain ⟨⟨quote, line, backslash, dollar⟩, later⟩ := List.forall_mem_cons.1 inert
      have step : Dart.stepEnclosed inWord b (bytes ++ 0x27 :: rest) [.quoted 0x27 false false]
          = ([.quoted 0x27 false false], 1) := by
        simp [Dart.stepEnclosed, Dart.stepQuoted, quote, line, backslash, dollar]
      rw [List.cons_append, Dart.enclosed, step, List.length_cons]
      · show 1 + Dart.enclosed _ _ 0 _ = _
        rw [ih later]
        omega
      · exact List.cons_ne_nil _ _

theorem inert_address (s : String) : ∀ b ∈ Utf8.encode (kebab s), IsInert b := by
  intro b hb
  obtain ⟨c, hc, hb⟩ := List.mem_flatMap.1 hb
  have range : c.toNat = 45 ∨ (48 ≤ c.toNat ∧ c.toNat ≤ 57) ∨ (97 ≤ c.toNat ∧ c.toNat ≤ 122) := by
    rcases isAddressChar_of_mem_kebab hc with small | rfl
    · rw [isSmall, Bool.or_eq_true, isSmallLetter_iff, isDigit_iff] at small
      omega
    · exact .inl rfl
  have size : c.utf8Size = 1 := by
    rw [Char.utf8Size_eq_one_iff, UInt32.le_iff_toNat_le]
    show c.toNat ≤ 127
    omega
  rw [String.utf8EncodeChar_eq_singleton size, List.mem_singleton] at hb
  have number : b.toNat = c.toNat := by
    rw [hb, UInt32.toNat_toUInt8]
    show c.toNat % 256 = c.toNat
    omega
  have other (k : UInt8) (h : c.toNat ≠ k.toNat) : b ≠ k := fun eq => h (eq ▸ number.symm)
  refine ⟨other 0x27 ?_, other 0x0A ?_, other 0x5C ?_, other 0x24 ?_⟩
  · show c.toNat ≠ 39
    omega
  · show c.toNat ≠ 10
    omega
  · show c.toNat ≠ 92
    omega
  · show c.toNat ≠ 36
    omega

/-- The string with the address in the class of a route ends at the quote behind the address. -/
theorem lexeme_address (s : String) (dots : Nat) {rest : Bytes} (next : rest.head? ≠ some 0x27) :
    Dart.lexeme dots 0x27 (Utf8.encode (kebab s) ++ 0x27 :: rest)
      = (.text, (Utf8.encode (kebab s)).length + 2) := by
  have inert := inert_address s
  generalize Utf8.encode (kebab s) = bytes at inert ⊢
  have single : Dart.twoMore 0x27 (bytes ++ 0x27 :: rest) = false := by
    cases bytes with
    | nil =>
        cases rest with
        | nil => rfl
        | cons b rest =>
            have other : b ≠ 0x27 := fun eq => next (by rw [eq]; rfl)
            simp [Dart.twoMore, other]
    | cons b bytes =>
        have other : b ≠ 0x27 := (inert b List.mem_cons_self).1
        cases bytes <;> simp [Dart.twoMore, other]
  have quoted : Dart.text 0x27 false (bytes ++ 0x27 :: rest) = (.text, bytes.length + 2) := by
    rw [Dart.text, Dart.opening, single]
    simp only [Bool.false_eq_true, if_false, Nat.sub_self, List.drop_zero, enclosed_inert inert]
    rw [Nat.add_comm]
  simp [Dart.lexeme, Dart.isWordStart, Dart.isDigitByte, Dart.isQuote, quoted]

/-! ## What addresses are -/

/-- The address of a name is empty or has the form of an address, and just the texts of this
form and the empty one are their own addresses.  So the address of an address is the address
itself, and its words are the words of the name in small letters.  In the class of the route
the string that starts in front of the address ends right behind it. -/
theorem kebab_address (s : String) :
    (kebab s = "" ∨ IsAddress (kebab s)) ∧ (kebab s = s ↔ s = "" ∨ IsAddress s) ∧
      kebab (kebab s) = kebab s ∧ words (kebab s) = (words s).map String.toLower ∧
      ∀ (m : RouteMeta) (dots : Nat), ∃ rest,
        Utf8.encode (Fragment.routeClass m s)
            = Utf8.encode (beforeAddress m s) ++ 0x27 :: (Utf8.encode (kebab s) ++ 0x27 :: rest) ∧
          Dart.lexeme dots 0x27 (Utf8.encode (kebab s) ++ 0x27 :: rest)
            = (.text, (Utf8.encode (kebab s)).length + 2) := by
  refine ⟨isAddress_kebab s, ⟨fun same => ?_, kebab_of_isAddress⟩,
    kebab_of_isAddress (isAddress_kebab s), words_kebab s, fun m dots => ?_⟩
  · rw [← same]
    exact isAddress_kebab s
  · refine ⟨Utf8.encode ");\n\x7d", ?_, lexeme_address s dots (by decide)⟩
    have quote : Utf8.encode "'" = [0x27] := rfl
    simp [routeClass_eq, Utf8.encode_append, quote]

end RouteGraft.Naming
