import Mathlib.Data.List.Infix
import Mathlib.Data.List.TakeWhile
import RouteGraft.Console.Markup
import RouteGraft.Proofs.Rows

/-!
# Texts that are shown as they are

A text that is printed as markup may lose some of its characters and gain others.  It is
shown as it is if it is *verbatim* (`Markup.Verbatim`): it has no tag in it, no backslash in
front of an opening bracket, no emoji, and no character that moves the cursor or breaks the
line.

Without colons there are no emoji, and what is left of a text is one of its sublists.  It is
all of the text only if there was no tag and no backslash to drop (`Markup.shown_pieces`).
-/

namespace RouteGraft.Console

/-- A text inside of three texts in a row is inside of the second one if its first
character is not in the one in front, and its last one is not in the one behind. -/
theorem infix_of_append {x y : Char} {inside front text back : List Char} (hx : x ∉ front)
    (hy : y ∉ back) (h : x :: inside ++ [y] <:+: front ++ text ++ back) :
    x :: inside ++ [y] <:+: text := by
  have behind : x :: inside ++ [y] <:+: text ++ back := by
    rw [List.append_assoc] at h
    induction front with
    | nil => exact h
    | cons c front ih =>
        rw [List.mem_cons, not_or] at hx
        rcases List.infix_cons_iff.1 h with starts | later
        · exact absurd (List.cons_prefix_cons.1 starts).1 hx.1
        · exact ih hx.2 later
  clear h
  induction back using List.reverseRecOn with
  | nil => rwa [List.append_nil] at behind
  | append_singleton back c ih =>
      rw [List.mem_append, List.mem_singleton, not_or] at hy
      rw [← List.append_assoc, List.infix_concat_iff] at behind
      rcases behind with ends | earlier
      · obtain ⟨rest, eq⟩ := ends
        rw [← List.append_assoc] at eq
        exact absurd (List.append_inj' eq rfl).2 (by simpa using hy.2)
      · exact ih hy.1 earlier

/-! ## Characters -/

/-- A character that takes its place in a line and nothing else. -/
def IsPlain (c : Char) : Prop := movesCursor c = false ∧ c ≠ '\t' ∧ c ≠ '\n'

instance : DecidablePred IsPlain := fun c =>
  inferInstanceAs (Decidable (movesCursor c = false ∧ c ≠ '\t' ∧ c ≠ '\n'))

/-- Looking at the characters of a text is enough to know something of all of them. -/
theorem forall_of_all {P : Char → Prop} [DecidablePred P] {cs : List Char}
    (h : cs.all (decide <| P ·) = true) : ∀ c ∈ cs, P c :=
  fun c hc => of_decide_eq_true (List.all_eq_true.1 h c hc)

theorem expandTabs_of_not_mem {cs : List Char} (column : Nat) (noTab : '\t' ∉ cs) :
    expandTabs column cs = cs := by
  induction cs generalizing column with
  | nil => rfl
  | cons c rest ih =>
      rw [List.mem_cons, not_or] at noTab
      rw [expandTabs, if_neg (Ne.symm noTab.1), ih _ noTab.2, ih _ noTab.2]
      split <;> rfl

theorem laidOut_of_plain {cs : List Char} (plain : ∀ c ∈ cs, IsPlain c) : laidOut cs = cs := by
  have stays : cs.filter (!movesCursor ·) = cs :=
    List.filter_eq_self.2 fun c hc => by simp [(plain c hc).1]
  rw [laidOut, stays, expandTabs_of_not_mem 0 fun tab => (plain _ tab).2.1 rfl]

/-- Plain characters that fit are printed as they are, if there is no space behind them. -/
theorem printed_of_plain {width : Option Nat} {cs : List Char} (plain : ∀ c ∈ cs, IsPlain c)
    (fits : Fits width cs) (trimmed : Text.trimEnd cs = cs) (shown : 0 < cellsOf cs) :
    printed width cs = String.ofList (cs ++ ['\n']) := by
  have oneLine : '\n' ∉ cs := fun broken => (plain _ broken).2.2 rfl
  have laid := laidOut_of_plain plain
  rw [printed_eq_iff oneLine, rows_of_oneLine (by rwa [laid]), laid,
    rowsOf_of_fits fits trimmed shown]

/-- What is printed for a part of a line is the line only if the part is all of it, nothing in it
moves the cursor, and it fits. -/
theorem eq_of_printed_eq {width : Option Nat} {cs text : List Char} (part : cs.Sublist text)
    (oneLine : '\n' ∉ text) (h : printed width cs = String.ofList (text ++ ['\n'])) :
    cs = text ∧ (∀ c ∈ text, movesCursor c = false ∧ c ≠ '\t') ∧ Fits width text := by
  have single := (printed_eq_iff oneLine).1 h
  rw [rows_of_oneLine (oneLine_of_length_rows (by rw [single]; rfl))] at single
  obtain ⟨fits, shorter⟩ := rowsOf_eq_singleton single
  have noTab : '\t' ∉ text := by
    intro tab
    rcases mem_of_mem_rowsOf (single ▸ List.mem_singleton_self text) _ tab with inside | blank
    · exact tab_not_mem_laidOut cs inside
    · cases blank
  have kept : (cs.filter (!movesCursor ·)).Sublist cs := List.filter_sublist
  have laid : laidOut cs = cs.filter (!movesCursor ·) :=
    expandTabs_of_not_mem 0 fun tab => noTab (part.subset (kept.subset tab))
  rw [laid] at shorter
  have same : cs = text := part.eq_of_length_le (shorter.trans kept.length_le)
  have all : cs.filter (!movesCursor ·) = cs :=
    kept.eq_of_length_le (part.length_le.trans shorter)
  refine ⟨same, fun c hc => ⟨?_, fun tab => noTab (tab ▸ hc)⟩, fits⟩
  rw [← same, ← all] at hc
  simpa using (List.mem_filter.1 hc).2

/-! ## Emoji -/

theorem Emoji.replace_append_left {front cs : List Char} (noColon : ':' ∉ front) :
    replace (front ++ cs) = front ++ replace cs := by
  unfold replace
  induction front with
  | nil => rfl
  | cons c front ih =>
      rw [List.mem_cons, not_or] at noColon
      rw [List.cons_append, replaceFrom]
      simp [Ne.symm noColon.1, ih noColon.2]

/-- An emoji ends with a colon, so there is none at the end of a text that has no colon
there. -/
theorem Emoji.replaceFrom_append {back : List Char} (noColon : ':' ∉ back) {skip : Nat}
    {cs : List Char} (inside : skip ≤ cs.length) :
    replaceFrom skip (cs ++ back) = replaceFrom skip cs ++ back := by
  induction cs generalizing skip with
  | nil =>
      obtain rfl := Nat.le_zero.1 inside
      exact replace_of_not_mem noColon
  | cons c rest ih =>
      cases skip with
      | succ skip =>
          rw [List.cons_append, replaceFrom, replaceFrom]
          exact ih (Nat.le_of_succ_le_succ inside)
      | zero =>
          rw [List.cons_append, replaceFrom, replaceFrom, List.takeWhile_append]
          split
          · next whole =>
              -- what might be a name goes on behind the text, where no colon ends it
              have starts := List.takeWhile_prefix (p := fun c => !Text.isSpace c && c ≠ ':')
                (l := rest)
              have taken := starts.eq_of_length whole
              have open_ : ((rest ++ back).drop (rest ++ back.takeWhile fun c =>
                  !Text.isSpace c && c ≠ ':').length).head? ≠ some ':' := by
                intro closed
                rw [List.length_append, List.drop_length_add_append] at closed
                exact noColon (List.mem_of_mem_drop (List.mem_of_head? closed))
              rw [if_neg fun h => open_ h.2, taken, List.drop_length, if_neg (by simp),
                ih (Nat.zero_le _), List.cons_append]
          · next stops =>
              have starts := List.takeWhile_prefix (p := fun c => !Text.isSpace c && c ≠ ':')
                (l := rest)
              have short : (rest.takeWhile fun c => !Text.isSpace c && c ≠ ':').length
                  < rest.length := Nat.lt_of_le_of_ne starts.length_le stops
              have behind : rest.drop (rest.takeWhile fun c =>
                  !Text.isSpace c && c ≠ ':').length ≠ [] :=
                fun none => Nat.not_le_of_lt short (List.drop_eq_nil_iff.1 none)
              rw [List.drop_append_of_le_length short.le, List.head?_append_of_ne_nil _ behind]
              split
              · rw [ih short, List.append_assoc]
              · rw [ih (Nat.zero_le _), List.cons_append]

theorem Emoji.replace_append_right {cs back : List Char} (noColon : ':' ∉ back) :
    replace (cs ++ back) = replace cs ++ back :=
  replaceFrom_append noColon (Nat.zero_le _)

namespace Markup

/-! ## Tags -/

/-- A text that is a tag. -/
def IsTag (t : List Char) : Prop :=
  ∃ c inside, t = '[' :: (c :: inside) ++ [']'] ∧ startsTag c = true ∧
    ∀ x ∈ inside, x ≠ '[' ∧ x ≠ ']'

theorem isTag_of_tagInside {cs inside : List Char} (h : tagInside? cs = some inside) :
    IsTag ('[' :: inside ++ [']']) ∧ ∃ back, cs = '[' :: inside ++ [']'] ++ back := by
  unfold tagInside? at h
  split at h
  · next c rest =>
      simp only at h
      split at h
      · next passes =>
          cases h
          obtain ⟨starts, closed⟩ := Bool.and_eq_true_iff.1 passes
          have front := List.takeWhile_prefix (l := rest) fun c => c ≠ ']' && c ≠ '['
          have shape := List.prefix_iff_eq_append.1 front
          obtain ⟨back, behind⟩ := List.head?_eq_some_iff.1 (of_decide_eq_true closed)
          rw [behind] at shape
          refine ⟨⟨c, _, rfl, starts, fun x hx => ?_⟩, back, ?_⟩
          · simpa [and_comm] using List.mem_takeWhile_imp hx
          · rw [List.append_assoc, List.singleton_append, List.cons_append, List.cons_append, shape]
      · cases h
  · cases h

theorem tagInside_of_isTag {t back : List Char} (h : IsTag t) :
    (tagInside? (t ++ back)).isSome := by
  obtain ⟨c, inside, rfl, starts, others⟩ := h
  have passes : ∀ x ∈ inside, (x ≠ ']' && x ≠ '[') = true := by
    intro x hx
    simp [others x hx]
  have taken : (inside ++ ']' :: back).takeWhile (fun x => x ≠ ']' && x ≠ '[') = inside := by
    rw [List.takeWhile_append_of_pos passes, List.takeWhile_cons_of_neg (by simp), List.append_nil]
  have shape : '[' :: (c :: inside) ++ [']'] ++ back = '[' :: c :: (inside ++ ']' :: back) := by
    simp
  rw [shape, tagInside?]
  simp only [taken]
  rw [List.drop_left, starts]
  rfl

/-- A text with no tag in it. -/
def Untagged (cs : List Char) : Prop := ∀ t, IsTag t → ¬ t <:+: cs

/-- A text that is shown as it is. -/
structure Verbatim (cs : List Char) : Prop where
  plain : ∀ c ∈ cs, IsPlain c
  untagged : Untagged cs
  unescaped : ¬ ['\\', '['] <:+: cs
  noEmoji : Emoji.replace cs = cs

/-- A text stays as it is between two others that no brackets, backslashes or colons are in. -/
theorem Verbatim.append {front cs back : List Char} (h : Verbatim cs)
    (plainFront : ∀ c ∈ front, IsPlain c ∧ c ≠ '[' ∧ c ≠ '\\' ∧ c ≠ ':')
    (plainBack : ∀ c ∈ back, IsPlain c ∧ c ≠ '[' ∧ c ≠ ']' ∧ c ≠ ':') :
    Verbatim (front ++ cs ++ back) where
  plain := by
    intro c hc
    rw [List.mem_append, List.mem_append] at hc
    rcases hc with (hc | hc) | hc
    · exact (plainFront c hc).1
    · exact h.plain c hc
    · exact (plainBack c hc).1
  untagged := by
    rintro t ⟨c, inside, rfl, starts, others⟩ within
    refine h.untagged _ ⟨c, inside, rfl, starts, others⟩ (infix_of_append ?_ ?_ within)
    · exact fun hc => (plainFront _ hc).2.1 rfl
    · exact fun hc => (plainBack _ hc).2.2.1 rfl
  unescaped := by
    intro within
    refine h.unescaped (@infix_of_append '\\' '[' [] front cs back ?_ ?_ within)
    · exact fun hc => (plainFront _ hc).2.2.1 rfl
    · exact fun hc => (plainBack _ hc).2.1 rfl
  noEmoji := by
    have noColon : ':' ∉ back := fun hc => (plainBack _ hc).2.2.2 rfl
    have noColon' : ':' ∉ front := fun hc => (plainFront _ hc).2.2.2 rfl
    rw [Emoji.replace_append_right noColon, Emoji.replace_append_left noColon', h.noEmoji]

/-- A part of a text without colons that is shown as it is is so as well. -/
theorem Verbatim.part {part cs : List Char} (h : Verbatim cs) (noColon : ':' ∉ cs)
    (within : part <:+: cs) : Verbatim part where
  plain := fun c hc => h.plain c (within.subset hc)
  untagged := fun t tag inside => h.untagged t tag (inside.trans within)
  unescaped := fun inside => h.unescaped (inside.trans within)
  noEmoji := Emoji.replace_of_not_mem fun hc => noColon (within.subset hc)

/-! ## Backslashes -/

theorem unescape_sublist (cs : List Char) : (unescape cs).Sublist cs := by
  induction cs with
  | nil => exact .slnil
  | cons c rest ih =>
      rw [unescape]
      split
      · exact ih.cons c
      · exact ih.cons_cons c

theorem escape_infix_cons {c : Char} {rest : List Char} :
    ['\\', '['] <:+: c :: rest ↔ (c = '\\' ∧ rest.head? = some '[') ∨ ['\\', '['] <:+: rest := by
  rw [List.infix_cons_iff, List.cons_prefix_cons]
  cases rest with
  | nil => simp
  | cons d rest => simp [eq_comm]

/-- Backslashes stay only if none of them is in front of an opening bracket. -/
theorem unescape_eq_self {cs : List Char} : unescape cs = cs ↔ ¬ ['\\', '['] <:+: cs := by
  induction cs with
  | nil => simp [unescape]
  | cons c rest ih =>
      rw [unescape, escape_infix_cons]
      split
      · next dropped =>
          refine iff_of_false (fun same => ?_) (fun h => h (.inl dropped))
          have shorter := same ▸ (unescape_sublist rest).length_le
          rw [List.length_cons] at shorter
          omega
      · next kept => rw [List.cons.injEq, ih]; simp [kept]

/-! ## Pieces -/

/-- The characters of a piece as they were written. -/
def Piece.written : Piece → List Char
  | .text cs | .escaped cs => cs
  | .tag .. => []

/-- The characters of a piece as they are shown, up to emoji. -/
def Piece.shown : Piece → List Char
  | .text cs => unescape cs
  | .escaped cs => cs
  | .tag .. => []

theorem Piece.shown_sublist (p : Piece) : p.shown.Sublist p.written := by
  cases p with
  | text cs => exact unescape_sublist cs
  | escaped cs => exact .refl cs
  | tag => exact .slnil

theorem shown_sublist_written (ps : List Piece) :
    (ps.flatMap Piece.shown).Sublist (ps.flatMap Piece.written) := by
  induction ps with
  | nil => exact .slnil
  | cons p ps ih => exact p.shown_sublist.append ih

theorem written_addChar (c : Char) (ps : List Piece) :
    (addChar c ps).flatMap Piece.written = c :: ps.flatMap Piece.written := by
  unfold addChar
  split <;> rfl

theorem piecesFrom_skip (position skip : Nat) (cs : List Char) :
    piecesFrom position skip cs = piecesFrom (position + skip) 0 (cs.drop skip) := by
  induction cs generalizing position skip with
  | nil => rw [List.drop_nil, piecesFrom, piecesFrom]
  | cons c rest ih =>
      cases skip with
      | zero => rfl
      | succ skip =>
          rw [piecesFrom, ih, List.drop_succ_cons]
          congr 1
          omega

/-- A text goes on with a character of its own, or with a tag that has backslashes in front. -/
theorem piecesFrom_cases (position : Nat) (c : Char) (rest : List Char) :
    (tagInside? (c :: rest) = none ∧
        piecesFrom position 0 (c :: rest) = addChar c (piecesFrom (position + 1) 0 rest)) ∨
      ∃ n inside back, c :: rest = List.replicate n '\\' ++ ('[' :: inside ++ [']']) ++ back ∧
        IsTag ('[' :: inside ++ [']']) ∧
        ∃ next, piecesFrom position 0 (c :: rest)
          = tagPieces position n inside ++ piecesFrom next 0 back := by
  have starts := List.takeWhile_prefix (l := c :: rest) (· = '\\')
  have pieces : piecesFrom position 0 (c :: rest) =
      (tagInside? ((c :: rest).drop ((c :: rest).takeWhile (· = '\\')).length)).elim
        (addChar c (piecesFrom (position + 1) 0 rest)) fun inside =>
          tagPieces position ((c :: rest).takeWhile (· = '\\')).length inside
            ++ piecesFrom (position + 1)
              (((c :: rest).takeWhile (· = '\\')).length + inside.length + 1) rest := by
    rw [piecesFrom]
    cases tagInside? ((c :: rest).drop ((c :: rest).takeWhile (· = '\\')).length) with
    | none => rfl
    | some inside => rfl
  have allSlashes : (c :: rest).takeWhile (· = '\\')
      = List.replicate ((c :: rest).takeWhile (· = '\\')).length '\\' :=
    List.eq_replicate_iff.2 ⟨rfl, fun x hx => by simpa using List.mem_takeWhile_imp hx⟩
  generalize (c :: rest).takeWhile (· = '\\') = slashes at starts pieces allSlashes
  cases found : tagInside? ((c :: rest).drop slashes.length) with
  | none =>
      rw [found] at pieces
      refine .inl ⟨?_, pieces⟩
      cases slashes with
      | nil => exact found
      | cons s more =>
          have first := (List.cons_prefix_cons.1 starts).1
          have isSlash : s = '\\' := List.eq_of_mem_replicate (allSlashes ▸ List.mem_cons_self)
          rw [← first, isSlash]
          rfl
  | some inside =>
      rw [found] at pieces
      obtain ⟨isTag, back, behind⟩ := isTag_of_tagInside found
      have whole := List.prefix_iff_eq_append.1 starts
      rw [behind] at whole
      refine .inr ⟨slashes.length, inside, back, ?_, isTag,
        position + 1 + (slashes.length + inside.length + 1), ?_⟩
      · rw [← allSlashes, List.append_assoc, whole]
      · have left : rest.drop (slashes.length + inside.length + 1) = back := by
          rw [← List.drop_succ_cons (a := c), ← whole, ← List.append_assoc]
          exact List.drop_left' (by simp; omega)
        rw [pieces, Option.elim, piecesFrom_skip, left]

theorem written_tagPieces (position n : Nat) (inside : List Char) :
    (tagPieces position n inside).flatMap Piece.written
      = List.replicate (n / 2) '\\' ++ if n % 2 = 1 then '[' :: inside ++ [']'] else [] := by
  have slashes : (if n / 2 = 0 then [] else [Piece.escaped (List.replicate (n / 2) '\\')]).flatMap
      Piece.written = List.replicate (n / 2) '\\' := by
    split
    · next none => rw [none]; rfl
    · simp [Piece.written]
  simp only [tagPieces]
  split
  · rw [List.flatMap_append, slashes]
    simp [Piece.written]
  · rw [List.flatMap_append, slashes]
    simp [Piece.written]

/-- Of a tag and the backslashes in front of it something is lost. -/
theorem written_tagPieces_sublist (position n : Nat) (inside : List Char) :
    let written := (tagPieces position n inside).flatMap Piece.written
    written.Sublist (List.replicate n '\\' ++ ('[' :: inside ++ [']'])) ∧
      written.length < n + (inside.length + 2) := by
  rw [written_tagPieces]
  have fewer : n / 2 ≤ n := Nat.div_le_self n 2
  refine ⟨List.Sublist.append (List.replicate_sublist_replicate _ |>.2 fewer) ?_, ?_⟩
  · split
    · exact .refl _
    · exact List.nil_sublist _
  · split
    · simp
      omega
    · simp
      omega

/-- Pieces hold a part of the text they were cut from, and all of it only if it has no tag. -/
theorem written_pieces (position : Nat) (cs : List Char) :
    ((piecesFrom position 0 cs).flatMap Piece.written).Sublist cs ∧
      ((piecesFrom position 0 cs).flatMap Piece.written = cs → Untagged cs) := by
  induction length : cs.length using Nat.strongRecOn generalizing position cs with
  | _ length ih =>
      subst length
      cases cs with
      | nil =>
          refine ⟨.slnil, fun _ t tag inside => ?_⟩
          obtain ⟨c, inside', rfl, -⟩ := tag
          simp at inside
      | cons c rest =>
          rcases piecesFrom_cases position c rest with
            ⟨noTag, pieces⟩ | ⟨n, inside, back, shape, -, next, pieces⟩
          · obtain ⟨part, all⟩ := ih rest.length (by simp) (position + 1) rest rfl
            rw [pieces, written_addChar]
            refine ⟨part.cons_cons c, fun same t tag within => ?_⟩
            rcases List.infix_cons_iff.1 within with ⟨back, starts⟩ | later
            · have isTag := @tagInside_of_isTag t back tag
              rw [starts, noTag] at isTag
              cases isTag
            · exact all (List.cons.inj same).2 t tag later
          · have shorter : back.length < (c :: rest).length := by
              rw [shape]
              simp
              omega
            obtain ⟨part, -⟩ := ih back.length shorter next back rfl
            obtain ⟨tagPart, tagShort⟩ := written_tagPieces_sublist position n inside
            rw [pieces, List.flatMap_append, shape]
            refine ⟨tagPart.append part, fun same => ?_⟩
            have shrinks := Nat.add_lt_add_of_lt_of_le tagShort part.length_le
            rw [← List.length_append, same] at shrinks
            simp at shrinks
            omega

/-- A text without tags is one piece. -/
theorem piecesFrom_of_untagged (position : Nat) {cs : List Char} (untagged : Untagged cs)
    (nonempty : cs ≠ []) : piecesFrom position 0 cs = [.text cs] := by
  induction cs generalizing position with
  | nil => exact absurd rfl nonempty
  | cons c rest ih =>
      rcases piecesFrom_cases position c rest with
        ⟨-, pieces⟩ | ⟨n, inside, back, shape, isTag, -⟩
      · rw [pieces]
        cases rest with
        | nil => rfl
        | cons d rest =>
            rw [ih (position + 1) (fun t tag within => untagged t tag (within.trans ?_))
              (List.cons_ne_nil d rest)]
            · rfl
            · exact (List.suffix_cons c _).isInfix
      · exact absurd ⟨_, back, shape.symm⟩ (untagged _ isTag)

/-- What is shown of a text is a part of it, and all of it only if the text has no tag and no
backslash that is dropped. -/
theorem shown_pieces (position : Nat) (cs : List Char) :
    ((piecesFrom position 0 cs).flatMap Piece.shown).Sublist cs ∧
      ((piecesFrom position 0 cs).flatMap Piece.shown = cs →
        Untagged cs ∧ ¬ ['\\', '['] <:+: cs) := by
  have lost := shown_sublist_written (piecesFrom position 0 cs)
  obtain ⟨part, all⟩ := written_pieces position cs
  refine ⟨lost.trans part, fun same => ?_⟩
  rw [same] at lost
  have untagged : Untagged cs := all (part.antisymm lost)
  refine ⟨untagged, unescape_eq_self.1 ?_⟩
  cases cs with
  | nil => rfl
  | cons c rest =>
      rw [piecesFrom_of_untagged position untagged (List.cons_ne_nil c rest)] at same
      simpa [Piece.shown] using same

/-! ## Rendering -/

/-- Without colons the text of some pieces is what is shown of them. -/
theorem text_of_renderPieces {opened : List Tag} {ps : List Piece} {r : Rendered}
    (h : renderPieces opened ps = .ok r) (noColon : ':' ∉ ps.flatMap Piece.written) :
    r.text = ps.flatMap Piece.shown := by
  induction ps generalizing opened r with
  | nil =>
      cases h
      rfl
  | cons p ps ih =>
      rw [List.flatMap_cons, List.mem_append, not_or] at noColon
      have noEmoji : Emoji.replace p.shown = p.shown :=
        Emoji.replace_of_not_mem fun colon => noColon.1 (p.shown_sublist.subset colon)
      rw [List.flatMap_cons]
      cases p with
      | text cs =>
          rw [renderPieces] at h
          split at h
          · next later =>
              cases h
              rw [ih later noColon.2, ← noEmoji]
              rfl
          · cases h
      | escaped cs =>
          rw [renderPieces] at h
          split at h
          · next later =>
              cases h
              rw [ih later noColon.2, ← noEmoji]
              rfl
          · cases h
      | tag position t =>
          rw [renderPieces] at h
          split at h
          · split at h
            · next later =>
                have text := ih later noColon.2
                cases h
                exact text
            · cases h
          · cases h

/-- A verbatim text is rendered as it is. -/
theorem Verbatim.renderPieces {cs : List Char} (h : Verbatim cs) (nonempty : cs ≠ [])
    (position : Nat) : renderPieces [] (piecesFrom position 0 cs) = .ok ⟨cs, []⟩ := by
  rw [piecesFrom_of_untagged position h.untagged nonempty, Markup.renderPieces,
    Markup.renderPieces, unescape_eq_self.2 h.unescaped, h.noEmoji]
  simp

end Markup

end RouteGraft.Console
