import Mathlib.Algebra.BigOperators.Group.List.Basic
import Mathlib.Data.List.DropRight
import Mathlib.Data.List.Infix
import RouteGraft.Console

/-!
# Lines that fit in a row

A line is printed in one row if it fits there (`Console.Fits`), where the space at its end does
not count.  If it does not, it is printed in several rows, provided that its first character
fits in one (`Console.two_le_length_breakRows`).

Breaking a line loses nothing of it (`Console.flatten_breakRows`).  Only the ends of rows are
dropped or cut off, and behind that no row takes more cells than there are
(`Console.rowsOf_eq_singleton`).  So a text that is printed in a single row as it is has to fit.
-/

namespace RouteGraft

/-! ## Space and words -/

namespace Text

theorem trimEnd_isPrefix (cs : List Char) : trimEnd cs <+: cs :=
  List.rdropWhile_prefix isSpace cs

theorem trimEnd_eq_nil {cs : List Char} : trimEnd cs = [] ↔ ∀ c ∈ cs, isSpace c = true :=
  List.rdropWhile_eq_nil_iff

theorem trimEnd_concat {cs : List Char} {c : Char} (h : isSpace c = false) :
    trimEnd (cs ++ [c]) = cs ++ [c] :=
  List.rdropWhile_concat_neg isSpace cs c (by simp [h])

/-- Only the last word loses its space. -/
theorem trimEnd_append {cs w : List Char} (isWord : trimEnd w ≠ []) :
    trimEnd (cs ++ w) = cs ++ trimEnd w := by
  unfold trimEnd at isWord ⊢
  rw [List.reverse_append, List.dropWhile_append, if_neg, List.reverse_append, List.reverse_reverse]
  simpa using isWord

theorem trimEnd_prefix_append (cs more : List Char) : trimEnd cs <+: trimEnd (cs ++ more) := by
  by_cases isWord : trimEnd more = []
  · have same : trimEnd (cs ++ more) = trimEnd cs := by
      unfold trimEnd at isWord ⊢
      rw [List.reverse_append, List.dropWhile_append, if_pos]
      simpa using isWord
    rw [same]
  · rw [trimEnd_append isWord]
    exact (trimEnd_isPrefix cs).trans (List.prefix_append cs _)

/-- The words of a text are not only space, but what is in front of them is. -/
theorem spacedWords_spec (cs : List Char) :
    (spacedWords cs).1 ++ (spacedWords cs).2.flatten = cs ∧
      (∀ c ∈ (spacedWords cs).1, isSpace c = true) ∧ ∀ w ∈ (spacedWords cs).2, trimEnd w ≠ [] := by
  induction cs with
  | nil => simp [spacedWords]
  | cons c rest ih =>
      obtain ⟨whole, space, words⟩ := ih
      rw [spacedWords]
      generalize spacedWords rest = parts at *
      obtain ⟨front, ws⟩ := parts
      dsimp only at *
      split
      · next isSpace_ =>
          refine ⟨?_, List.forall_mem_cons.2 ⟨isSpace_, space⟩, words⟩
          rw [List.cons_append, whole]
      · next isInk =>
          have isWord (w : List Char) : trimEnd (c :: w) ≠ [] :=
            fun none => isInk (trimEnd_eq_nil.1 none c List.mem_cons_self)
          split
          · next w ws =>
              obtain ⟨-, words⟩ := List.forall_mem_cons.1 words
              refine ⟨?_, by simp, List.forall_mem_cons.2 ⟨isWord w, words⟩⟩
              rw [← whole]
              rfl
          · refine ⟨?_, by simp, List.forall_mem_cons.2 ⟨isWord front, words⟩⟩
            rw [← whole]
            rfl

/-- A text has a part more than it has separators. -/
theorem length_split (separator : Char) (cs : List Char) :
    (split separator cs).length = cs.count separator + 1 := by
  induction cs with
  | nil => rfl
  | cons c rest ih =>
      rw [split]
      split
      · next same => rw [List.length_cons, ih, same, List.count_cons_self]
      · next other =>
          rw [List.count_cons_of_ne other, ← ih]
          split
          · next none => rw [none] at ih; cases ih
          · next parts => rw [parts]; rfl

theorem split_of_not_mem {separator : Char} {cs : List Char} (h : separator ∉ cs) :
    split separator cs = [cs] := by
  induction cs with
  | nil => rfl
  | cons c rest ih =>
      rw [List.mem_cons, not_or] at h
      rw [split, if_neg (Ne.symm h.1), ih h.2]

theorem mem_split {separator c : Char} (other : c ≠ separator) {cs : List Char} :
    (∃ part ∈ split separator cs, c ∈ part) ↔ c ∈ cs := by
  induction cs with
  | nil => simp [split]
  | cons d rest ih =>
      rw [split, List.mem_cons, ← ih]
      split
      · next same => simp [same, other]
      · split
        · next none => simp [none]
        · next part parts shape => simp [shape, or_assoc]

theorem not_mem_of_mem_split {separator : Char} {cs part : List Char}
    (h : part ∈ split separator cs) : separator ∉ part := by
  induction cs generalizing part with
  | nil => simp_all [split]
  | cons c rest ih =>
      rw [split] at h
      split at h
      · rcases List.mem_cons.1 h with rfl | later
        · exact List.not_mem_nil
        · exact ih later
      · next other =>
          split at h
          · rw [List.mem_singleton.1 h, List.mem_singleton]
            exact Ne.symm other
          · next first parts shape =>
              rw [shape] at ih
              rcases List.mem_cons.1 h with rfl | later
              · rw [List.mem_cons, not_or]
                exact ⟨Ne.symm other, ih List.mem_cons_self⟩
              · exact ih (List.mem_cons_of_mem _ later)

end Text

namespace Console

open Text

/-! ## Cells of texts -/

@[simp]
theorem cellsOf_nil : cellsOf [] = 0 := rfl

@[simp]
theorem cellsOf_cons (c : Char) (cs : List Char) : cellsOf (c :: cs) = cells c + cellsOf cs := rfl

@[simp]
theorem cellsOf_append (cs more : List Char) :
    cellsOf (cs ++ more) = cellsOf cs + cellsOf more := by
  induction cs with
  | nil => simp
  | cons c rest ih => rw [List.cons_append, cellsOf_cons, cellsOf_cons, ih, Nat.add_assoc]

theorem cellsOf_le_of_isPrefix {cs more : List Char} (h : cs <+: more) :
    cellsOf cs ≤ cellsOf more := by
  obtain ⟨rest, rfl⟩ := h
  rw [cellsOf_append]
  exact Nat.le_add_right _ _

theorem cellsOf_trimEnd_le (cs : List Char) : cellsOf (trimEnd cs) ≤ cellsOf cs :=
  cellsOf_le_of_isPrefix (trimEnd_isPrefix cs)

/-! ## Pieces of a word -/

variable {width : Nat}

theorem flatten_fold (width : Nat) (piece cs : List Char) :
    (fold width piece cs).1.flatten ++ (fold width piece cs).2 = piece ++ cs := by
  induction cs generalizing piece with
  | nil => simp [fold]
  | cons c rest ih =>
      rw [fold]
      split
      · rw [ih, List.append_assoc]
        rfl
      · rw [List.flatten_cons, List.append_assoc, ih]
        rfl

/-- A word that does not fit behind a piece that is begun fills a piece. -/
theorem exists_full_fold {piece cs : List Char} (begun : piece ≠ [])
    (long : width < cellsOf (piece ++ cs)) (fits : cellsOf piece ≤ width) :
    ∃ p ∈ (fold width piece cs).1, p ≠ [] := by
  induction cs generalizing piece with
  | nil =>
      rw [List.append_nil] at long
      omega
  | cons c rest ih =>
      rw [fold]
      split
      · next fits' =>
          have long' : width < cellsOf (piece ++ [c] ++ rest) := by simpa using long
          exact ih (by simp) long' (by simpa using fits')
      · exact ⟨piece, List.mem_cons_self, begun⟩

/-! ## Rows of words -/

theorem rowsFrom_ne_nil (width : Nat) (row : List Char) (ws : List (List Char)) :
    rowsFrom width row ws ≠ [] := by
  induction ws generalizing row with
  | nil => simp [rowsFrom]
  | cons w ws ih =>
      rw [rowsFrom]
      split
      · exact ih _
      · split
        · simp
        · simp [ih]

/-- Breaking a line loses nothing of it. -/
theorem flatten_rowsFrom (width : Nat) (row : List Char) (ws : List (List Char)) :
    (rowsFrom width row ws).flatten = row ++ ws.flatten := by
  induction ws generalizing row with
  | nil => simp [rowsFrom]
  | cons w ws ih =>
      have pieces := flatten_fold width [] w
      rw [rowsFrom, List.flatten_cons]
      split
      · rw [ih, List.append_assoc]
      · split
        · rw [List.flatten_cons, ih]
        · dsimp only
          rw [List.flatten_append, ih, ← List.append_assoc]
          split
          · next first =>
              rw [first, List.flatten_filter_ne_nil, pieces]
              rfl
          · rw [List.flatten_cons, List.append_assoc row, pieces, List.nil_append,
              List.append_assoc]

/-- Words that fit behind a row that is begun are in it. -/
theorem rowsFrom_of_fits {row : List Char} {ws : List (List Char)}
    (words : ∀ w ∈ ws, trimEnd w ≠ [])
    (fits : cellsOf (trimEnd (row ++ ws.flatten)) ≤ width) :
    rowsFrom width row ws = [row ++ ws.flatten] := by
  induction ws generalizing row with
  | nil => simp [rowsFrom]
  | cons w ws ih =>
      obtain ⟨isWord, words⟩ := List.forall_mem_cons.1 words
      rw [List.flatten_cons, ← List.append_assoc] at fits ⊢
      have front := cellsOf_le_of_isPrefix (trimEnd_prefix_append (row ++ w) ws.flatten)
      rw [trimEnd_append isWord, cellsOf_append] at front
      rw [rowsFrom, if_pos (front.trans fits), ih words fits]

/-- Words that do not fit behind a row that is begun take another one. -/
theorem two_le_length_rowsFrom {row : List Char} {ws : List (List Char)}
    (words : ∀ w ∈ ws, trimEnd w ≠ []) (begun : row ≠ [])
    (fits : cellsOf (trimEnd row) ≤ width)
    (long : width < cellsOf (trimEnd (row ++ ws.flatten))) :
    2 ≤ (rowsFrom width row ws).length := by
  have another (row : List Char) (ws) : 1 ≤ (rowsFrom width row ws).length :=
    List.length_pos_of_ne_nil (rowsFrom_ne_nil width row ws)
  induction ws generalizing row with
  | nil =>
      rw [List.flatten_nil, List.append_nil] at long
      omega
  | cons w ws ih =>
      obtain ⟨isWord, words⟩ := List.forall_mem_cons.1 words
      rw [List.flatten_cons, ← List.append_assoc] at long
      rw [rowsFrom]
      split
      · next fits' =>
          refine ih words (List.append_ne_nil_of_left_ne_nil begun w) ?_ long
          rwa [trimEnd_append isWord, cellsOf_append]
      · split
        · exact Nat.succ_le_succ (another w ws)
        · dsimp only
          rw [List.cons_append, List.length_cons, List.length_append]
          have := another (fold width [] w).2 ws
          omega

/-! ## Rows of a line -/

theorem flatten_breakRows (width : Nat) (line : List Char) :
    (breakRows width line).flatten = line := by
  obtain ⟨whole, -⟩ := spacedWords_spec line
  unfold breakRows
  split
  · simp
  · next space w ws shape =>
      rw [shape] at whole
      rw [flatten_rowsFrom, List.nil_append, List.flatten_cons, List.append_assoc]
      exact whole

theorem breakRows_ne_nil (width : Nat) (line : List Char) : breakRows width line ≠ [] := by
  unfold breakRows
  split
  · exact List.cons_ne_nil _ _
  · exact rowsFrom_ne_nil _ _ _

/-- A line that fits is not broken. -/
theorem breakRows_of_fits {line : List Char} (fits : cellsOf (trimEnd line) ≤ width) :
    breakRows width line = [line] := by
  obtain ⟨whole, -, words⟩ := spacedWords_spec line
  unfold breakRows
  split
  · rfl
  · next space w ws shape =>
      rw [shape] at whole words
      obtain ⟨isWord, words⟩ := List.forall_mem_cons.1 words
      have first : trimEnd (space ++ w) ≠ [] := by
        rw [trimEnd_append isWord]
        exact List.append_ne_nil_of_right_ne_nil _ isWord
      have line_ : [] ++ ((space ++ w) :: ws).flatten = line := by
        rw [← whole]
        simp
      rw [rowsFrom_of_fits (List.forall_mem_cons.2 ⟨first, words⟩) (by rwa [line_]), line_]

/-- A line that does not fit is broken, if at least its first character fits. -/
theorem two_le_length_breakRows {line : List Char} (starts : ∀ c ∈ line.head?, cells c ≤ width)
    (long : width < cellsOf (trimEnd line)) : 2 ≤ (breakRows width line).length := by
  obtain ⟨whole, isSpace_, words⟩ := spacedWords_spec line
  unfold breakRows
  split
  · next space shape =>
      rw [shape] at whole isSpace_
      rw [← whole, List.flatten_nil, List.append_nil, trimEnd_eq_nil.2 isSpace_] at long
      exact absurd long (Nat.not_lt_zero _)
  · next space w ws shape =>
      rw [shape] at whole words
      obtain ⟨isWord, words⟩ := List.forall_mem_cons.1 words
      dsimp only at whole
      rw [List.flatten_cons, ← List.append_assoc] at whole
      have isWord' : trimEnd (space ++ w) ≠ [] := by
        rw [trimEnd_append isWord]
        exact List.append_ne_nil_of_right_ne_nil _ isWord
      generalize space ++ w = first at *
      have nonempty : first ≠ [] := fun none => isWord' (by rw [none]; rfl)
      rw [rowsFrom, cellsOf_nil, Nat.zero_add, List.nil_append]
      split
      · next fits => exact two_le_length_rowsFrom words nonempty fits (by rwa [whole])
      · next wide =>
          -- the word is longer than a row, so it fills one with its first characters
          obtain ⟨c, rest, rfl⟩ := List.exists_cons_of_ne_nil nonempty
          have fits : cells c ≤ width := starts c (by rw [← whole]; rfl)
          have wide' : width < cellsOf ([c] ++ rest) :=
            Nat.lt_of_lt_of_le (Nat.lt_of_not_le wide) (cellsOf_trimEnd_le (c :: rest))
          have folded : fold width [] (c :: rest) = fold width [c] rest := by
            rw [fold, if_pos (by simpa using fits)]
            rfl
          obtain ⟨p, member, full⟩ :=
            exists_full_fold (List.cons_ne_nil c []) wide' (by simpa using fits)
          have filled : 1 ≤ ((fold width [c] rest).1.filter (· ≠ [])).length :=
            List.length_pos_of_mem (List.mem_filter.2 ⟨member, by simpa using full⟩)
          have another :=
            List.length_pos_of_ne_nil (rowsFrom_ne_nil width (fold width [c] rest).2 ws)
          rw [folded]
          simp only [if_true, List.length_append]
          omega

/-! ## Ends of rows -/

theorem dropExcess_isPrefix (width : Nat) (row : List Char) : dropExcess width row <+: row :=
  List.take_prefix _ row

/-- A row without space at its end has nothing to drop. -/
theorem dropExcess_of_trimmed {row : List Char} (trimmed : trimEnd row = row) :
    dropExcess width row = row := by
  rw [dropExcess, trimmed, List.take_of_length_le (Nat.le_max_right _ _)]

theorem cells_blank : cells ' ' = 1 := rfl

/-- What is cut off is a part of the row, or all of it but half a character. -/
theorem cutBetween_spec (width : Nat) (row : List Char) (start stop : Nat) :
    let cut := cutBetween width row start stop
    cellsOf cut ≤ width ∧ cut.length ≤ row.length ∧ ∀ c ∈ cut, c ∈ row ∨ c = ' ' := by
  have part (n : Nat) : (row.take n).length ≤ row.length ∧ ∀ c ∈ row.take n, c ∈ row ∨ c = ' ' :=
    ⟨(List.take_sublist n row).length_le, fun c hc => .inl (List.mem_of_mem_take hc)⟩
  fun_induction cutBetween width row start stop with
  | case1 start stop middle front half =>
      obtain ⟨tooWide, last⟩ := half
      obtain ⟨shorter, within⟩ := part (middle + 1)
      obtain ⟨c, isLast, two⟩ := (Option.any_eq_true _ _).1 last
      obtain ⟨kept, shape⟩ := List.getLast?_eq_some_iff.1 isLast
      have two : cells c = 2 := of_decide_eq_true two
      change front.length ≤ row.length at shorter
      change ∀ c ∈ front, c ∈ row ∨ c = ' ' at within
      rw [shape] at tooWide shorter within ⊢
      rw [List.dropLast_concat]
      refine ⟨?_, by simpa using shorter, fun d hd => ?_⟩
      · simp only [cellsOf_append, cellsOf_cons, cellsOf_nil, cells_blank] at tooWide ⊢
        omega
      · rcases List.mem_append.1 hd with hd | hd
        · exact within d (List.mem_append_left _ hd)
        · exact .inr (List.mem_singleton.1 hd)
  | case2 start stop middle front _ exact_ => exact ⟨Nat.le_of_eq exact_, part (middle + 1)⟩
  | case3 start stop middle front _ _ _ _ ih => exact ih
  | case4 => exact ⟨Nat.zero_le _, Nat.zero_le _, by simp⟩
  | case5 start stop middle front _ _ _ _ ih => exact ih
  | case6 start stop middle front _ _ short => exact ⟨Nat.le_of_not_lt short, part (middle + 1)⟩

theorem cut_of_fits {row : List Char} (fits : cellsOf row ≤ width) : cut width row = row :=
  if_pos fits

theorem cut_spec (width : Nat) (row : List Char) :
    cellsOf (cut width row) ≤ width ∧ (cut width row).length ≤ row.length ∧
      ∀ c ∈ cut width row, c ∈ row ∨ c = ' ' := by
  unfold cut
  split
  · next fits => exact ⟨fits, Nat.le_refl _, fun c hc => .inl hc⟩
  · exact cutBetween_spec width row 0 row.length

/-! ## Lines on a console -/

/-- Whether a text fits in the rows of a console. -/
def Fits (width : Option Nat) (cs : List Char) : Prop := ∀ w ∈ width, cellsOf cs ≤ w

/-- What a row shows are characters of its line, and blanks. -/
theorem mem_of_mem_rowsOf {width : Option Nat} {line row : List Char}
    (h : row ∈ rowsOf width line) : ∀ c ∈ row, c ∈ line ∨ c = ' ' := by
  unfold rowsOf at h
  split at h
  · rw [List.mem_singleton.1 h]
    exact fun c hc => .inl hc
  · cases h
  · next width _ =>
      obtain ⟨broken, member, rfl⟩ := List.mem_map.1 h
      intro c hc
      rcases (cut_spec width _).2.2 c hc with inside | blank
      · refine .inl ?_
        rw [← flatten_breakRows width line]
        exact List.mem_flatten.2 ⟨broken, member, (dropExcess_isPrefix _ _).subset inside⟩
      · exact .inr blank

/-- Rows without cells are the only ones that do not show a line. -/
theorem rowsOf_ne_nil {width : Option Nat} (cells : width ≠ some 0) (line : List Char) :
    rowsOf width line ≠ [] := by
  unfold rowsOf
  split
  · exact List.cons_ne_nil _ _
  · exact absurd rfl cells
  · next width _ =>
      intro none
      exact breakRows_ne_nil width line (List.map_eq_nil_iff.1 none)

/-- A row that shows all of a line that is shown fits, and is no longer than the line. -/
theorem rowsOf_eq_singleton {width : Option Nat} {line row : List Char}
    (h : rowsOf width line = [row]) : Fits width row ∧ row.length ≤ line.length := by
  unfold rowsOf at h
  split at h
  · cases h
    exact ⟨fun _ none => (nomatch none), Nat.le_refl _⟩
  · cases h
  · next width _ =>
      obtain ⟨broken, single, rfl⟩ := List.map_eq_singleton_iff.1 h
      have whole := flatten_breakRows width line
      rw [single, List.flatten_singleton] at whole
      subst whole
      obtain ⟨fits, shorter, -⟩ := cut_spec width (dropExcess width broken)
      refine ⟨fun w hw => ?_, shorter.trans (dropExcess_isPrefix width broken).length_le⟩
      cases hw
      exact fits

/-- A line that fits and does not end in space is shown as it is. -/
theorem rowsOf_of_fits {width : Option Nat} {line : List Char} (fits : Fits width line)
    (trimmed : trimEnd line = line) (shown : 0 < cellsOf line) : rowsOf width line = [line] := by
  unfold rowsOf
  split
  · rfl
  · have none := fits 0 rfl
    omega
  · next width _ =>
      have fits : cellsOf line ≤ width := fits width rfl
      rw [breakRows_of_fits (by rwa [trimmed]), List.map_singleton, dropExcess_of_trimmed trimmed,
        cut_of_fits fits]

/-- A line that starts with a character in one cell is shown in one row just if it fits without
the space at its end. -/
theorem length_rowsOf_eq_one {width : Option Nat} {c : Char} {rest : List Char}
    (narrow : cells c = 1) (isInk : isSpace c = false) :
    (rowsOf width (c :: rest)).length = 1 ↔ Fits width (trimEnd (c :: rest)) := by
  have starts : 1 ≤ cellsOf (trimEnd (c :: rest)) := by
    have front := cellsOf_le_of_isPrefix (trimEnd_prefix_append [c] rest)
    have kept : trimEnd [c] = [c] := @trimEnd_concat [] c isInk
    rw [kept] at front
    simpa [narrow] using front
  unfold rowsOf
  split
  · exact iff_of_true rfl fun _ none => nomatch none
  · refine iff_of_false (fun none => nomatch none) fun fits => ?_
    have none := fits 0 rfl
    omega
  · next width positive =>
      rw [List.length_map]
      constructor
      · intro one w hw
        cases hw
        by_contra long
        have positive : 1 ≤ width := Nat.one_le_iff_ne_zero.2 fun zero => positive (zero ▸ rfl)
        have first : ∀ d ∈ (c :: rest).head?, cells d ≤ width := by
          rintro d ⟨⟩
          rwa [narrow]
        have several := two_le_length_breakRows first (Nat.lt_of_not_le long)
        omega
      · intro fits
        rw [breakRows_of_fits (fits width rfl)]
        rfl

/-! ## Texts -/

theorem append_break (told : String) :
    told ++ "\n" = String.ofList (told.toList ++ ['\n']) := by
  rw [String.ofList_append, String.ofList_toList]

theorem tab_not_mem_laidOut (cs : List Char) : '\t' ∉ laidOut cs := not_mem_expandTabs 0 _

/-- No row has a line break in it. -/
theorem break_not_mem_of_mem_rows {width : Option Nat} {cs row : List Char}
    (h : row ∈ rows width cs) : '\n' ∉ row := by
  obtain ⟨line, isLine, shown⟩ := List.mem_flatMap.1 h
  intro broken
  rcases mem_of_mem_rowsOf shown _ broken with inside | blank
  · exact not_mem_of_mem_split isLine inside
  · cases blank

/-- There are as many line breaks as rows. -/
theorem count_break {rs : List (List Char)} (noBreak : ∀ r ∈ rs, '\n' ∉ r) :
    (rs.flatMap (· ++ ['\n'])).count '\n' = rs.length := by
  induction rs with
  | nil => rfl
  | cons r rs ih =>
      obtain ⟨here, later⟩ := List.forall_mem_cons.1 noBreak
      rw [List.flatMap_cons, List.count_append, List.count_append, ih later,
        List.count_eq_zero_of_not_mem here, List.length_cons]
      simp [Nat.add_comm]

/-- What is printed is one line just if there is one row. -/
theorem printed_eq_iff {width : Option Nat} {cs told : List Char} (oneLine : '\n' ∉ told) :
    printed width cs = String.ofList (told ++ ['\n']) ↔ rows width cs = [told] := by
  constructor
  · intro same
    have characters : (rows width cs).flatMap (· ++ ['\n']) = told ++ ['\n'] :=
      String.ofList_injective same
    have one := count_break fun _ (h : _ ∈ rows width cs) => break_not_mem_of_mem_rows h
    rw [characters, List.count_append, List.count_eq_zero_of_not_mem oneLine] at one
    obtain ⟨row, single⟩ := List.length_eq_one_iff.1 one.symm
    rw [single, List.flatMap_singleton] at characters
    rw [single, List.append_cancel_right characters]
  · intro single
    rw [printed, single, List.flatMap_singleton]

theorem rows_of_oneLine {width : Option Nat} {cs : List Char} (oneLine : '\n' ∉ laidOut cs) :
    rows width cs = rowsOf width (laidOut cs) := by
  rw [rows, split_of_not_mem oneLine, List.flatMap_singleton]

/-- Every line of a text has a row. -/
theorem length_split_le_rows {width : Option Nat} (cells : width ≠ some 0) (cs : List Char) :
    (split '\n' (laidOut cs)).length ≤ (rows width cs).length := by
  rw [rows, List.length_flatMap, ← List.length_map fun line => (rowsOf width line).length]
  refine List.length_le_sum_of_one_le _ fun n hn => ?_
  obtain ⟨line, -, rfl⟩ := List.mem_map.1 hn
  exact List.length_pos_of_ne_nil (rowsOf_ne_nil cells line)

/-- A text in a single row is one line. -/
theorem oneLine_of_length_rows {width : Option Nat} {cs : List Char}
    (single : (rows width cs).length = 1) : '\n' ∉ laidOut cs := by
  intro broken
  by_cases cells : width = some 0
  · have none : rows width cs = [] := by
      rw [rows, List.flatMap_eq_nil_iff, cells]
      exact fun _ _ => rfl
    rw [none] at single
    cases single
  · have lines := length_split_le_rows cells cs
    rw [length_split, single] at lines
    exact absurd (List.count_pos_iff.2 broken) (Nat.not_lt.2 (Nat.le_of_succ_le_succ lines))

/-- A text that starts with a character in one cell is printed as one line just if it has no line
break and fits without the space at its end. -/
theorem printed_oneLine {width : Option Nat} {cs rest : List Char} {c : Char}
    (starts : laidOut cs = c :: rest) (narrow : cells c = 1) (isInk : isSpace c = false) :
    (∃ told, printed width cs = told ++ "\n" ∧ '\n' ∉ told.toList) ↔
      '\n' ∉ laidOut cs ∧ Fits width (trimEnd (laidOut cs)) := by
  constructor
  · rintro ⟨told, same, oneLine⟩
    rw [append_break, printed_eq_iff oneLine] at same
    have single : (rows width cs).length = 1 := by rw [same]; rfl
    have unbroken := oneLine_of_length_rows single
    rw [rows_of_oneLine unbroken, starts, length_rowsOf_eq_one narrow isInk] at single
    exact ⟨unbroken, starts ▸ single⟩
  · rintro ⟨unbroken, fits⟩
    rw [starts, ← length_rowsOf_eq_one narrow isInk, ← starts, ← rows_of_oneLine unbroken] at fits
    obtain ⟨row, single⟩ := List.length_eq_one_iff.1 fits
    have oneLine : '\n' ∉ row :=
      break_not_mem_of_mem_rows (single ▸ List.mem_singleton_self row)
    refine ⟨String.ofList row, ?_, by rwa [String.toList_ofList]⟩
    rw [(printed_eq_iff oneLine).2 single, String.ofList_append]

end Console

end RouteGraft
