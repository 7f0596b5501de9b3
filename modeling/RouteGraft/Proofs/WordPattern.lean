import RouteGraft.Proofs.Words

/-!
# The pattern of words

The words of a name are what the pattern `[A-Z]?[a-z0-9]+|[A-Z]+(?![a-z])` finds in it from left
to right (`Naming.wordPattern`).  A pattern tries its ways to match one after the other.  It
is read here as the list of what each way leaves of a text, in the order of trying
(`Naming.Pattern.rests`), so that the first of them is the match.  A search takes the match at
the first place that has one and goes on behind it (`Naming.Pattern.findAll`).

The search cuts a text as the rule for the ends of words does (`Naming.cuts_findAll`).  The two
could come apart where a capital is followed by a digit, since only the rule looks at what is in
front of the capital.  They do not, because the search never starts at such a capital behind
another one (`Naming.Fresh`).
-/

namespace RouteGraft.Naming

/-! ## Patterns -/

/-- A pattern for the start of a text. -/
inductive Pattern where
  /-- A character of a class, or else nothing. -/
  | optional (ok : Char → Bool)
  /-- Characters of a class, at least one and as many as possible. -/
  | run (ok : Char → Bool)
  /-- Nothing, in front of no character of a class. -/
  | notBefore (ok : Char → Bool)
  /-- One pattern and then another. -/
  | andThen (p q : Pattern)
  /-- One pattern, or else another. -/
  | orElse (p q : Pattern)

/-- What a run of characters of a class leaves, longest run first. -/
def runRests (ok : Char → Bool) : List Char → List (List Char)
  | [] => []
  | c :: rest => if ok c then runRests ok rest ++ [rest] else []
termination_by structural cs => cs

/-- What a pattern leaves of a text, for each way to match, in the order of trying. -/
def Pattern.rests : Pattern → List Char → List (List Char)
  | .optional ok, cs => if cs.head?.any ok then [cs.tail, cs] else [cs]
  | .run ok, cs => runRests ok cs
  | .notBefore ok, cs => if cs.head?.any ok then [] else [cs]
  | .andThen p q, cs => (p.rests cs).flatMap q.rests
  | .orElse p q, cs => p.rests cs ++ q.rests cs
termination_by structural p => p

/-- What a pattern finds in a text that starts at a place.  `skip` counts the characters
of the last match that are still to come. -/
def Pattern.findFrom (p : Pattern) (start skip : Nat) : List Char → List Found
  | [] => []
  | c :: rest =>
      match skip with
      | skip + 1 => p.findFrom (start + 1) skip rest
      | 0 =>
          match (p.rests (c :: rest)).head? with
          | none => p.findFrom (start + 1) 0 rest
          | some left =>
              let size := rest.length + 1 - left.length
              ⟨start, (c :: rest).take size⟩ :: p.findFrom (start + 1) (size - 1) rest
termination_by structural cs => cs

/-- What a pattern finds in a text, from left to right.  The pattern has to match no empty
text. -/
def Pattern.findAll (p : Pattern) (cs : List Char) : List Found := p.findFrom 0 0 cs

/-- The pattern of words: a capital or none and a run of small letters and digits, or else
a run of capitals that no small letter follows. -/
def wordPattern : Pattern :=
  .orElse (.andThen (.optional isCapital) (.run isSmall))
    (.andThen (.run isCapital) (.notBefore isSmallLetter))

namespace Pattern

variable {p : Pattern} {w rest : List Char} {c : Char}

theorem findFrom_skip (p : Pattern) (start : Nat) (w rest : List Char) :
    p.findFrom start w.length (w ++ rest) = p.findFrom (start + w.length) 0 rest := by
  induction w generalizing start with
  | nil => rfl
  | cons c w ih =>
      rw [List.cons_append, List.length_cons, findFrom, ih]
      congr 1
      omega

/-- A match is found and the search goes on behind it. -/
theorem findFrom_of_match (nonempty : w ≠ []) (h : (p.rests (w ++ rest)).head? = some rest)
    (start : Nat) :
    p.findFrom start 0 (w ++ rest) = ⟨start, w⟩ :: p.findFrom (start + w.length) 0 rest := by
  obtain ⟨c, w, rfl⟩ := List.exists_cons_of_ne_nil nonempty
  have size : (w ++ rest).length + 1 - rest.length = w.length + 1 := by
    rw [List.length_append]
    omega
  rw [List.cons_append] at h
  rw [List.cons_append, findFrom]
  simp only [h, size, Nat.add_sub_cancel, findFrom_skip, List.take_succ_cons, List.take_left]
  rw [List.length_cons]
  congr 2
  omega

/-- Where nothing matches, the search goes on one place further. -/
theorem findFrom_of_none (h : (p.rests (c :: rest)).head? = none) (start : Nat) :
    p.findFrom start 0 (c :: rest) = p.findFrom (start + 1) 0 rest := by
  rw [findFrom]
  simp only [h]

end Pattern

/-! ## The search cuts a text -/

/-- Where a search may start: behind a capital it does not start at a capital that a digit
follows. -/
def Fresh (before : Option Char) (cs : List Char) : Prop :=
  ∀ c d more, cs = c :: d :: more → before.any isCapital = true → isCapital c = true →
    isDigit d = false

theorem fresh_of_not_isCapital {before : Option Char} {cs : List Char}
    (h : before.any isCapital = false) : Fresh before cs := by
  intro _ _ _ _ capital
  rw [h] at capital
  cases capital

section Runs

variable {ok : Char → Bool} {w rest : List Char} {x : Char}

theorem runRests_of_stop (stop : rest.head?.any ok = false) : runRests ok rest = [] := by
  cases rest with
  | nil => rfl
  | cons c rest => rw [runRests, if_neg (by simpa using stop)]

/-- A text starts with a run of characters of a class, which may be empty. -/
theorem exists_run (ok : Char → Bool) (cs : List Char) :
    ∃ w rest, cs = w ++ rest ∧ (∀ c ∈ w, ok c = true) ∧ rest.head?.any ok = false ∧
      (cs.head?.any ok = true → w ≠ []) := by
  induction cs with
  | nil => exact ⟨[], [], rfl, by simp, rfl, nofun⟩
  | cons c cs ih =>
      cases here : ok c with
      | false => exact ⟨[], c :: cs, rfl, by simp, by simpa using here, by simp [here]⟩
      | true =>
          obtain ⟨w, rest, rfl, all, stop, -⟩ := ih
          exact ⟨c :: w, rest, rfl, List.forall_mem_cons.2 ⟨here, all⟩, stop, by simp⟩

/-- The whole run is tried first. -/
theorem runRests_append (nonempty : w ≠ []) (all : ∀ c ∈ w, ok c = true)
    (stop : rest.head?.any ok = false) : ∃ more, runRests ok (w ++ rest) = rest :: more := by
  induction w with
  | nil => exact absurd rfl nonempty
  | cons c w ih =>
      obtain ⟨here, later⟩ := List.forall_mem_cons.1 all
      rw [List.cons_append, runRests, if_pos here]
      cases w with
      | nil => exact ⟨[], by rw [List.nil_append, runRests_of_stop stop, List.nil_append]⟩
      | cons d v =>
          obtain ⟨more, eq⟩ := ih (List.cons_ne_nil d v) later
          exact ⟨more ++ [d :: v ++ rest], by rw [eq, List.cons_append]⟩

/-- The run without its last character is tried next. -/
theorem runRests_append_cons (nonempty : w ≠ []) (all : ∀ c ∈ w, ok c = true) (last : ok x = true)
    (stop : rest.head?.any ok = false) :
    ∃ more, runRests ok (w ++ x :: rest) = rest :: (x :: rest) :: more := by
  induction w with
  | nil => exact absurd rfl nonempty
  | cons c w ih =>
      obtain ⟨here, later⟩ := List.forall_mem_cons.1 all
      rw [List.cons_append, runRests, if_pos here]
      cases w with
      | nil =>
          refine ⟨[], ?_⟩
          rw [List.nil_append, runRests, if_pos last, runRests_of_stop stop]
          rfl
      | cons d v =>
          obtain ⟨more, eq⟩ := ih (List.cons_ne_nil d v) later
          exact ⟨more ++ [d :: v ++ x :: rest], by rw [eq, List.cons_append, List.cons_append]⟩

end Runs

/-- A match that is a word, and a place behind it where the search may go on. -/
structure Takes (before : Option Char) (w rest : List Char) : Prop where
  isWord : IsWord before w rest
  first : (wordPattern.rests (w ++ rest)).head? = some rest
  fresh : Fresh w.getLast? rest

theorem rests_wordPattern (cs : List Char) :
    wordPattern.rests cs
      = (if cs.head?.any isCapital then [cs.tail, cs] else [cs]).flatMap (runRests isSmall)
        ++ (runRests isCapital cs).flatMap
          fun left => if left.head?.any isSmallLetter then [] else [left] := rfl

theorem rests_of_not_isWordChar {c : Char} {rest : List Char} (h : isWordChar c = false) :
    wordPattern.rests (c :: rest) = [] := by
  rw [isWordChar, Bool.or_eq_false_iff] at h
  simp [rests_wordPattern, runRests, h.1, h.2]

section Takes

variable {before : Option Char} {w rest : List Char} {c : Char}

/-- Small letters and digits are taken as far as they go. -/
theorem takes_small (nonempty : w ≠ []) (small : ∀ c ∈ w, isSmall c = true)
    (stop : rest.head?.any isSmall = false) : Takes before w rest where
  isWord := isWord_small nonempty small stop
  first := by
    obtain ⟨d, v, rfl⟩ := List.exists_cons_of_ne_nil nonempty
    obtain ⟨more, eq⟩ := runRests_append nonempty small stop
    have here : isCapital d = false := not_isCapital_of_isSmall (small d List.mem_cons_self)
    rw [List.cons_append] at eq
    simp [rests_wordPattern, here, eq]
  fresh := by
    rw [List.getLast?_eq_some_getLast nonempty]
    exact fresh_of_not_isCapital
      (not_isCapital_of_isSmall (small _ (List.getLast_mem nonempty)))

/-- A capital is taken with the small letters and digits behind it. -/
theorem takes_capital_small (capital : isCapital c = true) (nonempty : w ≠ [])
    (small : ∀ c ∈ w, isSmall c = true) (stop : rest.head?.any isSmall = false)
    (fresh : Fresh before (c :: w ++ rest)) : Takes before (c :: w) rest where
  isWord :=
    { nonempty := List.cons_ne_nil c w
      wordChars := List.forall_mem_cons.2
        ⟨isWordChar_of_isCapital capital, fun c hc => isWordChar_of_isSmall (small c hc)⟩
      ends := by
        intro front x back shape
        cases front with
        | nil =>
            cases shape
            obtain ⟨d, v, rfl⟩ := List.exists_cons_of_ne_nil nonempty
            rw [List.cons_append, endsWord_of_capital_small capital (small d List.mem_cons_self)]
            cases digit : isDigit d with
            | false => rfl
            | true =>
                cases behind : before.any isCapital with
                | false => rw [List.getLast?_nil, Option.none_or, behind]; rfl
                | true => rw [fresh c d _ rfl behind capital] at digit; cases digit
        | cons _ front =>
            obtain ⟨-, rfl⟩ := List.cons.inj shape
            rw [endsWord_of_isSmall (small x (by simp))]
            cases back with
            | nil => simp [stop]
            | cons d back => simp [small d (by simp)] }
  first := by
    obtain ⟨more, eq⟩ := runRests_append nonempty small stop
    simp [rests_wordPattern, capital, eq]
  fresh := by
    rw [List.getLast?_cons, List.getLast?_eq_some_getLast nonempty]
    exact fresh_of_not_isCapital
      (not_isCapital_of_isSmall (small _ (List.getLast_mem nonempty)))

/-- Capitals are a word up to one that a small letter follows. -/
theorem isWord_capitals (nonempty : w ≠ []) (capitals : ∀ c ∈ w, isCapital c = true)
    (noLetter : rest.head?.any isSmallLetter = false)
    (ends : ∀ front c, w = front ++ [c] → endsWord (front.getLast?.or before) c rest = true) :
    IsWord before w rest where
  nonempty := nonempty
  wordChars := fun c hc => isWordChar_of_isCapital (capitals c hc)
  ends := by
    rintro front c back rfl
    cases back with
    | nil => exact ends front c rfl
    | cons d back =>
        rw [List.cons_append, endsWord_of_capitals (capitals c (by simp)) (capitals d (by simp))]
        cases back with
        | nil => exact noLetter
        | cons e back =>
            have capital := not_isSmall_of_isCapital (capitals e (by simp))
            rw [isSmall, Bool.or_eq_false_iff] at capital
            simp [capital.1]

/-- Where a capital stands in front of no small letter or digit, only a run of capitals matches. -/
theorem rests_of_capital (capital : isCapital c = true) (stop : rest.head?.any isSmall = false) :
    wordPattern.rests (c :: rest)
      = (runRests isCapital (c :: rest)).flatMap
          fun left => if left.head?.any isSmallLetter then [] else [left] := by
  have alone : runRests isSmall (c :: rest) = [] :=
    runRests_of_stop (by simp [not_isSmall_of_isCapital capital])
  simp [rests_wordPattern, capital, runRests_of_stop stop, alone]

theorem head_capitals (capitals : ∀ c ∈ w, isCapital c = true)
    (stop : w = [] → rest.head?.any isSmall = false) : (w ++ rest).head?.any isSmall = false := by
  cases w with
  | nil => exact stop rfl
  | cons d v => simp [not_isSmall_of_isCapital (capitals d List.mem_cons_self)]

/-- Capitals that no small letter follows are taken as far as they go. -/
theorem takes_capitals (nonempty : w ≠ []) (capitals : ∀ c ∈ w, isCapital c = true)
    (stop : rest.head?.any isCapital = false) (noLetter : rest.head?.any isSmallLetter = false)
    (alone : ∀ c, w = [c] → rest.head?.any isSmall = false) : Takes before w rest where
  isWord := by
    refine isWord_capitals nonempty capitals noLetter fun front c shape => ?_
    cases rest with
    | nil => rfl
    | cons d more =>
        have capital : isCapital d = false := by simpa using stop
        have letter : isSmallLetter d = false := by simpa using noLetter
        cases front with
        | nil =>
            have small : isSmall d = false := by simpa using alone c shape
            simp [endsWord, isWordChar, capital, small]
        | cons x front =>
            -- a digit behind a capital that has a capital in front of it
            have before : ((x :: front).getLast?.or before).any isCapital = true := by
              rw [List.getLast?_eq_some_getLast (List.cons_ne_nil x front), Option.some_or,
                Option.any_some]
              exact capitals _ (shape ▸ List.mem_append_left _ (List.getLast_mem _))
            have here : isSmall c = false := not_isSmall_of_isCapital (capitals c (by simp [shape]))
            have digit : isSmall d = isDigit d := by simp [isSmall, letter]
            cases isDigit d <;> simp [endsWord, isWordChar, capital, digit, here, before]
  first := by
    obtain ⟨d, v, rfl⟩ := List.exists_cons_of_ne_nil nonempty
    obtain ⟨here, later⟩ := List.forall_mem_cons.1 capitals
    obtain ⟨more, eq⟩ := runRests_append nonempty capitals stop
    have next : (v ++ rest).head?.any isSmall = false :=
      head_capitals later fun none => alone d (by rw [none])
    rw [List.cons_append] at eq ⊢
    simp [rests_of_capital here next, eq, noLetter]
  fresh := by
    rintro c d more rfl - capital
    rw [List.head?_cons, Option.any_some, capital] at stop
    cases stop

/-- Of capitals that a small letter follows the last one is left for the next word. -/
theorem takes_capitals_but_last (nonempty : w ≠ []) (capitals : ∀ c ∈ w, isCapital c = true)
    (last : isCapital c = true) (letter : rest.head?.any isSmallLetter = true) :
    Takes before w (c :: rest) := by
  obtain ⟨d, more, rfl⟩ : ∃ d more, rest = d :: more := by
    cases rest with
    | nil => cases letter
    | cons d more => exact ⟨d, more, rfl⟩
  have letter : isSmallLetter d = true := by simpa using letter
  have notLetter : isSmallLetter c = false := by
    have small := not_isSmall_of_isCapital last
    rw [isSmall, Bool.or_eq_false_iff] at small
    exact small.1
  have stop : (d :: more).head?.any isCapital = false := by
    simp [not_isCapital_of_isSmall (isSmall_of_isSmallLetter letter)]
  refine ⟨isWord_capitals nonempty capitals (by simp [notLetter]) fun front x shape => ?_, ?_, ?_⟩
  · rw [endsWord_of_capitals (capitals x (by simp [shape])) last]
    simp [letter]
  · obtain ⟨x, v, rfl⟩ := List.exists_cons_of_ne_nil nonempty
    obtain ⟨here, later⟩ := List.forall_mem_cons.1 capitals
    obtain ⟨others, eq⟩ := runRests_append_cons nonempty capitals last stop
    have next : (v ++ c :: d :: more).head?.any isSmall = false :=
      head_capitals later fun _ => by simp [not_isSmall_of_isCapital last]
    rw [List.cons_append] at eq ⊢
    simp [rests_of_capital here next, eq, letter, notLetter]
  · rintro y z others ⟨⟩ - -
    exact not_isDigit_of_isSmallLetter letter

/-- A capital that no small letter or digit follows starts a run of capitals, which is a word
with its last character or without it. -/
theorem exists_takes_capitals (capital : isCapital c = true)
    (stop : rest.head?.any isSmall = false) :
    ∃ w left, c :: rest = w ++ left ∧ Takes before w left := by
  obtain ⟨run, left, whole, capitals, ends, nonempty⟩ := exists_run isCapital (c :: rest)
  have nonempty : run ≠ [] := nonempty (by simpa using capital)
  have alone (x : Char) (one : run = [x]) : left = rest := by
    rw [one] at whole
    exact (List.cons.inj whole).2.symm
  cases letter : left.head?.any isSmallLetter with
  | false =>
      refine ⟨run, left, whole, takes_capitals nonempty capitals ends letter fun x one => ?_⟩
      rwa [alone x one]
  | true =>
      obtain ⟨v, x, rfl⟩ := (List.eq_nil_or_concat run).resolve_left nonempty
      rw [List.concat_eq_append] at whole capitals alone
      refine ⟨v, x :: left, by rw [whole, List.append_assoc]; rfl,
        takes_capitals_but_last ?_ (fun y hy => capitals y (by simp [hy])) (capitals x (by simp))
          letter⟩
      rintro rfl
      rw [alone x rfl] at letter
      cases rest with
      | nil => cases letter
      | cons d more =>
          have small : isSmall d = true := isSmall_of_isSmallLetter (by simpa using letter)
          rw [List.head?_cons, Option.any_some, small] at stop
          cases stop

/-- The search takes a word at every character of one. -/
theorem exists_takes (word : isWordChar c = true) (fresh : Fresh before (c :: rest)) :
    ∃ w left, c :: rest = w ++ left ∧ Takes before w left := by
  cases capital : isCapital c with
  | false =>
      have small : isSmall c = true := by simpa [isWordChar, capital] using word
      obtain ⟨w, left, whole, all, stop, nonempty⟩ := exists_run isSmall (c :: rest)
      exact ⟨w, left, whole, takes_small (nonempty (by simpa using small)) all stop⟩
  | true =>
      obtain ⟨w, left, rfl, all, stop, nonempty⟩ := exists_run isSmall rest
      cases next : (w ++ left).head?.any isSmall with
      | false => exact exists_takes_capitals capital next
      | true =>
          have small := takes_capital_small capital (nonempty next) all stop fresh
          exact ⟨c :: w, left, rfl, small⟩

end Takes

/-- The search cuts a text as the rule does. -/
theorem cuts_findFrom {before : Option Char} {cs : List Char} (fresh : Fresh before cs)
    (start : Nat) : Cuts start before cs (wordPattern.findFrom start 0 cs) := by
  induction size : cs.length using Nat.strongRecOn generalizing before cs start with
  | ind n ih =>
      cases cs with
      | nil => exact .nil
      | cons c rest =>
          cases word : isWordChar c with
          | false =>
              rw [Pattern.findFrom_of_none (by rw [rests_of_not_isWordChar word]; rfl)]
              have fresh : Fresh (some c) rest :=
                fresh_of_not_isCapital (not_isCapital_of_not_isWordChar word)
              exact .skip word (ih rest.length (by simp [← size]) fresh (start + 1) rfl)
          | true =>
              obtain ⟨w, left, whole, takes⟩ := exists_takes word fresh
              have shorter : left.length < n := by
                have := List.length_pos_iff.2 takes.isWord.nonempty
                rw [← size, whole, List.length_append]
                omega
              rw [whole, Pattern.findFrom_of_match takes.isWord.nonempty takes.first]
              exact .word takes.isWord (ih left.length shorter takes.fresh _ rfl)

theorem cuts_findAll (cs : List Char) : Cuts 0 none cs (wordPattern.findAll cs) :=
  cuts_findFrom (fresh_of_not_isCapital rfl) 0

/-! ## The words of a name -/

/-- What the pattern finds in a name. -/
def wordsFound (raw : String) : List Found := wordPattern.findAll raw.toList

/-- The words of a name are what the pattern finds in it, each at its place.  No word is empty, and
together they hold the letters and digits of the name in order.  Two of these are in different
words if anything else stands between them, and neighbours are just where a word ends by the
rule. -/
theorem words_cut (raw : String) :
    words raw = (wordsFound raw).map (fun f => String.ofList f.text) ∧
      (∀ f ∈ wordsFound raw, ∃ front back, raw.toList = front ++ f.text ++ back ∧
        f.start = front.length) ∧
      (∀ w ∈ words raw, w ≠ "") ∧
      (words raw).flatMap String.toList = raw.toList.filter isWordChar ∧
      (∀ front c middle d back, raw.toList = front ++ c :: middle ++ d :: back →
        isWordChar c = true → isWordChar d = true → (∃ x ∈ middle, isWordChar x = false) →
          Apart (wordsFound raw) front.length (front.length + 1 + middle.length)) ∧
      ∀ front c d back, raw.toList = front ++ c :: d :: back →
        isWordChar c = true → isWordChar d = true →
          (Apart (wordsFound raw) front.length (front.length + 1) ↔ Boundary front c d back) := by
  have cuts : Cuts 0 none raw.toList (wordsFound raw) := cuts_findAll raw.toList
  have texts := cuts.wordsAfter_eq
  have shown : words raw = (wordsFound raw).map (fun f => String.ofList f.text) := by
    rw [words, texts, List.map_map]
    rfl
  refine ⟨shown, ?stands, ?nonempty, ?characters, ?apart, ?neighbours⟩
  case stands =>
    intro f hf
    obtain ⟨front, back, same, start⟩ := cuts.stands f hf
    exact ⟨front, back, same, by rw [start, Nat.zero_add]⟩
  case nonempty =>
    intro w hw
    obtain ⟨cs, hcs, rfl⟩ := List.mem_map.1 hw
    exact fun empty => ne_nil_of_mem_wordsAfter hcs (String.ofList_eq_empty_iff.1 empty)
  case characters =>
    rw [words, List.flatMap_map, ← flatten_wordsAfter none, List.flatMap_def]
    simp
  case apart =>
    rintro front c middle d back shape here there ⟨x, member, other⟩
    rw [List.append_assoc, List.cons_append] at shape
    have apart := cuts.apart_of_between shape here there member other
    rw [List.length_append, List.length_cons, Nat.zero_add, Nat.zero_add] at apart
    rwa [Nat.add_assoc, Nat.add_comm 1]
  case neighbours =>
    intro front c d back shape here there
    have apart := cuts.apart_iff shape here there
    rwa [Nat.zero_add, Option.or_none, endsWord_iff here there] at apart

theorem words_cut_mixed :
    words "ABc1-DE2" = ["A", "Bc1", "DE", "2"] ∧ Apart (wordsFound "ABc1-DE2") 0 1 ∧
      ¬ Apart (wordsFound "ABc1-DE2") 1 2 ∧ Apart (wordsFound "ABc1-DE2") 3 5 ∧
      Apart (wordsFound "ABc1-DE2") 6 7 := by
  obtain ⟨shown, -, -, -, apart, neighbours⟩ := words_cut "ABc1-DE2"
  refine ⟨shown.trans (by decide), ?_, ?_, ?_, ?_⟩
  · exact (neighbours [] 'A' 'B' ['c', '1', '-', 'D', 'E', '2'] rfl rfl rfl).2
      (.lastCapital rfl rfl rfl rfl)
  · intro different
    cases (neighbours ['A'] 'B' 'c' ['1', '-', 'D', 'E', '2'] rfl rfl rfl).1 different with
    | capital small => cases small
    | lastCapital _ capital => cases capital
    | digit _ digit => cases digit
  · exact apart ['A', 'B', 'c'] '1' ['-'] 'D' ['E', '2'] rfl rfl rfl ⟨'-', by simp, rfl⟩
  · exact (neighbours ['A', 'B', 'c', '1', '-', 'D'] 'E' '2' [] rfl rfl rfl).2
      (@Boundary.digit _ _ _ _ ['A', 'B', 'c', '1', '-'] 'D' rfl rfl rfl rfl)

end RouteGraft.Naming
