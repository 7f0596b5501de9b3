import RouteGraft.Proofs.Placement
import RouteGraft.Proofs.SuccessLine
import RouteGraft.Proofs.Validation

/-!
# Calls that fail

A call fails if its configuration cannot be loaded, or if one of its steps is refused
(`CommandLine.Fails`).  It then tells of the failure and ends with the exit code one.

Two kinds of failures are not foreseen, and are passed on instead: a path with a NUL in it,
which no disk can be asked for, and a source with a name in it that cannot be decoded
(`CommandLine.Unforeseen`).  An edit outside of its source would be a third one, but the
trees of sources are nested, so there is none (`Outline.plan_inside`).

What is told of a failure names a path as it was given.  It is one line if there is no line
break in it and it fits on the console (`CommandLine.refusal_onOneLine`).

Paths are texts, both in a configuration and on the command line.  So the arguments of a call
are taken to be UTF-8 (`CommandLine.wordsOf?`), and all texts can be given as such
(`CommandLine.wordsOf?_encode`).
-/

namespace RouteGraft

open Dart (Node)

/-! ## Paths with a NUL -/

namespace Path

/-- A path has a NUL in it just if its text has. -/
theorem hasNul_ofText {s : String} : (ofText s).hasNul = true ↔ '\x00' ∈ s.toList := by
  rw [← Text.mem_split (by decide : '\x00' ≠ '/')]
  simp only [hasNul, ofText, List.any_map, List.any_eq_true, List.mem_filter, Function.comp_apply,
    String.toList_ofList, List.contains_eq_mem, decide_eq_true_eq]
  constructor
  · rintro ⟨part, ⟨isPart, -⟩, nul⟩
    exact ⟨part, isPart, nul⟩
  · rintro ⟨part, isPart, nul⟩
    refine ⟨part, ⟨isPart, ?_⟩, nul⟩
    rw [isName, Bool.and_eq_true, decide_eq_true_eq, decide_eq_true_eq]
    constructor
    · rintro rfl
      cases nul
    · rintro rfl
      simp at nul

end Path

/-- A source is not even looked up just if its path has a NUL in it. -/
theorem Source.read_eq_nul {d : Disk} {path : String} :
    read d path = .error .nul ↔ '\x00' ∈ path.toList := by
  rw [← Path.hasNul_ofText]
  unfold read
  simp only
  split
  · next nul => simp [nul]
  · next other =>
      simp only [other]
      split <;> simp

/-- A configuration is not even looked up just if its path has a NUL in it. -/
theorem Config.load_eq_nul {d : Disk} {path : String} :
    load d path = .error .nul ↔ '\x00' ∈ path.toList := by
  rw [← Path.hasNul_ofText]
  unfold load
  simp only
  split
  · next nul => simp [nul]
  · next other =>
      simp only [other]
      split
      · simp
      · simp
      · split <;> simp

/-! ## Edits inside of sources -/

/-- With a well-nested tree of a source every edit that is planned is inside of it. -/
theorem Outline.plan_inside {source : Bytes} {root : Node} {o : Outline} {names : Names}
    {path : String} {i : Insertion} {edit : Edit} (tree : root.WellNested source.length)
    (read : ofTree source root = .ok o) (planned : i.plan names path o = .ok edit) :
    0 ≤ edit.offset ∧ edit.offset ≤ source.length := by
  obtain ⟨gap, -⟩ := plan_lands tree.nested read planned
  obtain ⟨start, stop⟩ := gap.inside tree.nested
  have inside := tree.inside
  unfold Span.Inside at inside
  dsimp only at inside
  omega

/-! ## Steps that fail unforeseen -/

/-- A step whose path cannot be looked up, or whose source cannot be decoded where it has to
be. -/
inductive Step.Unforeseen (s : Step) (d : Disk) : Prop
  | nul : '\x00' ∈ s.path.toList → Unforeseen s d
  | undecodable {content : Bytes} {e : Utf8.DecodeError} :
      Source.read d s.path = .ok content → s.outliner content = .error e → Unforeseen s d

/-- Whether an error is passed on. -/
def AdditionError.isPassedOn : AdditionError → Bool
  | .source .nul | .insertion (.outside _) | .insertion (.undecodable _) => true
  | _ => false

/-- An insertion fails for want of an outline just if there is none. -/
theorem insert_eq_undecodable {outliner : Outliner} {names : Names} {path : String} {i : Insertion}
    {content : Bytes} {e : Utf8.DecodeError} :
    (insert outliner names path i content).2 = .error (.undecodable e) ↔
      outliner content = .error e := by
  unfold insert
  cases outliner content with
  | error e' => simp
  | ok o =>
      cases planned : i.plan names path o with
      | error reason => simp [planned]
      | ok edit => cases applied : edit.apply content <;> simp [planned, applied]

/-- Of the steps that are refused those fail unforeseen whose error is passed on. -/
theorem Step.Refused.unforeseen_iff {s : Step} {d : Disk} {e : AdditionError}
    {parse : Bytes → Node} (nested : ∀ source, (parse source).WellNested source.length)
    (outliner : s.outliner = (Toolkit.ofTrees parse).outliner) (refused : s.Refused d e) :
    s.Unforeseen d ↔ e.isPassedOn = true := by
  constructor
  · intro unforeseen
    cases unforeseen with
    | nul nul =>
        rw [refused.unique (.unreadable (Source.read_eq_nul.2 nul))]
        rfl
    | undecodable read failed =>
        rw [refused.unique (.unplaced read (insert_eq_undecodable.2 failed))]
        rfl
  · intro passed
    cases refused with
    | @unreadable error read =>
        cases error with
        | nul => exact .nul (Source.read_eq_nul.1 read)
        | notFound => cases passed
        | unreadable => cases passed
        | unwritable => cases passed
    | @unplaced content error read inserted =>
        cases error with
        | noPlace => cases passed
        | undecodable e => exact .undecodable read (insert_eq_undecodable.1 inserted)
        | outside e =>
            obtain ⟨o, edit, outlined, planned, applied⟩ := insert_eq_outside.1 inserted
            rw [outliner] at outlined
            rw [Edit.apply, splice, if_pos (Outline.plan_inside (nested content) outlined planned)]
              at applied
            cases applied

/-- Steps of adding a route are cut at the first failure. -/
theorem exists_cutAt (t : Toolkit) {c : Config} (m : RouteMeta) (name : String)
    (ui : Option String) {d : Disk} (settled : d.Settled)
    (valid : c.addToService = true → c.hasService = true) :
    ∃ j, CutAt (additionSteps t c m name ui) d (addRoute t c m name ui d) j := by
  obtain ⟨j, cut⟩ := performAll_cutAt (fun _ => tools_of_mem_additionSteps) settled
  rw [← additionTasks_eq t m name ui valid] at cut
  refine ⟨j, cut.within, cut.applied, cut.complete, cut.refused, ?_⟩
  rw [← cut.progress, addRoute, Log.progress_append, progress_emptyBuilderLog, List.nil_append]

/-! ## Messages -/

namespace Console

theorem break_mem_expandTabs (column : Nat) (cs : List Char) :
    '\n' ∈ expandTabs column cs ↔ '\n' ∈ cs := by
  induction cs generalizing column with
  | nil => rfl
  | cons c rest ih =>
      rw [expandTabs]
      split
      · next tab => simp [tab, List.mem_replicate, ih]
      · split
        · next broken => simp [broken]
        · simp [ih]

theorem break_mem_laidOut (cs : List Char) : '\n' ∈ laidOut cs ↔ '\n' ∈ cs := by
  rw [laidOut, break_mem_expandTabs, List.mem_filter]
  exact and_iff_left (by decide)

/-- A character of ASCII that is seen, and that is no colon. -/
def isGraphic (c : Char) : Bool := 0x20 < c.toNat && c.toNat < 0x7F && c ≠ ':'

/-- Whether a text starts with such a character. -/
def StartsGraphic (s : String) : Prop := s.toList.head?.any isGraphic = true

instance : DecidablePred StartsGraphic := fun s =>
  inferInstanceAs (Decidable (s.toList.head?.any isGraphic = true))

theorem StartsGraphic.append {s : String} (h : StartsGraphic s) (more : String) :
    StartsGraphic (s ++ more) := by
  obtain ⟨c, first, graphic⟩ := (Option.any_eq_true _ _).1 h
  rw [StartsGraphic, String.toList_append, List.head?_append, first]
  exact graphic

/-- The first character of such a text is shown in front, in one cell. -/
theorem StartsGraphic.laidOut {s : String} (h : StartsGraphic s) :
    ∃ c rest, laidOut (Emoji.replace s.toList) = c :: rest ∧ cells c = 1 ∧
      Text.isSpace c = false := by
  obtain ⟨c, first, graphic⟩ := (Option.any_eq_true _ _).1 h
  obtain ⟨rest, shape⟩ := List.head?_eq_some_iff.1 first
  simp only [isGraphic, Bool.and_eq_true, decide_eq_true_eq] at graphic
  obtain ⟨⟨low, high⟩, noColon⟩ := graphic
  have one : cells c = 1 := by
    rw [cells, if_pos]
    simp only [Bool.and_eq_true, decide_eq_true_eq]
    omega
  have isInk : Text.isSpace c = false := by
    simp only [Text.isSpace, Bool.or_eq_false_iff, Bool.and_eq_false_iff, decide_eq_false_iff_not]
    omega
  have still : movesCursor c = false := by
    simp only [movesCursor, Bool.or_eq_false_iff, decide_eq_false_iff_not]
    omega
  have noTab : c ≠ '\t' := by
    rintro rfl
    exact absurd low (by decide)
  have noBreak : c ≠ '\n' := by
    rintro rfl
    exact absurd low (by decide)
  refine ⟨c, expandTabs (0 + cells c) ((Emoji.replaceFrom 0 rest).filter (!movesCursor ·)), ?_, one,
    isInk⟩
  rw [shape, Emoji.replace, Emoji.replaceFrom, if_neg fun colon => noColon colon.1, Console.laidOut,
    List.filter_cons_of_pos (by simp [still]), expandTabs, if_neg noTab, if_neg noBreak]

end Console

namespace CommandLine

/-- The end of a call that fails with one line of text. -/
def Ending.FailsOnOneLine (e : Ending) : Prop :=
  ∃ told, e = ⟨1, .text (told ++ "\n"), none⟩ ∧ '\n' ∉ told.toList

/-- The characters that the console shows of a message. -/
def shownOf (message : String) : List Char :=
  Console.laidOut (Console.Emoji.replace message.toList)

/-- A message is told on one line if it has no line break and fits on the console, where the space
at its end does not count. -/
theorem refusal_onOneLine {width : Option Nat} {message : String}
    (starts : Console.StartsGraphic message) :
    (Ending.refusal width message).FailsOnOneLine ↔
      '\n' ∉ Console.Emoji.replace message.toList ∧
        Console.Fits width (Text.trimEnd (shownOf message)) := by
  obtain ⟨c, rest, first, narrow, isInk⟩ := starts.laidOut
  rw [← Console.break_mem_laidOut, shownOf, ← Console.printed_oneLine first narrow isInk]
  unfold Ending.FailsOnOneLine Ending.refusal Console.printedPlain
  simp

variable {words : List String} {d : Disk} {t : Toolkit} {o : Order} {k : RouteKind}
  {message : String} {width : Option Nat}

/-! ## Failures -/

/-- All words can be given as arguments. -/
theorem wordsOf?_encode (words : List String) : wordsOf? (words.map Utf8.encode) = some words := by
  induction words with
  | nil => rfl
  | cons w ws ih =>
      unfold wordsOf? at ih ⊢
      rw [List.map_cons, List.mapM_cons, ih, Utf8.decode_encode]
      rfl

/-- What is told of an error.  A source without a place for a fragment is told with the name of
the error in front. -/
def toldError : AdditionError → String
  | .insertion (.noPlace reason path) => reason.name ++ ": " ++ reason.message path
  | e => e.message

/-- Adding a route of a kind fails with a message: its configuration cannot be loaded, or one of
its steps is refused. -/
inductive Fails (t : Toolkit) (o : Order) (k : RouteKind) (d : Disk) : String → Prop
  | configuration {e : Config.LoadError} :
      Config.load d o.config = .error e → Fails t o k d e.message
  | step {c : Config} {e : AdditionError} :
      Config.load d o.config = .ok c →
        (addRoute t c (k.metaFor o.generic) o.name o.ui d).error = some e →
          Fails t o k d (toldError e)

/-- The failures that are not foreseen: the path of the configuration cannot be looked up, or
the step that is refused fails unforeseen on the disk that is left behind. -/
inductive Unforeseen (t : Toolkit) (o : Order) (k : RouteKind) (d : Disk) : Prop
  | configuration : '\x00' ∈ o.config.toList → Unforeseen t o k d
  | step {c : Config} {j : Nat} {s : Step} :
      Config.load d o.config = .ok c →
        CutAt (additionSteps t c (k.metaFor o.generic) o.name o.ui) d
          (addRoute t c (k.metaFor o.generic) o.name o.ui d) j →
          (additionSteps t c (k.metaFor o.generic) o.name o.ui)[j]? = some s →
            s.Unforeseen (addRoute t c (k.metaFor o.generic) o.name o.ui d).disk →
              Unforeseen t o k d

theorem startsGraphic_loadError (e : Config.LoadError) : Console.StartsGraphic e.message := by
  have notFound : Console.StartsGraphic "Config file not found: " := by decide
  have unreadable : Console.StartsGraphic "Can't read config file " := by decide
  have refused : Console.StartsGraphic "Invalid config " := by decide
  cases e with
  | nul => exact (by decide : Console.StartsGraphic nulMessage)
  | notFound path => exact notFound.append _
  | unreadable path f =>
      exact ((((((unreadable.append _).append _).append _).append _).append _).append _).append _
  | refused path r =>
      cases r with
      | malformed e => exact ((refused.append _).append _).append _
      | invalid faults => exact ((refused.append _).append _).append _

theorem startsGraphic_toldError (e : AdditionError) : Console.StartsGraphic (toldError e) := by
  have notFound : Console.StartsGraphic "File not found: " := by decide
  have unreadable : Console.StartsGraphic "Can't read " := by decide
  have unwritable : Console.StartsGraphic "Can't write " := by decide
  have named (reason : NoPlace) : Console.StartsGraphic reason.name := by cases reason <;> decide
  have outside : Console.StartsGraphic "Offset " := by decide
  have undecodable : Console.StartsGraphic "'utf-8' codec can't decode " := by decide
  cases e with
  | source e =>
      cases e with
      | notFound path => exact notFound.append _
      | unreadable path f => exact ((unreadable.append _).append _).append _
      | unwritable path f => exact ((unwritable.append _).append _).append _
      | nul => exact (by decide : Console.StartsGraphic nulMessage)
  | insertion e =>
      cases e with
      | noPlace reason path => exact ((named reason).append _).append _
      | outside e => exact (((outside.append _).append _).append _).append _
      | undecodable e => exact ((undecodable.append _).append _).append _
  | noService => exact (by decide : Console.StartsGraphic AdditionError.noService.message)

/-- Every message starts with a character that is seen. -/
theorem Fails.starts (fails : Fails t o k d message) : Console.StartsGraphic message := by
  cases fails with
  | @configuration e => exact startsGraphic_loadError e
  | @step c e => exact startsGraphic_toldError e

theorem endingOfAdditionError_eq (width : Option Nat) (e : AdditionError) :
    if e.isPassedOn then ∃ escape, endingOfAdditionError width e = .passedOn escape
    else endingOfAdditionError width e = .refusal width (toldError e) := by
  cases e with
  | source e => cases e <;> first | exact ⟨_, rfl⟩ | rfl
  | insertion e => cases e <;> first | exact ⟨_, rfl⟩ | rfl
  | noService => rfl

/-- A configuration that cannot be loaded fails unforeseen just if its path has a NUL in it. -/
theorem endingOfLoadError_eq (width : Option Nat) {e : Config.LoadError} :
    if e = .nul then ∃ escape, endingOfLoadError width e = .passedOn escape
    else endingOfLoadError width e = .refusal width e.message := by
  cases e with
  | nul => exact ⟨_, rfl⟩
  | notFound => rfl
  | unreadable => rfl
  | refused => rfl

theorem unforeseen_configuration_iff {e : Config.LoadError}
    (unloaded : Config.load d o.config = .error e) : Unforeseen t o k d ↔ e = .nul := by
  constructor
  · intro unforeseen
    cases unforeseen with
    | configuration nul => exact Except.error.inj (unloaded.symm.trans (Config.load_eq_nul.2 nul))
    | step loaded => cases unloaded.symm.trans loaded
  · rintro rfl
    exact .configuration (Config.load_eq_nul.1 unloaded)

/-- A step that is refused when a route is added fails unforeseen just if its error is passed
on. -/
theorem unforeseen_step_iff {parse : Bytes → Node}
    (nested : ∀ source, (parse source).WellNested source.length) (settled : d.Settled)
    {c : Config} (loaded : Config.load d o.config = .ok c) {e : AdditionError}
    (failed : (addRoute (.ofTrees parse) c (k.metaFor o.generic) o.name o.ui d).error = some e) :
    Unforeseen (.ofTrees parse) o k d ↔ e.isPassedOn = true := by
  constructor
  · intro unforeseen
    cases unforeseen with
    | configuration nul => cases loaded.symm.trans (Config.load_eq_nul.2 nul)
    | step loaded' cut next unforeseen =>
        cases loaded.symm.trans loaded'
        obtain ⟨s, next', refused⟩ := (cut.refused e).1 failed
        cases next.symm.trans next'
        have tools := tools_of_mem_additionSteps (List.mem_of_getElem? next)
        exact (refused.unforeseen_iff nested tools.1).1 unforeseen
  · intro passed
    have valid := (Config.Validated.file loaded).usable
    obtain ⟨j, cut⟩ := exists_cutAt (.ofTrees parse) (k.metaFor o.generic) o.name o.ui settled
      fun add => Config.hasService_iff.2 (valid add)
    obtain ⟨s, next, refused⟩ := (cut.refused e).1 failed
    have tools := tools_of_mem_additionSteps (List.mem_of_getElem? next)
    exact .step loaded cut next ((refused.unforeseen_iff nested tools.1).2 passed)

theorem ending_of_unloaded {verbose : Bool} (width : Option Nat)
    (called : Call.ofWords words = .command verbose (.order o)) (selected : o.kinds = [k])
    {e : Config.LoadError} (unloaded : Config.load d o.config = .error e) :
    (run words d t width).ending = endingOfLoadError width e := by
  simp only [run, called, perform, selected, addSelected, unloaded]

theorem ending_of_failed {verbose : Bool} (width : Option Nat)
    (called : Call.ofWords words = .command verbose (.order o)) (selected : o.kinds = [k])
    {c : Config} (loaded : Config.load d o.config = .ok c) {e : AdditionError}
    (failed : (addRoute t c (k.metaFor o.generic) o.name o.ui d).error = some e) :
    (run words d t width).ending = endingOfAdditionError width e := by
  simp only [run, called, perform, selected, addSelected, loaded, failed]

/-- What is known of an ending by whether its error is passed on. -/
theorem Ending.of_passedOn {ending : Ending} {unforeseen : Prop}
    (starts : Console.StartsGraphic message)
    (passed : unforeseen → ∃ e, ending = .passedOn e)
    (told : ¬ unforeseen → ending = .refusal width message) :
    ending.code = 1 ∧ (ending.FailsOnOneLine ↔
      ¬ unforeseen ∧ '\n' ∉ Console.Emoji.replace message.toList ∧
        Console.Fits width (Text.trimEnd (shownOf message))) := by
  by_cases h : unforeseen
  · obtain ⟨e, rfl⟩ := passed h
    refine ⟨rfl, iff_of_false ?_ fun h' => h'.1 h⟩
    rintro ⟨told, eq, -⟩
    cases congrArg Ending.escape eq
  · rw [told h, refusal_onOneLine starts]
    exact ⟨rfl, (and_iff_right h).symm⟩

/-- A call that selects one kind and fails ends with the exit code one.  If the failure was
foreseen it tells of it, on one line if there is no line break in the message and the message
fits on the console, and nothing is passed on.  If it was not, it is passed on.

The call is given its arguments as bytes.  They have to be UTF-8: arguments that are not are no
texts, and of calls with them nothing is said. -/
theorem failing_call_ends {parse : Bytes → Node}
    (nested : ∀ source, (parse source).WellNested source.length) (settled : d.Settled)
    {arguments : List Bytes} (texts : wordsOf? arguments = some words) {verbose : Bool}
    (called : Call.ofWords words = .command verbose (.order o)) (selected : o.kinds = [k])
    (fails : Fails (.ofTrees parse) o k d message) (width : Option Nat) :
    ∃ report, runArguments? arguments d (.ofTrees parse) width = some report ∧
      report.ending.code = 1 ∧
      (¬ Unforeseen (.ofTrees parse) o k d → report.ending = .refusal width message) ∧
      (Unforeseen (.ofTrees parse) o k d → ∃ e, report.ending = .passedOn e) ∧
      (report.ending.FailsOnOneLine ↔ ¬ Unforeseen (.ofTrees parse) o k d ∧
        '\n' ∉ Console.Emoji.replace message.toList ∧
          Console.Fits width (Text.trimEnd (shownOf message))) := by
  have ran : runArguments? arguments d (.ofTrees parse) width
      = some (run words d (.ofTrees parse) width) := by
    rw [runArguments?, texts]
    rfl
  refine ⟨_, ran, ?_⟩
  generalize reported : (run words d (.ofTrees parse) width).ending = ending
  have ends : (Unforeseen (.ofTrees parse) o k d → ∃ e, ending = .passedOn e) ∧
      (¬ Unforeseen (.ofTrees parse) o k d → ending = .refusal width message) := by
    subst reported
    cases fails with
    | @configuration e unloaded =>
        rw [ending_of_unloaded width called selected unloaded,
          unforeseen_configuration_iff unloaded]
        have ends := @endingOfLoadError_eq width e
        split at ends
        · next nul => exact ⟨fun _ => ends, fun foreseen => absurd nul foreseen⟩
        · next other => exact ⟨fun nul => absurd nul other, fun _ => ends⟩
    | @step c e loaded failed =>
        rw [ending_of_failed width called selected loaded failed,
          unforeseen_step_iff nested settled loaded failed]
        have ends := endingOfAdditionError_eq width e
        split at ends
        · next passed => exact ⟨fun _ => ends, fun foreseen => absurd passed foreseen⟩
        · next other => exact ⟨fun passed => absurd passed other, fun _ => ends⟩
  obtain ⟨code, oneLine⟩ := Ending.of_passedOn fails.starts ends.1 ends.2
  exact ⟨code, ends.2, ends.1, oneLine⟩

/-- The tree of a source without any declarations. -/
def emptyTree (source : Bytes) : Node := .mk .program true none ⟨0, source.length⟩ []

/-- The message of a route without a class to go behind. -/
def noClassMessage : String := "RouteInsertionError: Can't insert new page in r"

theorem failing_call_ends_noClass :
    (∀ source, (emptyTree source).WellNested source.length) ∧ (smallProject "").Settled ∧
      wordsOf? ((pageCall "X").map Utf8.encode) = some (pageCall "X") ∧
      Fails (.ofTrees emptyTree) (pageOrder "X") .page (smallProject "") noClassMessage ∧
      ∃ report, runArguments? ((pageCall "X").map Utf8.encode) (smallProject "")
          (.ofTrees emptyTree) (some 80) = some report ∧
        report.ending = .refusal (some 80) noClassMessage ∧ report.ending.FailsOnOneLine := by
  have nested : ∀ source, (emptyTree source).WellNested source.length := by
    intro source
    refine ⟨.mk (Int.natCast_nonneg _) ?_ .nil ?_, ?_⟩
    · exact fun c hc => absurd hc List.not_mem_nil
    · exact fun c hc => absurd hc List.not_mem_nil
    · exact ⟨Int.le_refl _, Int.natCast_nonneg _, Int.le_refl _⟩
  have settled : (smallProject "").Settled := by
    intro content
    have here : (smallProject "").find? (smallProject "").here = some .folder := by decide
    simp [here]
  have called : Call.ofWords (pageCall "X") = .command false (.order (pageOrder "X")) := by
    decide +kernel
  have loaded : Config.load (smallProject "") (pageOrder "X").config = .ok smallConfig := by
    decide +kernel
  have failed : (addRoute (.ofTrees emptyTree) smallConfig (RouteKind.page.metaFor none) "X" none
      (smallProject "")).error = some (.insertion (.noPlace .route "r")) := by
    decide +kernel
  have fails : Fails (.ofTrees emptyTree) (pageOrder "X") .page (smallProject "") noClassMessage :=
    .step loaded failed
  have foreseen : ¬ Unforeseen (.ofTrees emptyTree) (pageOrder "X") .page (smallProject "") := by
    rw [unforeseen_step_iff nested settled loaded failed]
    exact Bool.false_ne_true
  have texts := wordsOf?_encode (pageCall "X")
  have noBreak : '\n' ∉ Console.Emoji.replace noClassMessage.toList := by decide +kernel
  have cells : Console.cellsOf (Text.trimEnd (shownOf noClassMessage)) ≤ 80 := by decide +kernel
  have fits : Console.Fits (some 80) (Text.trimEnd (shownOf noClassMessage)) :=
    fun width h => Option.mem_some.1 h ▸ cells
  obtain ⟨report, ran, -, told, -, oneLine⟩ :=
    failing_call_ends nested settled texts called rfl fails (some 80)
  exact ⟨nested, settled, texts, fails, report, ran, told foreseen,
    oneLine.2 ⟨foreseen, noBreak, fits⟩⟩

/-- A disk with a configuration that has a NUL in a path. -/
def nulProject : Disk :=
  ⟨[], [(["mad_navigation.json"], .file (Utf8.encode
    ("\x7b\"routesPath\":\"a\\u0000b\",\"routeMapperPath\":\"m\",\"addToService\":false\x7d")))]⟩

/-- A path with a NUL in it, which a configuration can well have, ends the call with an error that
is passed on and without a line. -/
theorem fails_without_line :
    Fails {} (pageOrder "X") .page nulProject "embedded null byte" ∧
      (run (pageCall "X") nulProject {} (some 80)).ending = .passedOn .nul ∧
      ¬ (run (pageCall "X") nulProject {} (some 80)).ending.FailsOnOneLine := by
  have called : Call.ofWords (pageCall "X") = .command false (.order (pageOrder "X")) := by
    decide +kernel
  have loaded : Config.load nulProject (pageOrder "X").config
      = .ok ⟨"a\x00b", "m", none, none, false⟩ := by
    decide +kernel
  have failed : (addRoute {} ⟨"a\x00b", "m", none, none, false⟩ (RouteKind.page.metaFor none) "X"
      none nulProject).error = some (.source .nul) := by
    decide +kernel
  have ending : (run (pageCall "X") nulProject {} (some 80)).ending = .passedOn .nul :=
    ending_of_failed (some 80) called rfl loaded failed
  refine ⟨.step loaded failed, ending, ?_⟩
  rw [ending]
  rintro ⟨told, eq, -⟩
  cases congrArg Ending.escape eq

end CommandLine

end RouteGraft
