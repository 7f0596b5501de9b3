import RouteGraft.CommandLine

/-!
# Verbosity

A call may ask for details in front of everything else, and then its log tells more.  Nothing
else depends on it.  The option is taken off the words before any other one is looked at, so
what is asked for is the same with it and without it (`CommandLine.ofWords_verbose`), whatever
the words are, as long as there are any.  Behind that the two calls are one and the same run,
and only the entries that are shown are picked in two ways.

So both calls end alike, leave the same disk, and agree on every entry of the log that is no
detail (`CommandLine.verbosity_shows_more`).  This is said of all words, all disks, all
toolkits and all widths of the console, and so of calls that fail anywhere on the way as well.
-/

namespace RouteGraft

/-- An entry that is no detail. -/
def LogEntry.isNotable (e : LogEntry) : Bool := e.level ≠ .debug

namespace CommandLine

/-! ## Words that ask for details -/

/-- The spellings of the option that asks for details. -/
def verboseWords : List String := ["--verbose", "-v"]

/-- The option is parsed off the words, and the other words are parsed as they are. -/
theorem parse?_verbose {flag : String} (h : flag ∈ verboseWords) (words : List String) :
    Options.parse? programRules false (flag :: words)
      = (Options.parse? programRules false words).map fun p =>
          { p with options := ⟨.verbose, ""⟩ :: p.options } := by
  simp only [verboseWords, List.mem_cons, List.not_mem_nil, or_false] at h
  rcases h with rfl | rfl
  · rfl
  · rfl

/-- A call with details. -/
def Call.verbosely : Call → Call
  | .command _ c => .command true c
  | call => call

/-- Asked for details in front, a call asks for the same as without. -/
theorem ofWords_verbose {flag : String} (h : flag ∈ verboseWords) (word : String)
    (words : List String) :
    Call.ofWords (flag :: word :: words) = (Call.ofWords (word :: words)).verbosely := by
  rw [Call.ofWords, Call.ofWords, parse?_verbose h]
  simp only [List.isEmpty_cons, Bool.false_eq_true, if_false]
  cases Options.parse? programRules false (word :: words) with
  | none => rfl
  | some p =>
      have help : Options.Parsed.has ⟨⟨.verbose, ""⟩ :: p.options, p.operands⟩ .help
          = p.has ProgramOption.help := rfl
      have completion : Options.Parsed.has ⟨⟨.verbose, ""⟩ :: p.options, p.operands⟩ .completion
          = p.has ProgramOption.completion := rfl
      dsimp only [Option.map_some]
      rw [help, completion]
      -- the three ways in which the options alone decide on the call, then the operands
      split
      · rfl
      split
      · rfl
      cases p.operands with
      | nil => rfl
      | cons first rest =>
          dsimp only
          split
          · rfl
          · unfold strangeCommand
            split
            · rfl
            · split <;> rfl

/-- A call that starts with the name of the command does not ask for details. -/
theorem ofWords_command {word : String} (h : word ∈ commandNames) (words : List String) :
    Call.ofWords (word :: words) = .command false (CommandCall.ofWords words) := by
  simp only [commandNames, List.mem_cons, List.not_mem_nil, or_false] at h
  rcases h with rfl | rfl
  · rfl
  · rfl

/-! ## What is shown -/

/-- Entries that are no details stay, whatever is shown. -/
theorem filter_shown (verbose : Bool) (log : Log) :
    (shown verbose log).filter LogEntry.isNotable = log.filter LogEntry.isNotable := by
  cases verbose with
  | false => exact List.filter_filter.trans (List.filter_congr fun e _ => Bool.and_self _)
  | true => rfl

/-- Details are shown on demand only. -/
theorem isNotable_of_mem_shown {log : Log} {e : LogEntry} (h : e ∈ shown false log) :
    e.isNotable = true :=
  (List.mem_filter.1 h).2

/-- Two reports that differ at most in the details their logs tell. -/
structure Report.SameButDetails (r r' : Report) : Prop where
  ending : r.ending = r'.ending
  disk : r.disk = r'.disk
  log : r.log.filter LogEntry.isNotable = r'.log.filter LogEntry.isNotable

theorem run_verbose {flag : String} (h : flag ∈ verboseWords) (word : String)
    (words : List String) (d : Disk) (t : Toolkit) (width : Option Nat) :
    (run (flag :: word :: words) d t width).SameButDetails (run (word :: words) d t width) := by
  rw [run, run, ofWords_verbose h]
  cases Call.ofWords (word :: words) with
  | nothing => exact ⟨rfl, rfl, rfl⟩
  | unusable => exact ⟨rfl, rfl, rfl⟩
  | help => exact ⟨rfl, rfl, rfl⟩
  | command verbose c =>
      cases c with
      | unusable => exact ⟨rfl, rfl, rfl⟩
      | help => exact ⟨rfl, rfl, rfl⟩
      | order o => exact ⟨rfl, rfl, (filter_shown true _).trans (filter_shown verbose _).symm⟩

/-- A call that starts with the name of the command tells no details. -/
theorem isNotable_of_mem_log {word : String} (h : word ∈ commandNames) (words : List String)
    (d : Disk) (t : Toolkit) (width : Option Nat) :
    ∀ e ∈ (run (word :: words) d t width).log, e.isNotable = true := by
  rw [run, ofWords_command h]
  cases CommandCall.ofWords words with
  | unusable => exact List.forall_mem_singleton.2 rfl
  | help => exact List.forall_mem_singleton.2 rfl
  | order o => exact fun e he => isNotable_of_mem_shown he

/-- Details that are asked for in front of a call show in its log and nowhere else: the call
ends as it does without, with the same exit code, the same text and the same error that is
passed on, if there is one, and it leaves the same disk.  The entries that are no details are
the same ones in the same order, and a call that starts with the name of the command has no
others. -/
theorem verbosity_shows_more {flag : String} (h : flag ∈ verboseWords) (word : String)
    (words : List String) (d : Disk) (t : Toolkit) (width : Option Nat) :
    (run (flag :: word :: words) d t width).ending = (run (word :: words) d t width).ending ∧
      (run (flag :: word :: words) d t width).disk = (run (word :: words) d t width).disk ∧
      (run (flag :: word :: words) d t width).log.filter LogEntry.isNotable
        = (run (word :: words) d t width).log.filter LogEntry.isNotable ∧
      (word ∈ commandNames →
        (∀ e ∈ (run (word :: words) d t width).log, e.isNotable = true) ∧
          (run (word :: words) d t width).log
            = (run (flag :: word :: words) d t width).log.filter LogEntry.isNotable) := by
  obtain ⟨ending, disk, log⟩ := run_verbose h word words d t width
  refine ⟨ending, disk, log, fun command => ?_⟩
  have notable := isNotable_of_mem_log command words d t width
  exact ⟨notable, by rw [log, List.filter_eq_self.2 notable]⟩

/-- On an empty disk the configuration is missing, and the four selections are details. -/
theorem verbosity_shows_more_noConfig :
    let d : Disk := ⟨[], []⟩
    let loud := run ["-v", "add-route", "--page", "-nX"] d {} (some 80)
    let quiet := run ["add-route", "--page", "-nX"] d {} (some 80)
    "-v" ∈ verboseWords ∧ "add-route" ∈ commandNames ∧ loud.ending = quiet.ending ∧
      quiet.ending.code = 1 ∧ loud.log.length = 5 ∧ quiet.log = [greeting] ∧
        quiet.log = loud.log.filter LogEntry.isNotable := by
  intro d loud quiet
  have flag : "-v" ∈ verboseWords := by decide
  have command : "add-route" ∈ commandNames := by decide
  obtain ⟨ending, -, -, notable⟩ :=
    verbosity_shows_more flag "add-route" ["--page", "-nX"] d {} (some 80)
  exact ⟨flag, command, ending, by decide +kernel, by decide +kernel, by decide +kernel,
    (notable command).2⟩

end CommandLine

end RouteGraft
