import RouteGraft.Addition
import RouteGraft.Config.Load
import RouteGraft.Console
import RouteGraft.Console.Markup
import RouteGraft.Options

/-!
# The command line

The program is called with options of its own, the name of a command, and the
options of that command.  There is one command, which adds a route, and it may
be spelled in two ways.

A call is *unusable* if its words make no sense, or if it asks for the completion
of words, which is not offered.  Help is given before anything
else is looked at, except that the words in front of the name, or those behind
it, have to be options that exist.  The first entry of the log is written when
the name of the command is known to be right.

Only one of the four kinds of routes may be selected.  Then the configuration is
loaded and the route is added.  Whatever goes wrong on the way is told in a
line; the few errors that are not expected there are passed on to the caller
(`Escape`).  A line that is too long for the console takes several rows there, so
what is printed depends on the width of the console.

A call is given its words as arguments, which are bytes.  The words are texts, so
`runArguments?` leaves open what arguments do that are not UTF-8.
-/

namespace RouteGraft.CommandLine

/-! ## Options -/

/-- The options in front of the command. -/
inductive ProgramOption where
  | verbose
  | completion
  | help
  deriving DecidableEq, Repr

/-- How they are given. -/
def programRules : List (Options.Rule ProgramOption) :=
  [⟨.verbose, ["--verbose", "-v"], false⟩,
    ⟨.completion, ["--install-completion", "--show-completion"], false⟩,
    ⟨.help, ["--help", "-h"], false⟩]

/-- The options of the command. -/
inductive CommandOption where
  | name
  | kind (k : RouteKind)
  | ui
  | generic
  | config
  | help
  deriving DecidableEq, Repr

/-- How they are given. -/
def commandRules : List (Options.Rule CommandOption) :=
  [⟨.name, ["--name", "-n"], true⟩,
    ⟨.kind .page, ["--page"], false⟩,
    ⟨.kind .bottomSheet, ["--bottomSheet", "--bottom-sheet"], false⟩,
    ⟨.kind .dialog, ["--dialog"], false⟩,
    ⟨.kind .tabHolder, ["--tabHolder", "--tab-holder"], false⟩,
    ⟨.ui, ["--uiComponent", "--ui-component"], true⟩,
    ⟨.generic, ["--generic"], true⟩,
    ⟨.config, ["--config", "-c"], true⟩,
    ⟨.help, ["--help", "-h"], false⟩]

/-- The names of the command. -/
def commandNames : List String := ["add-route", "add_route"]

/-- The text of the help screen. -/
def usage : String := String.intercalate "\n"
  ["Usage: mad-navigation [-v] [-h] add-route --name NAME KIND [OPTIONS]",
    "",
    "Adds a route to an application: its class, its entry in the route mapper and,",
    "if the configuration asks for them, its methods in the navigation service.",
    "",
    "  -n, --name NAME             the name of the route, such as UserProfile",
    "  --page, --bottomSheet, --dialog, --tabHolder",
    "                              the kind of the route, exactly one of them",
    "  --uiComponent EXPRESSION    what the route shows, such as 'SettingsPage()'",
    "  --generic TYPE              the type of the result of the route",
    "  -c, --config PATH           the configuration (" ++ Config.defaultPath ++ ")",
    "  -v, --verbose               tell of details (in front of add-route)",
    "  -h, --help                  show this text"]

/-! ## Calls -/

/-- What is asked of the command. -/
structure Order where
  /-- The name of the route. -/
  name : String
  /-- The kinds that are selected, in the order in which kinds are listed. -/
  kinds : List RouteKind
  /-- The component to show. -/
  ui : Option String
  /-- The result type. -/
  generic : Option String
  /-- The path of the configuration. -/
  config : String
  deriving DecidableEq, Repr

/-- What the words behind the name of the command ask for. -/
inductive CommandCall where
  /-- The words make no sense. -/
  | unusable
  /-- Help. -/
  | help
  /-- A route. -/
  | order (o : Order)
  deriving DecidableEq, Repr

/-- What the words behind the name of the command ask for. -/
def CommandCall.ofWords (words : List String) : CommandCall :=
  match Options.parse? commandRules true words with
  | none => .unusable
  | some p =>
      if p.has .help then .help
      else
        match p.value? .name, p.operands with
        | some name, [] =>
            .order ⟨name, RouteKind.all.filter (p.has <| .kind ·), p.value? .ui,
              p.value? .generic, (p.value? .config).getD Config.defaultPath⟩
        | _, _ => .unusable

/-- What the words of a call ask for. -/
inductive Call where
  /-- Nothing. -/
  | nothing
  /-- The words up to the command make no sense. -/
  | unusable
  /-- Help on the program. -/
  | help
  /-- The command. -/
  | command (verbose : Bool) (c : CommandCall)
  deriving DecidableEq, Repr

/-- What a word that is no command is taken for.  One that looks like an option
is read as such once more, with the words behind it. -/
def strangeCommand (words : List String) : Call :=
  match Options.parse? programRules false words with
  | none => .unusable
  | some p => if p.has .help then .help else .unusable

/-- What the words of a call ask for. -/
def Call.ofWords (words : List String) : Call :=
  if words.isEmpty then .nothing
  else
    match Options.parse? programRules false words with
    | none => .unusable
    | some p =>
        if p.has .help then .help
        else if p.has .completion then .unusable
        else
          match p.operands with
          | [] => .unusable
          | first :: rest =>
              if commandNames.contains first then
                .command (p.has .verbose) (CommandCall.ofWords rest)
              else strangeCommand (first :: rest)

/-! ## Answers -/

/-- What the program prints. -/
inductive Printed where
  /-- The help screen. -/
  | help
  /-- A text. -/
  | text (s : String)
  deriving DecidableEq, Repr

/-- An error that is passed on. -/
inductive Escape where
  /-- A path with a NUL in it. -/
  | nul
  /-- An edit outside of a source. -/
  | outside (e : OffsetOutside)
  /-- A name that cannot be decoded. -/
  | undecodable (e : Utf8.DecodeError)
  /-- A name of a route that is no proper markup. -/
  | markup (e : Console.Markup.Error)
  deriving DecidableEq, Repr

/-- The wording of an error that is passed on. -/
def Escape.message : Escape → String
  | .nul => nulMessage
  | .outside e => e.message
  | .undecodable e => e.message
  | .markup e => e.message

/-- How a call ends. -/
structure Ending where
  /-- The exit code. -/
  code : Nat
  /-- What is printed. -/
  printed : Printed
  /-- The error that is passed on, if there is one. -/
  escape : Option Escape := none
  deriving DecidableEq, Repr

namespace Ending

/-- The end of a call that makes no sense. -/
def unusable : Ending := ⟨2, .text "", none⟩

/-- The end of a call that fails with a message. -/
def refusal (width : Option Nat) (message : String) : Ending :=
  ⟨1, .text (Console.printedPlain width message), none⟩

/-- The end of a call that fails with an error that is passed on. -/
def passedOn (e : Escape) : Ending := ⟨1, .text "", some e⟩

end Ending

/-- What a call leaves behind. -/
structure Report where
  /-- How it ends. -/
  ending : Ending
  /-- What the log says. -/
  log : Log
  /-- The disk. -/
  disk : Disk

/-! ## Errors -/

/-- The end of a call whose configuration cannot be loaded. -/
def endingOfLoadError (width : Option Nat) : Config.LoadError → Ending
  | .nul => .passedOn .nul
  | e => .refusal width e.message

/-- The end of a call whose route cannot be added.  A source without a place for
a fragment is told with the name of the error in front. -/
def endingOfAdditionError (width : Option Nat) : AdditionError → Ending
  | .source .nul => .passedOn .nul
  | .source e => .refusal width e.message
  | .insertion (.noPlace reason path) =>
      .refusal width (reason.name ++ ": " ++ reason.message path)
  | .insertion (.outside e) => .passedOn (.outside e)
  | .insertion (.undecodable e) => .passedOn (.undecodable e)
  | .noService => .refusal width AdditionError.noService.message

/-! ## The command -/

/-- The line that tells of a route that was added, with markup. -/
def successLine (m : RouteMeta) (name : String) : String :=
  "[green]Added[/green] " ++ m.className name ++ " (" ++ Naming.kebab name ++ ")"

/-- The end of a call that has added a route. -/
def endingOfSuccess (width : Option Nat) (m : RouteMeta) (name : String) : Ending :=
  match Console.Markup.render (successLine m name) with
  | .ok cs => ⟨0, .text (Console.printed width cs), none⟩
  | .error e => .passedOn (.markup e)

/-- A selection as the log tells it. -/
def flagEntry (o : Order) (title : String) (k : RouteKind) : LogEntry :=
  .debug (title ++ " Route: " ++ if o.kinds.contains k then "True" else "False")

/-- The four selections as the log tells them. -/
def flagLog (o : Order) : Log :=
  [flagEntry o "Page" .page, flagEntry o "BottomSheet" .bottomSheet,
    flagEntry o "Dialog" .dialog, flagEntry o "Tab Holder" .tabHolder]

/-- Adds a route of a kind. -/
def addSelected (o : Order) (k : RouteKind) (d : Disk) (t : Toolkit := {})
    (width : Option Nat := none) : Report :=
  match Config.load d o.config with
  | .error e => ⟨endingOfLoadError width e, [], d⟩
  | .ok c =>
      let m := k.metaFor o.generic
      let outcome := addRoute t c m o.name o.ui d
      ⟨match outcome.error with
        | some e => endingOfAdditionError width e
        | none => endingOfSuccess width m o.name,
        Config.loadedEntry o.config :: announcement m o.name :: outcome.log, outcome.disk⟩

/-- Does what is asked of the command. -/
def perform (o : Order) (d : Disk) (t : Toolkit := {}) (width : Option Nat := none) : Report :=
  match o.kinds with
  | [] =>
      ⟨.refusal width "Need route type. Choose one: --page, --bottomSheet, --dialog, --tabHolder",
        flagLog o, d⟩
  | [k] =>
      let r := addSelected o k d t width
      { r with log := flagLog o ++ r.log }
  | ks =>
      ⟨.refusal width ("Select only one route type, got: "
          ++ String.intercalate ", " (ks.map RouteKind.key)), flagLog o, d⟩

/-! ## The program -/

/-- The first entry of the log. -/
def greeting : LogEntry := .info "mad-navigation-cli 0.1.0"

/-- The entries of a log that are shown.  Details are shown on demand. -/
def shown (verbose : Bool) (log : Log) : Log :=
  if verbose then log else log.filter (·.level ≠ .debug)

/-- Runs the program with some words on a disk, with a console of some width. -/
def run (words : List String) (d : Disk) (t : Toolkit := {}) (width : Option Nat := none) :
    Report :=
  match Call.ofWords words with
  | .nothing => ⟨⟨2, .help, none⟩, [], d⟩
  | .unusable => ⟨.unusable, [], d⟩
  | .help => ⟨⟨0, .help, none⟩, [], d⟩
  | .command verbose c =>
      match c with
      | .unusable => ⟨.unusable, [greeting], d⟩
      | .help => ⟨⟨0, .help, none⟩, [greeting], d⟩
      | .order o =>
          let r := perform o d t width
          { r with log := shown verbose (greeting :: r.log) }

/-- The words of a call, if its arguments are UTF-8. -/
def wordsOf? (arguments : List Bytes) : Option (List String) :=
  arguments.mapM fun argument => (Utf8.decode argument).toOption

/-- Runs the program with some arguments, if they are UTF-8. -/
def runArguments? (arguments : List Bytes) (d : Disk) (t : Toolkit := {})
    (width : Option Nat := none) : Option Report :=
  (wordsOf? arguments).map (run · d t width)

/-! ## Examples -/

example : CommandCall.ofWords ["--page", "-nX", "--dialog", "--config=c.json"]
    = .order ⟨"X", [.page, .dialog], none, none, "c.json"⟩ := by decide
example : Call.ofWords ["-v", "add_route", "-h"] = .command true .help := by decide +kernel
example : Call.ofWords ["--", "-h"] = .help := by decide +kernel

end RouteGraft.CommandLine
