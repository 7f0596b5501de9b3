/-!
# Log entries

What the program does is recorded as it goes.  Entries are values like any
other: a step gives the entries it wrote along with its result, in order.
-/

namespace RouteGraft

/-- How much an entry matters. -/
inductive Level where
  | debug
  | info
  | warning
  deriving DecidableEq, Repr

/-- The name of a level. -/
def Level.name : Level → String
  | .debug => "DEBUG"
  | .info => "INFO"
  | .warning => "WARNING"

/-- An entry of the log. -/
structure LogEntry where
  /-- How much it matters. -/
  level : Level
  /-- What it says. -/
  message : String
  deriving DecidableEq, Repr

/-- The entries written by a step. -/
abbrev Log := List LogEntry

/-- An entry about a detail. -/
def LogEntry.debug (message : String) : LogEntry := ⟨.debug, message⟩

/-- An entry about progress. -/
def LogEntry.info (message : String) : LogEntry := ⟨.info, message⟩

/-- An entry about something that may be wrong. -/
def LogEntry.warning (message : String) : LogEntry := ⟨.warning, message⟩

end RouteGraft
