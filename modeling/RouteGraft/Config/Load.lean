import RouteGraft.Config
import RouteGraft.Source
import RouteGraft.Text.Quoted

/-!
# Configurations on disk

The configuration of an application is a file in its folder.  Errors name its
path as it was understood.
-/

namespace RouteGraft.Config

/-- Where the configuration is if nothing else is said. -/
def defaultPath : String := "mad_navigation.json"

/-- Why there is no configuration at a path. -/
inductive LoadError where
  /-- There is nothing at the path. -/
  | notFound (path : Path)
  /-- The disk refuses to read it. -/
  | unreadable (path : Path) (fault : DiskFault)
  /-- It is no configuration. -/
  | refused (path : Path) (refusal : Refusal)
  /-- The path has a NUL in it. -/
  | nul
  deriving DecidableEq, Repr

/-- The wording of the error. -/
def LoadError.message : LoadError → String
  | .notFound path => "Config file not found: " ++ path.text
  | .unreadable path f =>
      "Can't read config file " ++ path.text ++ ": [Errno " ++ toString f.number ++ "] "
        ++ f.message ++ ": " ++ Text.Quoted.encode path.text
  | .refused path r => r.message path.text
  | .nul => nulMessage

/-- The configuration at a path. -/
def load (d : Disk) (path : String) : Except LoadError Config :=
  let p := Path.ofText path
  if p.hasNul then .error .nul
  else
    match d.content p with
    | .error .missing => .error (.notFound p)
    | .error f => .error (.unreadable p f)
    | .ok b =>
        match read b with
        | .ok c => .ok c
        | .error r => .error (.refused p r)

/-- What the log says of a configuration that was loaded. -/
def loadedEntry (path : String) : LogEntry :=
  .debug ("Loaded config from " ++ (Path.ofText path).text)

end RouteGraft.Config
