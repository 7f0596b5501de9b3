import RouteGraft.CommandLine

/-!
# The program

The program itself works on a disk that is a value.  Here it is given the part
of the real disk that it can reach: what lies on the path of the configuration
and, if that can be loaded, on the paths that the configuration names.  What has
changed on it is written back.
-/

namespace RouteGraft

/-- The text of a location. -/
def locationText (l : Location) : String := "/" ++ String.intercalate "/" l.reverse

/-- What there is at a location of the real disk. -/
def lookUp (l : Location) : IO (Option Entry) := do
  let path := (← IO.currentDir) / locationText l
  if ← path.isDir then return some .folder
  if ← path.pathExists then return some (.file (← IO.FS.readBinFile path).toList)
  return none

/-- The disk with what there is on the way along some names, as far as there is
anything. -/
def gatherNames (d : Disk) (l : Location) : List String → IO Disk
  | [] => return d
  | name :: names => do
      let next := if name = Path.up then l.tail else name :: l
      match ← lookUp next with
      | none => return d
      | some e => gatherNames (if next = [] then d else d.put next e) next names

/-- The disk with what there is on the way along a path. -/
def gather (d : Disk) (path : String) : IO Disk := do
  let p := Path.ofText path
  if p.hasNul then return d
  gatherNames d (d.start p) p.names

/-- The part of the real disk that a call can reach. -/
def reachable (words : List String) : IO Disk := do
  let here := (Path.ofText (← IO.currentDir).toString).names
  let root : Disk := ⟨here.reverse, []⟩
  let d ← gatherNames root [] here
  match CommandLine.Call.ofWords words with
  | .command _ (.order o) => do
      let d ← gather d o.config
      match Config.load d o.config with
      | .error _ => return d
      | .ok c =>
          ([c.routesPath, c.routeMapperPath] ++ c.servicePath.toList
            ++ c.serviceImplPath.toList).foldlM gather d
  | _ => return d

/-- Writes what has changed to the real disk. -/
def store (before after : Disk) : IO Unit := do
  for (l, e) in after.entries do
    if before.find? l ≠ some e then
      match e with
      | .folder => IO.FS.createDirAll (locationText l)
      | .file content => IO.FS.writeBinFile (locationText l) ⟨content.toArray⟩

/-- The width of the console.  It is the one that `COLUMNS` asks for, or the one that consoles
have if they are no terminal. -/
def consoleWidth : IO Nat := do
  let columns := ((← IO.getEnv "COLUMNS").getD "").toList
  return if columns ≠ [] ∧ columns.all Char.isDigit then Console.digitsValue columns else 80

/-- Prints what a call leaves behind. -/
def printReport (r : CommandLine.Report) : IO Unit := do
  for e in r.log do
    IO.eprintln (e.level.name ++ " " ++ e.message)
  match r.ending.printed with
  | .help => IO.println CommandLine.usage
  | .text s => IO.print s
  match r.ending.escape with
  | none => return
  | some e => IO.eprintln e.message

end RouteGraft

/-- Runs the program. -/
def main (words : List String) : IO UInt32 := do
  let before ← RouteGraft.reachable words
  let width ← RouteGraft.consoleWidth
  let r := RouteGraft.CommandLine.run words before {} (some width)
  RouteGraft.store before r.disk
  RouteGraft.printReport r
  return UInt32.ofNat r.ending.code
