import RouteGraft.Disk
import RouteGraft.Log

/-!
# Sources on disk

Sources are read and written as a whole.  An error names the path as it was
given, with the dots and slashes it came with, and so that it can be found by
it; the log names it as it was understood.

A path with a NUL in it is not even looked up.
-/

namespace RouteGraft

/-- Why a source cannot be read or written. -/
inductive SourceError where
  /-- There is nothing at the path. -/
  | notFound (path : String)
  /-- The disk refuses to read it. -/
  | unreadable (path : String) (fault : DiskFault)
  /-- The disk refuses to write it. -/
  | unwritable (path : String) (fault : DiskFault)
  /-- The path has a NUL in it. -/
  | nul
  deriving DecidableEq, Repr

/-- The wording for a path with a NUL in it. -/
def nulMessage : String := "embedded null byte"

/-- The wording of the error. -/
def SourceError.message : SourceError → String
  | .notFound path => "File not found: " ++ path
  | .unreadable path f => "Can't read " ++ path ++ ": " ++ f.message
  | .unwritable path f => "Can't write " ++ path ++ ": " ++ f.message
  | .nul => nulMessage

/-- What is left behind by something that was done on a disk. -/
structure Outcome (ε : Type) where
  /-- The disk. -/
  disk : Disk
  /-- What the log says. -/
  log : Log
  /-- The error, if it was not done to the end. -/
  error : Option ε

namespace Source

/-- The content of the source at a path. -/
def read (d : Disk) (path : String) : Except SourceError Bytes :=
  let p := Path.ofText path
  if p.hasNul then .error .nul
  else
    match d.content p with
    | .ok b => .ok b
    | .error .missing => .error (.notFound path)
    | .error f => .error (.unreadable path f)

/-- The disk with a content at a path.  The folders above it are made first where
they are missing. -/
def write (d : Disk) (path : String) (content : Bytes) : Outcome SourceError :=
  let p := Path.ofText path
  if p.parent.hasNul then ⟨d, [], some .nul⟩
  else
    let c := d.makeFolders p.parent
    match c.fault with
    | some f => ⟨c.disk, [], some (.unwritable path f)⟩
    | none =>
        if p.hasNul then ⟨c.disk, [], some .nul⟩
        else
          match c.disk.putFile p content with
          | .error f => ⟨c.disk, [], some (.unwritable path f)⟩
          | .ok d => ⟨d, [.info ("Updated " ++ p.text)], none⟩

end Source

end RouteGraft
