import RouteGraft.Path

/-!
# Disks

A disk has folders and files and nothing else: no links, no permissions and no
limit of space.  A *location* is the chain of names from an entry up to the
root, so locations are absolute and have no dots.  The root is always a folder.

A path is followed name by name from the root or the working folder
(`Disk.locate`).  Every name has to be looked up in a folder that is there, also
a double dot, which leads to the folder above.  Where the last name leads may
be missing, so a path that can be followed need not be a path of anything.

Names of more than 255 bytes are refused where they are looked up, and paths of
4096 bytes and more are refused as a whole.

Making a folder makes those above it as well where they are missing
(`Disk.makeFolders`), going by the names of the path.  What was made stays, also
if a later one is refused.
-/

namespace RouteGraft

/-! ## Entries -/

/-- The names from an entry up to the root, its own first. -/
abbrev Location := List String

/-- What there is at a location. -/
inductive Entry where
  | file (content : Bytes)
  | folder
  deriving DecidableEq, Repr

/-- The entries of a disk by location.  No location has two of them. -/
abbrev Entries := List (Location × Entry)

/-- The entry at a location. -/
def Entries.find? (l : Location) : Entries → Option Entry
  | [] => none
  | (k, e) :: rest => if k = l then some e else find? l rest

/-- The entries with another one at a location. -/
def Entries.put (l : Location) (e : Entry) : Entries → Entries
  | [] => [(l, e)]
  | (k, old) :: rest => if k = l then (l, e) :: rest else (k, old) :: put l e rest

theorem Entries.find?_put (l k : Location) (e : Entry) (es : Entries) :
    (es.put l e).find? k = if l = k then some e else es.find? k := by
  induction es with
  | nil => simp [put, find?]
  | cons entry rest ih =>
      obtain ⟨m, old⟩ := entry
      rw [put]
      split
      · next h => subst h; simp only [find?]; split <;> simp_all
      · next h =>
          simp only [find?, ih]
          by_cases hm : m = k
          · subst hm; simp [Ne.symm h]
          · simp [hm]

/-- A disk and the working folder on it. -/
structure Disk where
  /-- The working folder. -/
  here : Location
  /-- What there is below the root. -/
  entries : Entries
  deriving DecidableEq, Repr

/-- Why a disk refuses something. -/
inductive DiskFault where
  /-- There is nothing there. -/
  | missing
  /-- A folder is needed and there is a file. -/
  | notFolder
  /-- A file is needed and there is a folder. -/
  | isFolder
  /-- There is something there already. -/
  | taken
  /-- A name or the whole path is too long. -/
  | tooLong
  deriving DecidableEq, Repr

/-- The number of a fault. -/
def DiskFault.number : DiskFault → Nat
  | .missing => 2
  | .notFolder => 20
  | .isFolder => 21
  | .taken => 17
  | .tooLong => 36

/-- The wording of a fault. -/
def DiskFault.message : DiskFault → String
  | .missing => "No such file or directory"
  | .notFolder => "Not a directory"
  | .isFolder => "Is a directory"
  | .taken => "File exists"
  | .tooLong => "File name too long"

namespace Disk

/-- What there is at a location. -/
def find? (d : Disk) (l : Location) : Option Entry :=
  if l = [] then some .folder else d.entries.find? l

/-- The disk with an entry at a location. -/
def put (d : Disk) (l : Location) (e : Entry) : Disk := { d with entries := d.entries.put l e }

/-- Putting an entry at a location changes this location only. -/
theorem find?_put (d : Disk) {l : Location} (hl : l ≠ []) (e : Entry) (k : Location) :
    (d.put l e).find? k = if l = k then some e else d.find? k := by
  unfold find? put
  by_cases hk : k = []
  · subst hk; simp [hl]
  · simp [hk, Entries.find?_put]

/-! ## Following paths -/

/-- How many bytes a name may have. -/
def maxName : Nat := 255

/-- How many bytes a path may have. -/
def maxPath : Nat := 4095

/-- Where a name leads from a location, which has to be a folder. -/
def step (d : Disk) (l : Location) (name : String) : Except DiskFault Location :=
  match d.find? l with
  | none => .error .missing
  | some (.file _) => .error .notFolder
  | some .folder =>
      if name = Path.up then .ok l.tail
      else if maxName < Path.size name then .error .tooLong
      else .ok (name :: l)

/-- Where names lead from a location, one after the other. -/
def walk (d : Disk) (l : Location) : List String → Except DiskFault Location
  | [] => .ok l
  | name :: names =>
      match d.step l name with
      | .ok next => d.walk next names
      | .error f => .error f
termination_by structural names => names

/-- Where a path starts. -/
def start (d : Disk) (p : Path) : Location := if p.root = .relative then d.here else []

/-- Where a path leads. -/
def locate (d : Disk) (p : Path) : Except DiskFault Location :=
  if maxPath < Path.size p.text then .error .tooLong else d.walk (d.start p) p.names

/-! ## Files -/

/-- The content of the file at a path. -/
def content (d : Disk) (p : Path) : Except DiskFault Bytes :=
  match d.locate p with
  | .error f => .error f
  | .ok l =>
      match d.find? l with
      | none => .error .missing
      | some .folder => .error .isFolder
      | some (.file b) => .ok b

/-- The disk with a file at a path, in a folder that is there. -/
def putFile (d : Disk) (p : Path) (content : Bytes) : Except DiskFault Disk :=
  match d.locate p with
  | .error f => .error f
  | .ok l => if d.find? l = some .folder then .error .isFolder else .ok (d.put l (.file content))

/-! ## Folders -/

/-- Whether a path leads to a folder. -/
def hasFolder (d : Disk) (p : Path) : Bool :=
  match d.locate p with
  | .ok l => d.find? l = some .folder
  | .error _ => false

/-- The disk with a new folder at a path, in a folder that is there. -/
def newFolder (d : Disk) (p : Path) : Except DiskFault Disk :=
  match d.locate p with
  | .error f => .error f
  | .ok l => if (d.find? l).isSome then .error .taken else .ok (d.put l .folder)

/-- The disk with a folder at a path, be it a new one or one that is there. -/
def makeFolder (d : Disk) (p : Path) : Except DiskFault Disk :=
  match d.newFolder p with
  | .ok d => .ok d
  | .error f => if d.hasFolder p then .ok d else .error f

/-- A disk after something was done to it, and why it was not done to the end. -/
structure Change where
  /-- The disk. -/
  disk : Disk
  /-- The fault, if there is one. -/
  fault : Option DiskFault
  deriving DecidableEq, Repr

/-- The disk with a folder at a path, and with those above it where they are
missing.  `names` are the names of the path, the last one first. -/
def makeFoldersTo (d : Disk) (root : Root) : (names : List String) → Change
  | [] =>
      match d.makeFolder ⟨root, []⟩ with
      | .ok d => ⟨d, none⟩
      | .error f => ⟨d, some f⟩
  | name :: above =>
      let p : Path := ⟨root, (name :: above).reverse⟩
      match d.makeFolder p with
      | .ok d => ⟨d, none⟩
      | .error .missing =>
          let c := d.makeFoldersTo root above
          if c.fault.isSome then c
          else
            match c.disk.makeFolder p with
            | .ok d => ⟨d, none⟩
            | .error f => ⟨c.disk, some f⟩
      | .error f => ⟨d, some f⟩
termination_by structural names => names

/-- The disk with a folder at a path, and with those above it where they are
missing. -/
def makeFolders (d : Disk) (p : Path) : Change := d.makeFoldersTo p.root p.names.reverse

/-! ## Examples -/

/-- A small disk. -/
private def sample : Disk :=
  ⟨["work"], [(["work"], .folder), (["a", "work"], .file [1]), (["b", "work"], .folder)]⟩

example : sample.content ⟨.relative, ["b", "..", "a"]⟩ = .ok [1] := by rfl
example : sample.content ⟨.relative, ["c", "..", "a"]⟩ = .error .missing := by rfl
example : sample.content ⟨.absolute, ["work", "a", ".."]⟩ = .error .notFolder := by rfl
example : (sample.makeFolders ⟨.relative, ["c", "..", "d"]⟩).disk.entries.length = 5 := by
  decide +kernel

end Disk

end RouteGraft
