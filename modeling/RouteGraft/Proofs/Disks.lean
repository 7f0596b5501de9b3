import Mathlib.Data.List.Basic
import RouteGraft.Proofs.Characters
import RouteGraft.Source

/-!
# Files that are written back

A source is written to the path it was read from.  That path leads to a file, so it
can be followed to the end, and so can the path without its last name
(`Disk.locate_parent`).  Hence there is no folder to make, no fault to run into, and
all that changes is the content of the file (`Source.write_after_read`).

This takes a working folder that is not a file.  A disk is *settled* if that is so,
and writing a file that is there leaves it settled.
-/

namespace RouteGraft

/-! ## The text of a path -/

namespace Path

theorem size_append (s t : String) : size (s ++ t) = size s + size t := by
  rw [size, Utf8.encode_append, List.length_append, size, size]

theorem size_pos {s : String} (h : s ≠ "") : 0 < size s := by
  have positive := Utf8.size_pos h
  rw [Utf8.size] at positive
  rw [size]
  omega

/-- The names of a path that was read are not empty. -/
theorem ne_empty_of_mem_ofText {s name : String} (h : name ∈ (ofText s).names) : name ≠ "" := by
  simp only [ofText, List.mem_map, List.mem_filter] at h
  obtain ⟨part, ⟨-, isPart⟩, rfl⟩ := h
  intro empty
  have none : part = [] := by simpa using congrArg String.toList empty
  simp [isName, none] at isPart

/-- The text of a path does not get longer when its last name is dropped. -/
theorem size_parent_le {root : Root} {front : List String} {last : String} (h : last ≠ "") :
    size (Path.text ⟨root, front⟩) ≤ size (Path.text ⟨root, front ++ [last]⟩) := by
  have whole : Path.text ⟨root, front ++ [last]⟩
      = root.text ++ String.intercalate "/" (front ++ [last]) := by simp [text]
  rw [whole]
  cases front with
  | nil =>
      have dot : size "." = 1 := rfl
      have positive := size_pos h
      cases root with
      | relative =>
          simp [text, Root.text]
          omega
      | absolute => simp [text, size_append, Root.text]
      | twoSlashes => simp [text, size_append, Root.text]
  | cons name front =>
      rw [String.intercalate_append_of_ne_nil (List.cons_ne_nil _ _) (List.cons_ne_nil _ _)]
      simp [text, size_append]
      omega

end Path

/-! ## Files that are there -/

namespace Disk

variable {d : Disk} {p : Path} {l : Location}

/-- The working folder of a disk is not a file. -/
def Settled (d : Disk) : Prop := ∀ content, d.find? d.here ≠ some (.file content)

/-- A path that leads to a file with some content. -/
def Holds (d : Disk) (p : Path) (l : Location) (content : Bytes) : Prop :=
  d.locate p = .ok l ∧ d.find? l = some (.file content)

theorem content_eq_ok {content : Bytes} :
    d.content p = .ok content ↔ ∃ l, d.Holds p l content := by
  unfold Disk.content Holds
  cases located : d.locate p with
  | error f => simp
  | ok l =>
      cases found : d.find? l with
      | none => simp [found]
      | some entry => cases entry <;> simp [found]

theorem Holds.ne_root {content : Bytes} (h : d.Holds p l content) : l ≠ [] := by
  rintro rfl
  have root := h.2
  simp [find?] at root

/-- Putting a file where one was leaves a disk settled. -/
theorem Settled.put (h : d.Settled) {old new : Bytes} (held : d.Holds p l old) :
    (d.put l (.file new)).Settled := by
  intro content
  show (d.put l (.file new)).find? d.here ≠ some (.file content)
  rw [find?_put d held.ne_root]
  split
  · next same => exact absurd (same ▸ held.2) (h old)
  · exact h content

/-! ## The folder above a file -/

theorem walk_append (front back : List String) (l : Location) :
    d.walk l (front ++ back)
      = match d.walk l front with
        | .ok next => d.walk next back
        | .error f => .error f := by
  induction front generalizing l with
  | nil => rfl
  | cons name front ih =>
      rw [List.cons_append, walk, walk]
      cases d.step l name with
      | error f => rfl
      | ok next => exact ih next

/-- Names are only looked up in folders. -/
theorem folder_of_step {name : String} {next : Location} (h : d.step l name = .ok next) :
    d.find? l = some .folder := by
  unfold step at h
  split at h
  · cases h
  · cases h
  · assumption

/-- Without its last name a path that can be followed leads to a folder. -/
theorem locate_parent {root : Root} {front : List String} {last : String} (h : last ≠ "")
    (located : d.locate ⟨root, front ++ [last]⟩ = .ok l) :
    ∃ above, d.locate ⟨root, front⟩ = .ok above ∧ d.find? above = some .folder := by
  have shorter := @Path.size_parent_le root front last h
  unfold locate at located ⊢
  split at located
  · cases located
  · next short =>
      rw [if_neg (by omega)]
      rw [walk_append] at located
      show ∃ above, d.walk (d.start ⟨root, front ++ [last]⟩) front = .ok above ∧ _
      cases walked : d.walk (d.start ⟨root, front ++ [last]⟩) front with
      | error f => rw [walked] at located; cases located
      | ok above =>
          rw [walked] at located
          simp only [walk] at located
          split at located
          · next stepped => exact ⟨above, rfl, folder_of_step stepped⟩
          · cases located

/-- Of a path that leads to a file, the part above it leads to a folder. -/
theorem Holds.folder (settled : d.Settled) {content : Bytes} (h : d.Holds p l content)
    (named : ∀ name ∈ p.names, name ≠ "") :
    ∃ above, d.locate p.parent = .ok above ∧ d.find? above = some .folder := by
  obtain ⟨root, names⟩ := p
  rcases List.eq_nil_or_concat' names with rfl | ⟨front, last, rfl⟩
  · -- a path without names leads to the root or to the working folder
    obtain ⟨located, found⟩ := h
    unfold locate at located
    split at located
    · cases located
    · simp only [walk, Except.ok.injEq] at located
      subst located
      cases root with
      | relative => exact absurd found (settled content)
      | absolute => simp [Disk.start, find?] at found
      | twoSlashes => simp [Disk.start, find?] at found
  · have nonempty : last ≠ "" := named last (by simp)
    simpa [Path.parent] using locate_parent nonempty h.1

/-! ## Folders that are there -/

/-- There is nothing to make where a folder is. -/
theorem makeFolder_of_folder (located : d.locate p = .ok l) (h : d.find? l = some .folder) :
    d.makeFolder p = .ok d := by
  simp [makeFolder, newFolder, hasFolder, located, h]

theorem makeFolders_of_folder (located : d.locate p = .ok l) (h : d.find? l = some .folder) :
    d.makeFolders p = ⟨d, none⟩ := by
  have made := makeFolder_of_folder located h
  obtain ⟨root, names⟩ := p
  rcases List.eq_nil_or_concat' names with rfl | ⟨front, last, rfl⟩
  · simp [makeFolders, makeFoldersTo, made]
  · simp [makeFolders, makeFoldersTo, made]

end Disk

/-! ## Reading and writing back -/

namespace Source

variable {d : Disk} {path : String} {content : Bytes}

theorem read_eq_ok :
    read d path = .ok content ↔
      (Path.ofText path).hasNul = false ∧ ∃ l, d.Holds (Path.ofText path) l content := by
  rw [← Disk.content_eq_ok]
  cases legal : (Path.ofText path).hasNul with
  | true => simp [read, legal]
  | false =>
      cases found : d.content (Path.ofText path) with
      | ok b => simp [read, legal, found]
      | error f => cases f <;> simp [read, legal, found]

/-- The way up to a source has no NUL in it if the whole path has none. -/
theorem hasNul_parent {p : Path} (h : p.hasNul = false) : p.parent.hasNul = false := by
  simp only [Path.hasNul, List.any_eq_false] at h ⊢
  intro name hname
  exact h name (List.dropLast_subset _ hname)

/-- A source that was read can be written, which makes no folder and changes no other
file. -/
theorem write_after_read (settled : d.Settled) (h : read d path = .ok content) :
    ∃ l, d.Holds (Path.ofText path) l content ∧ ∀ changed,
      write d path changed
        = ⟨d.put l (.file changed), [.info ("Updated " ++ (Path.ofText path).text)], none⟩ := by
  obtain ⟨legal, l, held⟩ := read_eq_ok.1 h
  have named : ∀ name ∈ (Path.ofText path).names, name ≠ "" :=
    fun name hname => Path.ne_empty_of_mem_ofText hname
  obtain ⟨above, located, folder⟩ := held.folder settled named
  refine ⟨l, held, fun changed => ?_⟩
  have put : d.putFile (Path.ofText path) changed = .ok (d.put l (.file changed)) := by
    simp [Disk.putFile, held.1, held.2]
  simp [write, hasNul_parent legal, Disk.makeFolders_of_folder located folder, legal, put]

end Source

end RouteGraft
