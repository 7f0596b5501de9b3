import RouteGraft.Proofs.Failures

/-!
# Writing sources

A disk is a *tree* if everything on it stands in a folder and the working folder is one.
Writing a source makes the folders that are missing on the way and then puts the file there.
Both keep a disk a tree, and neither takes anything away.

While folders are made a disk *grows*: what was there stays as it is, and what is new are
folders on the way of a path (`Disk.Grown`).  A path that can be followed leads to the same
place on a disk that has grown, since only what was missing can have become something else
(`Disk.locate_of_folders`).  This is also why a double dot behind a missing name works: the
name is made a folder first, and the double dot leads out of it again.

Whether a write succeeds or not, at most folders on the way to the source are new besides the
source itself (`Source.write_outcome`).  If it fails no file is touched.  If it succeeds the
content is read back under every path that is understood in the same way.  Reading gives no
disk, so it cannot change one.
-/

namespace RouteGraft

namespace Disk

variable {d d' d'' : Disk} {p : Path} {l : Location}

/-! ## Trees -/

/-- A disk on which everything stands in a folder, with a working folder. -/
structure IsTree (d : Disk) : Prop where
  here : d.find? d.here = some .folder
  above : ∀ name l e, d.find? (name :: l) = some e → d.find? l = some .folder

theorem mem_of_find? {es : Entries} {e : Entry} (found : es.find? l = some e) : (l, e) ∈ es := by
  induction es with
  | nil => cases found
  | cons entry rest ih =>
      obtain ⟨k, other⟩ := entry
      rw [Entries.find?] at found
      split at found
      · next same =>
          cases found
          exact same ▸ List.mem_cons_self
      · exact List.mem_cons_of_mem _ (ih found)

/-- Going through the entries of a disk is enough to know that it is a tree. -/
theorem IsTree.of_entries (here : d.find? d.here = some .folder)
    (above : ∀ entry ∈ d.entries, d.find? entry.1.tail = some .folder) : d.IsTree := by
  refine ⟨here, fun name l e found => ?_⟩
  rw [find?, if_neg (List.cons_ne_nil _ _)] at found
  exact above (name :: l, e) (mem_of_find? found)

theorem IsTree.start (tree : d.IsTree) (p : Path) : d.find? (d.start p) = some .folder := by
  unfold Disk.start
  split
  · exact tree.here
  · rfl

/-- Above everything there is a folder, also above the root, which is its own. -/
theorem IsTree.tail (tree : d.IsTree) {e : Entry} (found : d.find? l = some e) :
    d.find? l.tail = some .folder := by
  cases l with
  | nil => rfl
  | cons name above => exact tree.above name above e found

/-- An entry that is put into a folder, in the place of a file or where there is nothing. -/
theorem IsTree.put (tree : d.IsTree) {name : String} {above : Location} {e : Entry}
    (inFolder : d.find? above = some .folder) (noFolder : d.find? (name :: above) ≠ some .folder) :
    (d.put (name :: above) e).IsTree := by
  have kept {k : Location} (folder : d.find? k = some .folder) :
      (d.put (name :: above) e).find? k = some .folder := by
    rw [find?_put d (List.cons_ne_nil _ _), if_neg]
    · exact folder
    · rintro rfl
      exact noFolder folder
  refine ⟨kept tree.here, fun name' l e' found => ?_⟩
  rw [find?_put d (List.cons_ne_nil _ _)] at found
  split at found
  · next same =>
      cases same
      exact kept inFolder
  · exact kept (tree.above name' l e' found)

/-! ## Paths on disks with more folders -/

theorem walk_of_folders (folders : ∀ k, d.find? k = some .folder → d'.find? k = some .folder)
    {names : List String} {k : Location} (walked : d.walk l names = .ok k) :
    d'.walk l names = .ok k := by
  induction names generalizing l with
  | nil => exact walked
  | cons name names ih =>
      rw [walk] at walked ⊢
      split at walked
      · next next_ stepped =>
          have folder := folder_of_step stepped
          have stepped' : d'.step l name = .ok next_ := by
            rw [← stepped, step, step, folder, folders l folder]
          rw [stepped']
          exact ih walked
      · cases walked

/-- Where folders stay folders, a path that can be followed leads to the same place. -/
theorem locate_of_folders (here : d'.here = d.here)
    (folders : ∀ k, d.find? k = some .folder → d'.find? k = some .folder)
    (located : d.locate p = .ok l) : d'.locate p = .ok l := by
  unfold locate at located ⊢
  split at located
  · cases located
  · next short =>
      rw [if_neg short, start, here]
      exact walk_of_folders folders located

/-- On a tree a path that leads to something that is missing, or to a file, ends with a name
in a folder. -/
theorem IsTree.folder_above (tree : d.IsTree) (located : d.locate p = .ok l)
    (noFolder : d.find? l ≠ some .folder) :
    ∃ front name above, p.names = front ++ [name] ∧ l = name :: above ∧
      d.find? above = some .folder := by
  unfold locate at located
  split at located
  · cases located
  · rcases List.eq_nil_or_concat' p.names with none_ | ⟨front, name, names⟩
    · rw [none_] at located
      cases located
      exact absurd (tree.start p) noFolder
    · rw [names, walk_append] at located
      split at located
      · next above walked =>
          simp only [walk] at located
          split at located
          · next stepped =>
              cases located
              have folder := folder_of_step stepped
              simp only [step, folder] at stepped
              split at stepped
              · cases stepped
                exact absurd (tree.tail folder) noFolder
              · split at stepped
                · cases stepped
                · cases stepped
                  exact ⟨front, name, above, names, rfl, folder⟩
          · cases located
      · cases located

/-! ## Folders on the way -/

/-- A location that a path takes on its way: some of its names, from the first one on, lead
there, and it has the last one of them. -/
def OnWay (d : Disk) (p : Path) (l : Location) : Prop :=
  ∃ front name above, front ++ [name] <+: p.names ∧ l = name :: above ∧
    d.locate ⟨p.root, front ++ [name]⟩ = .ok l

theorem OnWay.of_folders (h : d.OnWay p l) (here : d'.here = d.here)
    (folders : ∀ k, d.find? k = some .folder → d'.find? k = some .folder) : d'.OnWay p l := by
  obtain ⟨front, name, above, names, shape, located⟩ := h
  exact ⟨front, name, above, names, shape, locate_of_folders here folders located⟩

/-- A disk to which at most folders have been added, on the way of a path. -/
structure Grown (p : Path) (d d' : Disk) : Prop where
  here : d'.here = d.here
  kept : ∀ l e, d.find? l = some e → d'.find? l = some e
  new : ∀ l, d.find? l = none → d'.find? l = none ∨ d'.find? l = some .folder ∧ d'.OnWay p l

namespace Grown

theorem refl (p : Path) (d : Disk) : Grown p d d :=
  ⟨rfl, fun _ _ found => found, fun _ missing => .inl missing⟩

theorem folders (h : Grown p d d') (k : Location) (folder : d.find? k = some .folder) :
    d'.find? k = some .folder := h.kept k .folder folder

theorem trans (h : Grown p d d') (h' : Grown p d' d'') : Grown p d d'' where
  here := h'.here.trans h.here
  kept l e found := h'.kept l e (h.kept l e found)
  new l missing := by
    rcases h.new l missing with missing' | ⟨folder, onWay⟩
    · exact h'.new l missing'
    · exact .inr ⟨h'.folders l folder, onWay.of_folders h'.here h'.folders⟩

/-- What is on the way of the first names of a path is on the way of the path. -/
theorem of_prefix {root : Root} {names more : List String} (h : Grown ⟨root, names⟩ d d') :
    Grown ⟨root, names ++ more⟩ d d' where
  here := h.here
  kept := h.kept
  new l missing := by
    rcases h.new l missing with missing' | ⟨folder, front, name, above, names', shape, located⟩
    · exact .inl missing'
    · exact .inr ⟨folder, front, name, above, names'.trans (List.prefix_append _ _), shape, located⟩

/-- There are the same files as before. -/
theorem file_iff (h : Grown p d d') {content : Bytes} :
    d'.find? l = some (.file content) ↔ d.find? l = some (.file content) := by
  refine ⟨fun found => ?_, h.kept l _⟩
  cases before : d.find? l with
  | some e => rw [← h.kept l e before, found]
  | none =>
      rcases h.new l before with missing | ⟨folder, -⟩
      · rw [missing] at found
        cases found
      · rw [folder] at found
        cases found

end Grown

/-! ## Making folders -/

/-- A folder that is made at a path was there or is new. -/
theorem makeFolder_cases (made : d.makeFolder p = .ok d') :
    d' = d ∨ ∃ l, d.locate p = .ok l ∧ d.find? l = none ∧ d' = d.put l .folder := by
  unfold makeFolder at made
  split at made
  · next new =>
      cases made
      unfold newFolder at new
      split at new
      · cases new
      · next l located =>
          split at new
          · cases new
          · next missing =>
              cases new
              exact .inr ⟨l, located, by simpa using missing, rfl⟩
  · split at made
    · cases made
      exact .inl rfl
    · cases made

/-- Making one folder keeps a tree and adds at most that folder. -/
theorem IsTree.makeFolder (tree : d.IsTree) (made : d.makeFolder p = .ok d') :
    d'.IsTree ∧ Grown p d d' := by
  rcases makeFolder_cases made with rfl | ⟨l, located, missing, rfl⟩
  · exact ⟨tree, .refl p d'⟩
  · have noFolder : d.find? l ≠ some .folder := by simp [missing]
    obtain ⟨front, name, above, names, rfl, inFolder⟩ := tree.folder_above located noFolder
    have kept (k : Location) (e : Entry) (found : d.find? k = some e) :
        (d.put (name :: above) .folder).find? k = some e := by
      rw [find?_put d (List.cons_ne_nil _ _), if_neg]
      · exact found
      · rintro rfl
        rw [missing] at found
        cases found
    refine ⟨tree.put inFolder noFolder, rfl, kept, fun k missing' => ?_⟩
    rw [find?_put d (List.cons_ne_nil _ _)]
    split
    · next same =>
        subst same
        refine .inr ⟨rfl, front, name, above, names ▸ List.prefix_refl _, rfl, ?_⟩
        exact locate_of_folders (d := d) rfl (fun k => kept k .folder) (names ▸ located)
    · exact .inl missing'

/-- Making folders keeps a tree and adds at most folders on the way, also where it stops
halfway. -/
theorem IsTree.makeFoldersTo (tree : d.IsTree) (root : Root) (names : List String) :
    (d.makeFoldersTo root names).disk.IsTree ∧
      Grown ⟨root, names.reverse⟩ d (d.makeFoldersTo root names).disk := by
  induction names with
  | nil =>
      rw [Disk.makeFoldersTo]
      split
      · next made => exact tree.makeFolder made
      · exact ⟨tree, .refl _ d⟩
  | cons name above ih =>
      obtain ⟨treeAbove, grown⟩ := ih
      have grown : Grown ⟨root, (name :: above).reverse⟩ d (d.makeFoldersTo root above).disk := by
        rw [List.reverse_cons]
        exact grown.of_prefix
      rw [Disk.makeFoldersTo]
      dsimp only
      split
      · next made => exact tree.makeFolder made
      · -- the folders above are made first, and then this one
        split
        · exact ⟨treeAbove, grown⟩
        · split
          · next made =>
              obtain ⟨treeMade, grown'⟩ := treeAbove.makeFolder made
              exact ⟨treeMade, grown.trans grown'⟩
          · exact ⟨treeAbove, grown⟩
      · exact ⟨tree, .refl _ d⟩

theorem IsTree.makeFolders (tree : d.IsTree) (p : Path) :
    (d.makeFolders p).disk.IsTree ∧ Grown p d (d.makeFolders p).disk := by
  have made := tree.makeFoldersTo p.root p.names.reverse
  rwa [List.reverse_reverse] at made

/-! ## Putting files -/

theorem putFile_eq_ok {content : Bytes} (put : d.putFile p content = .ok d') :
    ∃ l, d.locate p = .ok l ∧ d.find? l ≠ some .folder ∧ d' = d.put l (.file content) := by
  unfold putFile at put
  split at put
  · cases put
  · next l located =>
      split at put
      · cases put
      · next noFolder =>
          cases put
          exact ⟨l, located, noFolder, rfl⟩

/-- A file that was put at a path is there, and nothing else has changed. -/
theorem IsTree.putFile (tree : d.IsTree) {content : Bytes}
    (put : d.putFile p content = .ok d') :
    d'.IsTree ∧ d'.here = d.here ∧ ∃ l, d'.Holds p l content ∧ d.find? l ≠ some .folder ∧
      ∀ k, k ≠ l → d'.find? k = d.find? k := by
  obtain ⟨l, located, noFolder, rfl⟩ := putFile_eq_ok put
  obtain ⟨front, name, above, names, rfl, inFolder⟩ := tree.folder_above located noFolder
  have others (k : Location) (other : k ≠ name :: above) :
      (d.put (name :: above) (.file content)).find? k = d.find? k := by
    rw [find?_put d (List.cons_ne_nil _ _), if_neg (Ne.symm other)]
  have folders (k : Location) (folder : d.find? k = some .folder) :
      (d.put (name :: above) (.file content)).find? k = some .folder := by
    rw [others k, folder]
    rintro rfl
    exact noFolder folder
  refine ⟨tree.put inFolder noFolder, rfl, name :: above, ⟨?_, ?_⟩, noFolder, others⟩
  · exact locate_of_folders (d := d) rfl folders located
  · rw [find?_put d (List.cons_ne_nil _ _), if_pos rfl]

end Disk

/-! ## Writing -/

namespace Source

variable {d : Disk}

/-- What writing a source comes to: the folders are made, and then the file is put there, if
nothing is in the way. -/
theorem write_cases (d : Disk) (path : String) (content : Bytes) :
    let p := Path.ofText path
    (∃ d', (d.makeFolders p.parent).disk.putFile p content = .ok d' ∧ p.hasNul = false ∧
      (write d path content).disk = d' ∧ (write d path content).error = none) ∨
    ∃ e, (write d path content).error = some e ∧
      ((write d path content).disk = d ∨
        (write d path content).disk = (d.makeFolders p.parent).disk) ∧
      ((∃ f, e = .unwritable path f) ∨ e = .nul ∧ p.hasNul = true) := by
  intro p
  unfold write
  dsimp only
  split
  · next nul =>
      refine .inr ⟨.nul, rfl, .inl rfl, .inr ⟨rfl, ?_⟩⟩
      rw [← Bool.not_eq_false]
      intro none_
      rw [hasNul_parent none_] at nul
      cases nul
  · split
    · next f _ => exact .inr ⟨.unwritable path f, rfl, .inr rfl, .inl ⟨f, rfl⟩⟩
    · split
      · next nul => exact .inr ⟨.nul, rfl, .inr rfl, .inr ⟨rfl, nul⟩⟩
      · next noNul =>
          split
          · next f _ => exact .inr ⟨.unwritable path f, rfl, .inr rfl, .inl ⟨f, rfl⟩⟩
          · next d' put => exact .inl ⟨d', put, by simpa using noNul, rfl, rfl⟩

/-- What becomes of a disk on which a source is written.

If this succeeds, the path leads to a file with the content, and the content is read under
every path that is understood in the same way.  Where the file is now there was none or
another file.  Everything else that was there is as it was, and what is new are folders on the
way to the file.

If it fails, the error says that the path cannot be written, unless the path has a NUL in it.
What was there is as it was, there are no other files than before, and what is new are folders
on the way. -/
theorem write_outcome (tree : d.IsTree) (path : String) (content : Bytes) :
    let after := write d path content
    let p := Path.ofText path
    after.disk.IsTree ∧
    (after.error = none → ∃ l, after.disk.Holds p l content ∧ d.find? l ≠ some .folder ∧
      (∀ q, Path.ofText q = p → read after.disk q = .ok content) ∧
      (∀ k, k ≠ l → ∀ e, d.find? k = some e → after.disk.find? k = some e) ∧
      ∀ k, k ≠ l → d.find? k = none → after.disk.find? k = none ∨
        after.disk.find? k = some .folder ∧ after.disk.OnWay p.parent k) ∧
    ∀ e, after.error = some e →
      ((∃ f, e = .unwritable path f) ∧ ("Can't write " ++ path).toList <+: e.message.toList ∨
        e = .nul ∧ '\x00' ∈ path.toList) ∧
      (∀ k e, d.find? k = some e → after.disk.find? k = some e) ∧
      (∀ k bytes, after.disk.find? k = some (.file bytes) ↔ d.find? k = some (.file bytes)) ∧
      ∀ k, d.find? k = none → after.disk.find? k = none ∨
        after.disk.find? k = some .folder ∧ after.disk.OnWay p.parent k := by
  intro after p
  obtain ⟨treeMade, grown⟩ := tree.makeFolders p.parent
  rcases write_cases d path content with
    ⟨d', put, noNul, disk, noError⟩ | ⟨e, error, disk, cause⟩
  · obtain ⟨treePut, here, l, held, noFolder, others⟩ := treeMade.putFile put
    have folders (k : Location) (folder : (d.makeFolders p.parent).disk.find? k = some .folder) :
        d'.find? k = some .folder := by
      rw [others k, folder]
      rintro rfl
      exact noFolder folder
    refine ⟨disk ▸ treePut, fun _ => ?_, fun e error => ?_⟩
    · refine ⟨l, disk ▸ held, fun folder => noFolder (grown.folders l folder), fun q same => ?_,
        fun k other e found => ?_, fun k other missing => ?_⟩
      · exact read_eq_ok.2 ⟨same ▸ noNul, l, by rw [same]; exact disk ▸ held⟩
      · rw [disk, others k other, grown.kept k e found]
      · rw [disk, others k other]
        rcases grown.new k missing with missing' | ⟨folder, onWay⟩
        · exact .inl missing'
        · exact .inr ⟨folder, onWay.of_folders here folders⟩
    · cases noError.symm.trans error
  · have grownAfter : Disk.Grown p.parent d after.disk := by
      rcases disk with same | made
      · rw [show after.disk = d from same]
        exact .refl _ d
      · rw [show after.disk = (d.makeFolders p.parent).disk from made]
        exact grown
    have treeAfter : after.disk.IsTree := by
      rcases disk with same | made
      · exact same ▸ tree
      · exact made ▸ treeMade
    refine ⟨treeAfter, fun noError => ?_, fun e' error' => ?_⟩
    · cases noError.symm.trans error
    · cases error.symm.trans error'
      refine ⟨?_, grownAfter.kept, fun k bytes => grownAfter.file_iff, grownAfter.new⟩
      rcases cause with ⟨f, rfl⟩ | ⟨rfl, nul⟩
      · have message : (SourceError.unwritable path f).message
            = ("Can't write " ++ path) ++ (": " ++ f.message) := String.append_assoc
        refine .inl ⟨⟨f, rfl⟩, (": " ++ f.message).toList, ?_⟩
        rw [message]
        exact String.toList_append.symm
      · exact .inr ⟨rfl, Path.hasNul_ofText.1 nul⟩

/-! ## A write through a folder that is missing -/

/-- A disk with a folder and a file in it. -/
def oneFolder : Disk :=
  ⟨["app"], [(["app"], .folder), (["lib", "app"], .folder), (["logo", "lib", "app"], .file [1])]⟩

theorem isTree_oneFolder : oneFolder.IsTree := .of_entries (by decide) (by decide)

/-- A source is written behind a missing folder and a double dot, which makes the folder, and is
read with other slashes and dots; another one cannot be written, since there is a file on its
way. -/
theorem write_outcome_dots :
    let after := write oneFolder "new/../lib//nav.dart" [7]
    let refused := write oneFolder "lib/logo/nav.dart" [7]
    oneFolder.IsTree ∧ after.error = none ∧
      read after.disk "./new/../lib/nav.dart" = .ok [7] ∧
      after.disk.find? ["new", "app"] = some .folder ∧
      refused.error = some (.unwritable "lib/logo/nav.dart" .taken) ∧
      refused.disk.find? ["logo", "lib", "app"] = some (.file [1]) := by
  intro after refused
  have success : after.error = none := by decide +kernel
  have failure : refused.error = some (.unwritable "lib/logo/nav.dart" .taken) := by
    decide +kernel
  obtain ⟨-, written, -⟩ := write_outcome isTree_oneFolder "new/../lib//nav.dart" [7]
  obtain ⟨-, -, unwritten⟩ := write_outcome isTree_oneFolder "lib/logo/nav.dart" [7]
  obtain ⟨-, -, -, same, -⟩ := written success
  obtain ⟨-, -, files, -⟩ := unwritten _ failure
  exact ⟨isTree_oneFolder, success, same _ (by decide +kernel), by decide +kernel, failure,
    (files _ _).2 (by decide)⟩

end Source

end RouteGraft
