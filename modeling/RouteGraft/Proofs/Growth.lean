import Mathlib.Algebra.GroupWithZero.Nat
import RouteGraft.Insertion

/-!
# Sources only grow

Sources are changed step by step, and each step makes one insertion.  A step
may be given an outline that is wrong in any way: whatever it says, the step
either is refused and leaves the content alone, or puts one text in at one
offset.  That text is the fragment of the step, in one of the few shapes that
its kind of place asks for (`Insertion.pieces`).

A *graft* is such a text with its offset.  `Grown` ties the content behind a run
to the content before it by the grafts of its steps, in order.  All of the first
content is in the last one (`Grown.sublist`), the lengths add up
(`Grown.length_eq`), and cutting the grafts out again, the newest one first,
gives it back (`Grown.cut_all`).
-/

namespace RouteGraft

/-! ## Grafts -/

/-- A text that was put in at an offset. -/
structure Graft where
  /-- The offset. -/
  offset : Nat
  /-- The text. -/
  text : String
  deriving DecidableEq, Repr

namespace Graft

/-- The bytes that were put in. -/
def bytes (g : Graft) : Bytes := Utf8.encode g.text

/-- A content with the graft put in. -/
def apply (g : Graft) (content : Bytes) : Bytes :=
  content.take g.offset ++ g.bytes ++ content.drop g.offset

/-- A content with the range of the graft cut out. -/
def cut (g : Graft) (content : Bytes) : Bytes :=
  content.take g.offset ++ content.drop (g.offset + g.bytes.length)

theorem length_apply (g : Graft) (content : Bytes) :
    (g.apply content).length = content.length + g.bytes.length := by
  simp only [apply, List.length_append, List.length_take, List.length_drop]
  omega

theorem sublist_apply (g : Graft) (content : Bytes) : content.Sublist (g.apply content) := by
  have parts : (content.take g.offset ++ content.drop g.offset).Sublist (g.apply content) :=
    (List.sublist_append_left _ g.bytes).append (List.Sublist.refl _)
  rwa [List.take_append_drop] at parts

/-- Cutting undoes putting in. -/
theorem cut_apply {g : Graft} {content : Bytes} (inside : g.offset ≤ content.length) :
    g.cut (g.apply content) = content := by
  have front : (content.take g.offset).length = g.offset := List.length_take_of_le inside
  have through : (content.take g.offset ++ g.bytes).length = g.offset + g.bytes.length := by
    rw [List.length_append, front]
  calc g.cut (g.apply content)
      = content.take g.offset ++ content.drop g.offset := by
        rw [cut, apply, List.drop_left' through, List.append_assoc, List.take_left' front]
    _ = content := List.take_append_drop ..

end Graft

/-! ## The texts of an insertion -/

/-- The shapes of a fragment at the end of a list. -/
def listPieces (fragment : String) : List String := [fragment ++ "\n", ", " ++ fragment]

/-- The texts an insertion may put in: its fragment in the shapes that go with
its kind of place. -/
def Insertion.pieces : Insertion → List String
  | routeClass fragment _ => ["\n\n" ++ fragment]
  | member fragment _ => ["\n" ++ fragment ++ "\n"]
  | serviceMethod fragment => ["\n" ++ fragment ++ "\n"]
  | serviceImplMethod fragment => ["\n" ++ fragment ++ "\n"]
  | mapperEntry addition entry _ => listPieces addition ++ listPieces entry

theorem ListLiteral.append_mem_pieces (list : ListLiteral) (fragment : String) :
    (list.append fragment).2 ∈ listPieces fragment := by
  rcases list.append_text fragment with h | h
  · simp [h, listPieces]
  · simp [h, listPieces]

namespace Insertion

theorem planMember_text {fragment : String} {test : ClassTest} {path : String} {o : Outline}
    {edit : Edit} (h : planMember fragment test path o = .ok edit) :
    edit.text = "\n" ++ fragment ++ "\n" := by
  unfold planMember at h
  split at h
  · cases h
  · cases h
    rfl

theorem planMapperEntry_text {names : Names} {addition entry typeName path : String}
    {o : Outline} {edit : Edit}
    (h : planMapperEntry names addition entry typeName path o = .ok edit) :
    edit.text ∈ listPieces addition ++ listPieces entry := by
  unfold planMapperEntry at h
  split at h
  · cases h
  · split at h
    · cases h
    · split at h
      · cases h
        exact List.mem_append_right _ (ListLiteral.append_mem_pieces _ _)
      · cases h
        exact List.mem_append_left _ (ListLiteral.append_mem_pieces _ _)

/-- Whatever the outline, the text of a planned edit has a shape of its insertion. -/
theorem plan_text {names : Names} {path : String} {o : Outline} {i : Insertion} {edit : Edit}
    (h : i.plan names path o = .ok edit) : edit.text ∈ i.pieces := by
  cases i with
  | routeClass fragment baseClass =>
      simp only [plan, planRouteClass] at h
      split at h
      · cases h
      · cases h
        exact List.mem_singleton.2 rfl
  | member fragment test => exact List.mem_singleton.2 (planMember_text h)
  | serviceMethod fragment => exact List.mem_singleton.2 (planMember_text h)
  | serviceImplMethod fragment => exact List.mem_singleton.2 (planMember_text h)
  | mapperEntry addition entry typeName => exact planMapperEntry_text h

end Insertion

/-- An edit that is made is a graft inside of the content. -/
theorem Edit.apply_eq_graft {edit : Edit} {content result : Bytes}
    (h : edit.apply content = .ok result) :
    edit.offset.toNat ≤ content.length ∧
      result = (Graft.mk edit.offset.toNat edit.text).apply content := by
  obtain ⟨positive, inside, rfl⟩ := splice_ok h
  exact ⟨by omega, rfl⟩

/-! ## Steps -/

/-- An insertion with all that it depends on besides the content. -/
structure Step where
  /-- Draws up the outline. -/
  outliner : Outliner
  /-- The names to look for. -/
  names : Names
  /-- The path of the source. -/
  path : String
  /-- What is inserted. -/
  insertion : Insertion

namespace Step

/-- What comes of a step. -/
def result (s : Step) (content : Bytes) : Except InsertionError Bytes :=
  (insert s.outliner s.names s.path s.insertion content).2

/-- The content behind a step.  A step that is refused changes nothing. -/
def after (s : Step) (content : Bytes) : Bytes :=
  match s.result content with
  | .ok changed => changed
  | .error _ => content

/-- The content behind some steps. -/
def run (steps : List Step) (content : Bytes) : Bytes :=
  steps.foldl (fun content s => s.after content) content

/-- A step that is not refused puts one of the texts of its insertion in. -/
theorem result_eq_graft {s : Step} {content changed : Bytes}
    (h : s.result content = .ok changed) :
    ∃ g : Graft, g.offset ≤ content.length ∧ g.text ∈ s.insertion.pieces ∧
      changed = g.apply content := by
  obtain ⟨o, edit, -, planned, applied⟩ := insert_eq_ok.1 h
  obtain ⟨inside, rfl⟩ := Edit.apply_eq_graft applied
  exact ⟨⟨edit.offset.toNat, edit.text⟩, inside, Insertion.plan_text planned, rfl⟩

end Step

/-! ## Runs -/

/-- How a content comes from another by some steps: a step that is refused adds
nothing, and any other step adds one graft. -/
inductive Grown : Bytes → List Step → List Graft → Bytes → Prop
  | done {content : Bytes} : Grown content [] [] content
  | refused {content last : Bytes} {s : Step} {steps : List Step} {grafts : List Graft}
      {e : InsertionError} :
      s.result content = .error e → Grown content steps grafts last →
        Grown content (s :: steps) grafts last
  | grafted {content last : Bytes} {s : Step} {steps : List Step} {g : Graft}
      {grafts : List Graft} :
      s.result content = .ok (g.apply content) → g.offset ≤ content.length →
        g.text ∈ s.insertion.pieces → Grown (g.apply content) steps grafts last →
          Grown content (s :: steps) (g :: grafts) last

namespace Grown

variable {content last : Bytes} {steps : List Step} {grafts : List Graft}

theorem sublist (h : Grown content steps grafts last) : content.Sublist last := by
  induction h with
  | done => exact List.Sublist.refl _
  | refused _ _ ih => exact ih
  | grafted _ _ _ _ ih => exact (Graft.sublist_apply _ _).trans ih

theorem length_eq (h : Grown content steps grafts last) :
    last.length = content.length + (grafts.map (·.bytes.length)).sum := by
  induction h with
  | done => rfl
  | refused _ _ ih => exact ih
  | grafted _ _ _ _ ih =>
      rw [ih, Graft.length_apply, List.map_cons, List.sum_cons]
      omega

/-- Cutting all grafts out, the newest first, gives the first content back. -/
theorem cut_all (h : Grown content steps grafts last) : grafts.foldr Graft.cut last = content := by
  induction h with
  | done => rfl
  | refused _ _ ih => exact ih
  | grafted _ inside _ _ ih => rw [List.foldr_cons, ih, Graft.cut_apply inside]

end Grown

/-- Every run grows its content by the grafts of its steps. -/
theorem grown_run (steps : List Step) (content : Bytes) :
    ∃ grafts, Grown content steps grafts (Step.run steps content) := by
  induction steps generalizing content with
  | nil => exact ⟨[], .done⟩
  | cons s steps ih =>
      obtain ⟨grafts, later⟩ := ih (s.after content)
      rw [Step.run, List.foldl_cons]
      cases h : s.result content with
      | error e =>
          have same : s.after content = content := by rw [Step.after, h]
          rw [same] at later ⊢
          exact ⟨grafts, .refused h later⟩
      | ok changed =>
          have moved : s.after content = changed := by rw [Step.after, h]
          obtain ⟨g, inside, shape, rfl⟩ := Step.result_eq_graft h
          rw [moved] at later ⊢
          exact ⟨g :: grafts, .grafted h inside shape later⟩

/-- Whatever the steps of a run are told about their sources, the run only adds
grafts: each step is refused or puts one text of its insertion in, all of the
first content is still there in order, the lengths add up, and cutting the grafts
out, the newest first, gives the first content back. -/
theorem run_only_adds (steps : List Step) (content : Bytes) :
    ∃ grafts, Grown content steps grafts (Step.run steps content) ∧
      content.Sublist (Step.run steps content) ∧
      (Step.run steps content).length
        = content.length + (grafts.map (·.bytes.length)).sum ∧
      grafts.foldr Graft.cut (Step.run steps content) = content := by
  obtain ⟨grafts, grown⟩ := grown_run steps content
  exact ⟨grafts, grown, grown.sublist, grown.length_eq, grown.cut_all⟩

end RouteGraft
