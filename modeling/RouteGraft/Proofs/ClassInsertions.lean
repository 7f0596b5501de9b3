import RouteGraft.Proofs.MapperOutcomes

/-!
# What becomes of a class or a member

All insertions but the entry of a mapper go by a class alone.  They are the same search with
different parameters (`Insertion.Site`): the classes that fit, the refusal if none does, the
offset in the class that is taken, and the text that goes there.

The class is the last one that fits, and nothing else can happen than that none fits or that
the text is put in at the offset of the last one (`classInsertion_outcomes`).
-/

namespace RouteGraft

/-! ## Classes that fit -/

namespace ClassOutline

variable {names : Names} {c : ClassOutline}

/-- A class that extends a type with a text in it, as the type is written. -/
def Extends (text : String) (c : ClassOutline) : Prop :=
  ∃ written, c.superclass = some written ∧ text.toList <:+: written.toList

/-- A class that implements a navigation service. -/
def IsService (names : Names) (c : ClassOutline) : Prop :=
  names.serviceName ∈ c.interfaces ∨ names.tabServiceName ∈ c.interfaces

/-- A class that extends the base class of a navigation service, by the plain name of the type
that it extends. -/
def IsServiceImpl (names : Names) (c : ClassOutline) : Prop :=
  c.superclassName = some (names.serviceName ++ names.implSuffix) ∨
    c.superclassName = some (names.tabServiceName ++ names.implSuffix)

theorem isService_iff :
    ClassTest.implementsAny names.serviceInterfaces c = true ↔ c.IsService names := by
  simp [ClassTest.implementsAny, Names.serviceInterfaces, IsService, or_and_right, exists_or,
    and_comm]

theorem isServiceImpl_iff :
    ClassTest.extendsOneOf names.serviceImplClasses c = true ↔ c.IsServiceImpl names := by
  unfold ClassTest.extendsOneOf IsServiceImpl
  cases c.superclassName <;> simp [Names.serviceImplClasses]

/-- A class that extends nothing extends no type with the empty text in it either. -/
theorem extends_empty : c.Extends "" ↔ c.superclass.isSome = true := by
  rw [Extends, Option.isSome_iff_exists]
  simp

end ClassOutline

namespace Insertion

/-! ## Sites -/

/-- Where an insertion goes by the classes of a source, and what is put in there. -/
structure Site where
  /-- The classes that fit. -/
  fits : ClassOutline → Prop
  /-- The refusal if no class does. -/
  refusal : NoPlace
  /-- The offset in a class. -/
  offset : ClassOutline → Int
  /-- What goes there. -/
  text : String

/-- In front of the closing brace of a class, on lines of its own. -/
def Site.inside (fragment : String) (fits : ClassOutline → Prop) : Site :=
  ⟨fits, .service, (·.closingBrace), "\n" ++ fragment ++ "\n"⟩

/-- The site of an insertion that goes by a class alone. -/
def site? (names : Names) : Insertion → Option Site
  | routeClass fragment baseClass =>
      some ⟨ClassOutline.Extends baseClass, .route, (·.span.stop), "\n\n" ++ fragment⟩
  | member fragment test => some (.inside fragment (test · = true))
  | serviceMethod fragment => some (.inside fragment (ClassOutline.IsService names))
  | serviceImplMethod fragment => some (.inside fragment (ClassOutline.IsServiceImpl names))
  | mapperEntry .. => none

section

variable {outliner : Outliner} {names : Names} {i : Insertion} {s : Site} {content : Bytes}
  {o : Outline}

/-- An insertion at a site goes to the anchor for a test of the classes that fit. -/
theorem plan_of_site (site : i.site? names = some s) (path : String) :
    ∃ (test : ClassTest) (note : ClassOutline → String), (∀ c, test c = true ↔ s.fits c) ∧
      ∀ o : Outline, i.plan names path o = match o.anchor? test with
        | none => .error s.refusal
        | some c => .ok ⟨s.offset c, s.text, note c⟩ := by
  cases i <;> cases site
  case routeClass => exact ⟨_, _, fun _ => ClassTest.extendsText_iff, fun _ => rfl⟩
  case member => exact ⟨_, _, fun _ => Iff.rfl, fun _ => rfl⟩
  case serviceMethod => exact ⟨_, _, fun _ => ClassOutline.isService_iff, fun _ => rfl⟩
  case serviceImplMethod => exact ⟨_, _, fun _ => ClassOutline.isServiceImpl_iff, fun _ => rfl⟩

/-- If no class fits the insertion is refused. -/
theorem insert_of_noneFits (site : i.site? names = some s) (read : outliner content = .ok o)
    (path : String) (none_ : ∀ c ∈ o.classes, ¬ s.fits c) :
    (insert outliner names path i content).2 = .error (.noPlace s.refusal path) := by
  obtain ⟨test, note, tests, planned⟩ := plan_of_site site path
  refine insert_of_noPlace read path ?_
  rw [planned, (Outline.noneOf_iff tests).1 none_]

/-- The last class that fits is the one that the text goes to. -/
theorem insert_of_lastFits (site : i.site? names = some s) (read : outliner content = .ok o)
    (path : String) {c : ClassOutline} (last : LastOf s.fits o.classes c) :
    (insert outliner names path i content).2 = putAt content (s.offset c) s.text := by
  obtain ⟨test, note, tests, planned⟩ := plan_of_site site path
  have edit : i.plan names path o = .ok ⟨s.offset c, s.text, note c⟩ := by
    rw [planned, (Outline.lastOf_iff tests).1 last]
  exact insert_of_edit read path edit

theorem putAt_eq_outside {k : Int} {text : String} {e : OffsetOutside} :
    putAt content k text = .error (.outside e) ↔
      ¬ (0 ≤ k ∧ k ≤ content.length) ∧ e = ⟨k, content.length⟩ := by
  unfold putAt
  split
  · next inside => simp [inside]
  · next outside => simp [outside, eq_comm]

/-- What becomes of an insertion that goes by a class, for every outline of its source.  It is
refused for want of a class, with its path, just if no class fits.  It is refused for its
offset just if the last class that fits puts it outside of the content.  And in all cases the
result is one of these two or the content with the text at the offset of the last class that
fits.

A class that extends nothing does not fit by what it extends, whatever text or names are
searched for. -/
theorem classInsertion_outcomes (site : i.site? names = some s) (read : outliner content = .ok o)
    (path : String) :
    let result := (insert outliner names path i content).2
    (∀ reason at_, result = .error (.noPlace reason at_) ↔
      reason = s.refusal ∧ at_ = path ∧ ∀ c ∈ o.classes, ¬ s.fits c) ∧
    (∀ e, result = .error (.outside e) ↔ ∃ c, LastOf s.fits o.classes c ∧
      ¬ (0 ≤ s.offset c ∧ s.offset c ≤ content.length) ∧ e = ⟨s.offset c, content.length⟩) ∧
    (∀ r, result = r ↔
      (∀ c ∈ o.classes, ¬ s.fits c) ∧ r = .error (.noPlace s.refusal path) ∨
        ∃ c, LastOf s.fits o.classes c ∧ r = putAt content (s.offset c) s.text) ∧
    ∀ c : ClassOutline, (c.superclass = none → ∀ text, ¬ c.Extends text) ∧
      (c.superclassName = none → ∀ names, ¬ c.IsServiceImpl names) := by
  intro result
  have all (r : Except InsertionError Bytes) : result = r ↔
      (∀ c ∈ o.classes, ¬ s.fits c) ∧ r = .error (.noPlace s.refusal path) ∨
        ∃ c, LastOf s.fits o.classes c ∧ r = putAt content (s.offset c) s.text := by
    constructor
    · rintro rfl
      rcases exists_lastOf s.fits o.classes with none_ | ⟨c, last⟩
      · exact .inl ⟨none_, insert_of_noneFits site read path none_⟩
      · exact .inr ⟨c, last, insert_of_lastFits site read path last⟩
    · rintro (⟨none_, rfl⟩ | ⟨c, last, rfl⟩)
      · exact insert_of_noneFits site read path none_
      · exact insert_of_lastFits site read path last
  refine ⟨fun reason at_ => ?noPlace, fun e => ?outside, all, fun c => ?absent⟩
  case noPlace =>
    rw [all]
    constructor
    · rintro (⟨none_, refused⟩ | ⟨c, last, refused⟩)
      · cases refused
        exact ⟨rfl, rfl, none_⟩
      · exact absurd refused.symm putAt_ne_noPlace
    · rintro ⟨rfl, rfl, none_⟩
      exact .inl ⟨none_, rfl⟩
  case outside =>
    rw [all]
    constructor
    · rintro (⟨-, refused⟩ | ⟨c, last, refused⟩)
      · cases refused
      · exact ⟨c, last, putAt_eq_outside.1 refused.symm⟩
    · rintro ⟨c, last, outside⟩
      exact .inr ⟨c, last, (putAt_eq_outside.2 outside).symm⟩
  case absent =>
    refine ⟨fun absent text => ?_, fun absent names => ?_⟩
    · simp [ClassOutline.Extends, absent]
    · simp [ClassOutline.IsServiceImpl, absent]

end

/-- A class that extends nothing behind one that extends a type, with offsets that are partly
outside of a short content. -/
def partlyExtending : Outline :=
  ⟨[⟨"A", ⟨0, 4⟩, some "Page<X>", some "Page", [], 20, []⟩, ⟨"B", ⟨4, 9⟩, none, none, [], 8, []⟩]⟩

theorem classInsertion_outcomes_emptyText :
    let outliner : Outliner := fun _ => .ok partlyExtending
    let content := Utf8.encode "0123456789"
    outliner content = .ok partlyExtending ∧
      (Insertion.routeClass "F" "").site? {}
        = some ⟨ClassOutline.Extends "", .route, (·.span.stop), "\n\nF"⟩ ∧
      (insert outliner {} "" (.routeClass "F" "") content).2
        = .ok (Utf8.encode "0123\n\nF456789") ∧
      (insert outliner {} "" (.member "F" (·.name = "A")) content).2
        = .error (.outside ⟨20, 10⟩) ∧
      (insert outliner {} "at" (.serviceImplMethod "F") content).2
        = .error (.noPlace .service "at") := by
  intro outliner content
  have read : outliner content = .ok partlyExtending := rfl
  refine ⟨read, rfl, ?_, ?_, ?_⟩
  · refine ((classInsertion_outcomes rfl read "").2.2.1 _).2 (.inr ?_)
    refine ⟨_, ⟨[], [_], rfl, ClassOutline.extends_empty.2 rfl, ?_⟩, rfl⟩
    simp [ClassOutline.extends_empty]
  · refine ((classInsertion_outcomes rfl read "").2.1 _).2 ?_
    exact ⟨_, ⟨[], [_], rfl, rfl, by simp [Site.inside]⟩, by decide, rfl⟩
  · refine ((classInsertion_outcomes rfl read "at").1 _ _).2 ⟨rfl, rfl, ?_⟩
    simp [ClassOutline.IsServiceImpl, partlyExtending, Site.inside]

end Insertion

end RouteGraft
