import RouteGraft.Proofs.Arrivals

/-!
# Methods in the order they came

The methods of routes are put into the two sources of the navigation service.  Each
goes to the end of the last class that is a service, right in front of its closing
brace.  A class does not stop being a service when it gets a member, and no other
class becomes one, so all methods go into the same class, behind the members it had
and in the order they came (`addMethods_of_anchor`).

Together with what is known of the classes of routes this says that insertions never
change the order of what was inserted before (`insertions_keep_order`).
-/

namespace RouteGraft

/-! ## Members and where they go -/

/-- The two sources of the navigation service. -/
inductive ServicePart where
  /-- The interface. -/
  | interface
  /-- The class that implements it. -/
  | implementation
  deriving DecidableEq, Repr

namespace ServicePart

/-- How a member is inserted. -/
def insertion (part : ServicePart) (fragment : String) : Insertion :=
  match part with
  | interface => .serviceMethod fragment
  | implementation => .serviceImplMethod fragment

/-- The classes that get members. -/
def test (part : ServicePart) (names : Names) : ClassTest :=
  match part with
  | interface => .implementsAny names.serviceInterfaces
  | implementation => .extendsOneOf names.serviceImplClasses

theorem plan_insertion (part : ServicePart) (names : Names) (path : String) (fragment : String)
    (o : Outline) : (part.insertion fragment).plan names path o
      = Insertion.planMember fragment (part.test names) path o := by
  cases part with
  | interface => rfl
  | implementation => rfl

/-- A class that is moved is a service if it was one. -/
theorem test_shift (part : ServicePart) (names : Names) (d : Int) (c : ClassOutline) :
    part.test names (c.shift d) = part.test names c := by
  cases part with
  | interface => rfl
  | implementation => rfl

/-- A class that gets members is a service if it was one. -/
theorem test_grow (part : ServicePart) (names : Names) (d : Int) (ms : List Member)
    (c : ClassOutline) : part.test names (c.grow d ms) = part.test names c := by
  cases part with
  | interface => rfl
  | implementation => rfl

end ServicePart

/-- A complete member of a class. -/
structure Method where
  /-- The member as a text. -/
  fragment : String
  /-- What it is read as at the start of a source. -/
  member : Member

namespace Method

variable (m : Method) (part : ServicePart)

/-- The member on lines of its own. -/
def text : String := "\n" ++ m.fragment ++ "\n"

/-- The bytes that are put in. -/
def bytes : Bytes := Utf8.encode m.text

/-- What the member is read as, where its lines are put in at an offset. -/
def placed (offset : Int) : Member := m.member.shift (offset + 1)

/-- The member as a declaration in front of the closing brace of a class. -/
def declaration : Declaration where
  insertion := part.insertion m.fragment
  text := m.text
  offset := fun c => c.closingBrace
  result := fun c => [c.grow m.bytes.length [m.placed c.closingBrace]]

/-- What members are read as that are put in one behind the other. -/
def allPlaced (offset : Int) : List Method → List Member
  | [] => []
  | m :: ms => m.placed offset :: allPlaced (offset + m.bytes.length) ms

/-- The bytes of members one behind the other. -/
def allBytes (ms : List Method) : Bytes := ms.flatMap bytes

end Method

/-! ## Runs -/

/-- The content with some members put in, one after the other. -/
def addMethods (outliner : Outliner) (names : Names) (path : String) (part : ServicePart)
    (ms : List Method) (content : Bytes) : Except InsertionError Bytes :=
  ms.foldlM (fun content m => ((m.declaration part).step outliner names path).result content)
    content

section Run

variable {outliner : Outliner} {names : Names} {path : String} {part : ServicePart}

/-- A member goes in front of the closing brace of the last class that is a service. -/
theorem Method.planned (names : Names) (path : String) (m : Method) {front back : List ClassOutline}
    {c : ClassOutline} (passes : part.test names c = true)
    (none : ∀ c' ∈ back, part.test names c' = false) :
    ∃ note, (m.declaration part).insertion.plan names path ⟨front ++ c :: back⟩
      = .ok ⟨(m.declaration part).offset c, (m.declaration part).text, note⟩ := by
  have anchor := Outline.anchor?_eq_some.2 ⟨front, back, rfl, passes, none⟩
  simp only [Method.declaration, part.plan_insertion, Insertion.planMember, anchor]
  exact ⟨_, rfl⟩

/-- The class gets the member as its last one. -/
theorem Method.exists_after {m : Method} {content : Bytes} {front back : List ClassOutline}
    {c : ClassOutline} (read : outliner content = .ok ⟨front ++ c :: back⟩)
    (passes : part.test names c = true) (none : ∀ c' ∈ back, part.test names c' = false)
    (inside : 0 ≤ c.closingBrace ∧ c.closingBrace ≤ content.length)
    (reread : (m.declaration part).IsReread outliner names path content) :
    ∃ after, ((m.declaration part).step outliner names path).result content = .ok after ∧
      after = content.take c.closingBrace.toNat ++ m.bytes
        ++ content.drop c.closingBrace.toNat ∧
      outliner after = .ok ⟨front ++ c.grow m.bytes.length [m.placed c.closingBrace]
        :: back.map (ClassOutline.shift m.bytes.length)⟩ := by
  obtain ⟨note, planned⟩ := m.planned names path passes none
  obtain ⟨after, done, readAfter, spliced⟩ := Declaration.exists_after read inside planned reread
  have size : (m.declaration part).size = m.bytes.length := rfl
  have changed : (m.declaration part).outline front c back
      = ⟨front ++ c.grow m.bytes.length [m.placed c.closingBrace]
        :: back.map (ClassOutline.shift m.bytes.length)⟩ := by
    rw [Declaration.outline, size]
    simp [Method.declaration]
  exact ⟨after, done, (splice_ok spliced).2.2, changed ▸ readAfter⟩

/-- All members go to the end of the class that the first one goes to. -/
theorem addMethods_of_anchor {ms : List Method} {content : Bytes} {front back : List ClassOutline}
    {c : ClassOutline} (read : outliner content = .ok ⟨front ++ c :: back⟩)
    (passes : part.test names c = true) (none : ∀ c' ∈ back, part.test names c' = false)
    (inside : 0 ≤ c.closingBrace ∧ c.closingBrace ≤ content.length)
    (reread : Declaration.AreReread outliner names path (ms.map (·.declaration part)) content) :
    ∃ last, addMethods outliner names path part ms content = .ok last ∧
      last = content.take c.closingBrace.toNat ++ Method.allBytes ms
        ++ content.drop c.closingBrace.toNat ∧
      outliner last = .ok ⟨front
        ++ c.grow (Method.allBytes ms).length (Method.allPlaced c.closingBrace ms)
        :: back.map (ClassOutline.shift (Method.allBytes ms).length)⟩ := by
  induction ms generalizing content c back with
  | nil =>
      refine ⟨content, rfl, by simp [Method.allBytes], ?_⟩
      have moved : (ClassOutline.shift 0 : ClassOutline → ClassOutline) = id :=
        funext ClassOutline.shift_zero
      simpa [Method.allBytes, Method.allPlaced, ClassOutline.grow, moved] using read
  | cons m ms ih =>
      obtain ⟨now, later⟩ := reread
      obtain ⟨after, done, shape, readAfter⟩ := m.exists_after read passes none inside now
      rw [Step.after, done] at later
      have behind : (c.grow m.bytes.length [m.placed c.closingBrace]).closingBrace
          = c.closingBrace + m.bytes.length := rfl
      have front' : (content.take c.closingBrace.toNat ++ m.bytes).length
          = (c.closingBrace + m.bytes.length).toNat := by
        rw [List.length_append, List.length_take_of_le (by omega)]
        omega
      have length : (after.length : Int) = content.length + m.bytes.length := by
        simp only [shape, List.length_append, List.length_take, List.length_drop]
        omega
      obtain ⟨last, run, text, readLast⟩ := ih readAfter (by rw [part.test_grow, passes])
        (by
          intro c' hc'
          obtain ⟨x, hx, rfl⟩ := List.mem_map.1 hc'
          rw [part.test_shift, none x hx])
        (by rw [behind]; omega) later
      rw [behind] at text readLast
      refine ⟨last, ?_, ?_, ?_⟩
      · rw [addMethods, List.foldlM_cons, done]
        exact run
      · rw [text, shape, List.take_left' front', List.drop_left' front']
        simp [Method.allBytes]
      · rw [readLast, ClassOutline.grow_grow, ClassOutline.map_shift_shift]
        simp [Method.allBytes, Method.allPlaced]

/-- Where no class is a service every member is refused. -/
theorem addMethod_of_none {m : Method} {content : Bytes} {o : Outline}
    (read : outliner content = .ok o) (none : o.anchor? (part.test names) = none) :
    ((m.declaration part).step outliner names path).result content
      = .error (.noPlace .service path) := by
  refine Declaration.result_refused read ?_
  simp only [Method.declaration, part.plan_insertion, Insertion.planMember, none]

/-- Insertions keep the order of what was inserted before, in whatever order they come.

The classes of routes stand behind the classes that extended their base when they came,
and those for one base in the order they came; all other classes stay as they were.  A
step finds a place if any class extends its base, and once one does it stays so.

The members of a service go to the end of one class, in the order they came, and to
this class only. -/
theorem insertions_keep_order {content : Bytes} {o : Outline} (read : outliner content = .ok o)
    (inOrder : o.InOrder content.length) :
    (∀ rs : List RouteClass,
      Declaration.AreReread outliner names path (rs.map (·.declaration)) content →
        ∃ last arrivals, Progress outliner names path content o.classes rs last arrivals ∧
          arrivals.Pairwise fun x y => ∀ n r m r', x.origin = some (n, r) →
            y.origin = some (m, r') → r.base = r'.base → n < m) ∧
    ∀ (part : ServicePart) (ms : List Method),
      Declaration.AreReread outliner names path (ms.map (·.declaration part)) content →
        (∀ front c back, o.classes = front ++ c :: back → part.test names c = true →
          (∀ c' ∈ back, part.test names c' = false) →
            ∃ last, addMethods outliner names path part ms content = .ok last ∧
              last = content.take c.closingBrace.toNat ++ Method.allBytes ms
                ++ content.drop c.closingBrace.toNat ∧
              outliner last = .ok ⟨front
                ++ c.grow (Method.allBytes ms).length (Method.allPlaced c.closingBrace ms)
                :: back.map (ClassOutline.shift (Method.allBytes ms).length)⟩) ∧
        (o.anchor? (part.test names) = none → ∀ m ∈ ms,
          ((m.declaration part).step outliner names path).result content
            = .error (.noPlace .service path)) := by
  refine ⟨fun rs reread => ?_, fun part ms reread => ⟨?_, fun none m _ => ?_⟩⟩
  · obtain ⟨last, arrivals, progress⟩ := exists_progress read inOrder reread
    exact ⟨last, arrivals, progress, progress.arrived.in_order⟩
  · intro front c back shape passes none
    obtain ⟨classes⟩ := o
    cases shape
    have inside := inOrder.inside c (by simp)
    have brace := inOrder.brace c (by simp)
    exact addMethods_of_anchor read passes none
      ⟨Int.le_trans inside.1 brace.1, Int.le_trans brace.2 inside.2.2⟩ reread
  · exact addMethod_of_none read none

end Run

/-! ## A page that is a service -/

namespace Sample

/-- A source with one class. -/
def source : Bytes :=
  Utf8.encode "class A extends NavPage<int> implements MadNavigationService \x7b\n\x7d"

/-- The class. -/
def page : ClassOutline :=
  ⟨"A", ⟨0, 64⟩, some "NavPage<int>", some "NavPage", ["MadNavigationService"], 63, []⟩

/-- A page. -/
def first : RouteClass := ⟨RouteKind.page.describe, "B"⟩

/-- Another page. -/
def second : RouteClass := ⟨RouteKind.page.describe, "D"⟩

/-- A method without a body. -/
def openFirst : Method :=
  ⟨"  Future<void> openPageB();", ⟨"openPageB", .method, none, none, none⟩⟩

/-- Another one. -/
def openSecond : Method :=
  ⟨"  Future<void> openPageD();", ⟨"openPageD", .method, none, none, none⟩⟩

/-- A reader of the source, alone, with one page or two put in, or with one method or two
put in. -/
def reader : Outliner := fun content => .ok ⟨
  if content.length = 128 then [page, first.outline 66]
  else if content.length = 192 then [page, first.outline 66, second.outline 130]
  else if content.length = 93 then [page.grow 29 [openFirst.placed 63]]
  else if content.length = 122 then [page.grow 58 [openFirst.placed 63, openSecond.placed 92]]
  else [page]⟩

theorem length_source : source.length = 64 := by rfl

theorem size_declarations : first.declaration.size = 64 ∧ second.declaration.size = 64 := by
  have fragments : Utf8.size first.fragment = 62 ∧ Utf8.size second.fragment = 62 := ⟨rfl, rfl⟩
  rw [first.size_declaration, second.size_declaration, fragments.1, fragments.2]
  exact ⟨rfl, rfl⟩

theorem length_methods : openFirst.bytes.length = 29 ∧ openSecond.bytes.length = 29 := ⟨rfl, rfl⟩

theorem read_source : reader source = .ok ⟨[page]⟩ := by
  simp [reader, length_source]

theorem inOrder_source : Outline.InOrder ⟨[page]⟩ source.length := by
  rw [length_source]
  exact ⟨by decide, by decide, by decide⟩

/-- A declaration that goes to the last class is seen for what it is, if the length of the
new source is enough to know it. -/
theorem reread_of_length {x : Declaration} {content : Bytes} {front : List ClassOutline}
    {c : ClassOutline} {note : String} (read : reader content = .ok ⟨front ++ [c]⟩)
    (planned : x.insertion.plan {} "" ⟨front ++ [c]⟩ = .ok ⟨x.offset c, x.text, note⟩)
    (apart : ∀ c' ∈ front, x.offset c' ≠ x.offset c)
    (inside : 0 ≤ x.offset c ∧ x.offset c ≤ content.length)
    (known : ∀ after : Bytes, (after.length : Int) = content.length + x.size →
      reader after = .ok (x.outline front c [])) :
    x.IsReread reader {} "" content ∧
      ((x.step reader {} "").after content).length = (content.length : Int) + x.size ∧
      reader ((x.step reader {} "").after content) = .ok (x.outline front c []) := by
  have reread : x.IsReread reader {} "" content := by
    intro front' c' back' note' read' planned' after spliced
    have same : front ++ [c] = front' ++ c' :: back' :=
      congrArg Outline.classes (Except.ok.inj (read.symm.trans read'))
    rw [← same, planned] at planned'
    have offset := (Edit.mk.inj (Except.ok.inj planned')).1
    rcases List.eq_nil_or_concat' back' with rfl | ⟨back, last, rfl⟩
    · obtain ⟨rfl, one⟩ := List.append_inj' same rfl
      cases one
      refine known after ?_
      rw [length_of_splice spliced, Int.natCast_add]
      rfl
    · rw [← List.cons_append, ← List.append_assoc] at same
      obtain ⟨rfl, -⟩ := List.append_inj' same rfl
      exact absurd offset.symm (apart c' (by simp))
  obtain ⟨after, done, readAfter, spliced⟩ := Declaration.exists_after read inside planned reread
  rw [Step.after, done]
  refine ⟨reread, ?_, readAfter⟩
  rw [length_of_splice spliced, Int.natCast_add]
  rfl

/-- Both pages are read as they should be. -/
theorem reread_routes :
    Declaration.AreReread reader {} "" ([first, second].map (·.declaration)) source := by
  obtain ⟨sizeFirst, sizeSecond⟩ := size_declarations
  have passes : ClassTest.extendsText first.base page = true := by decide
  obtain ⟨note, planned⟩ := @RouteClass.planned {} "" first [] [] page passes (by simp)
  obtain ⟨now, length, readAfter⟩ := reread_of_length read_source planned (by simp)
    (by rw [length_source]; decide) fun after length => by
      rw [length_source, sizeFirst] at length
      have long : after.length = 128 := by omega
      simp only [reader, long]
      rfl
  rw [length_source, sizeFirst] at length
  obtain ⟨note', planned'⟩ := @RouteClass.planned {} "" second [page] [] (first.outline 66)
    (first.extendsText_outline 66) (by simp)
  have size : Utf8.size first.fragment = 62 := by
    rw [first.size_declaration] at sizeFirst
    omega
  have stop : (first.outline 66).span.stop = 128 := by
    show 66 + Utf8.size first.fragment = 128
    omega
  obtain ⟨later, -⟩ := reread_of_length readAfter planned'
    (by simp only [RouteClass.declaration, stop]; decide)
    (show 0 ≤ (first.outline 66).span.stop ∧ (first.outline 66).span.stop ≤ _ by omega)
    fun last length' => by
      rw [length, sizeSecond] at length'
      have long : last.length = 192 := by omega
      simp [reader, long, Declaration.outline, RouteClass.declaration, stop]
  exact ⟨now, later, trivial⟩

/-- Both methods are read as they should be. -/
theorem reread_methods :
    Declaration.AreReread reader {} "" ([openFirst, openSecond].map (·.declaration .interface))
      source := by
  obtain ⟨lengthFirst, lengthSecond⟩ := length_methods
  have sizes : (openFirst.declaration .interface).size = 29
      ∧ (openSecond.declaration .interface).size = 29 :=
    ⟨congrArg Int.ofNat lengthFirst, congrArg Int.ofNat lengthSecond⟩
  have passes : ServicePart.interface.test {} page = true := by decide
  obtain ⟨note, planned⟩ := @Method.planned .interface {} "" openFirst [] [] page passes (by simp)
  obtain ⟨now, length, readAfter⟩ := reread_of_length read_source planned (by simp)
    (by rw [length_source]; decide) fun after length => by
      rw [length_source, sizes.1] at length
      have long : after.length = 93 := by omega
      simp [reader, long, Declaration.outline, Method.declaration, lengthFirst, page]
  rw [length_source, sizes.1] at length
  obtain ⟨note', planned'⟩ := @Method.planned .interface {} "" openSecond [] []
    (page.grow 29 [openFirst.placed 63]) (by rw [ServicePart.test_grow, passes]) (by simp)
  refine ⟨now, ?_⟩
  dsimp only [List.map_cons, List.map_nil, Declaration.AreReread]
  generalize ((openFirst.declaration .interface).step reader {} "").after source = after at *
  rw [Declaration.outline, Method.declaration, lengthFirst] at readAfter
  obtain ⟨later, -⟩ := reread_of_length readAfter planned' (by simp)
    (show 0 ≤ (92 : Int) ∧ (92 : Int) ≤ _ by omega) fun last length' => by
      rw [length, sizes.2] at length'
      have long : last.length = 122 := by omega
      simp [reader, long, Declaration.outline, Method.declaration, lengthSecond, page,
        ClassOutline.grow]
  exact ⟨later, trivial⟩

end Sample

/-- Two pages and two methods that are put into one source. -/
theorem insertions_keep_order_twice :
    Sample.reader Sample.source = .ok ⟨[Sample.page]⟩ ∧
      Outline.InOrder ⟨[Sample.page]⟩ Sample.source.length ∧
      (∃ last arrivals, Progress Sample.reader {} "" Sample.source [Sample.page]
          [Sample.first, Sample.second] last arrivals ∧
        arrivals.Pairwise fun x y => ∀ n r m r', x.origin = some (n, r) →
          y.origin = some (m, r') → r.base = r'.base → n < m) ∧
      ∃ last, addMethods Sample.reader {} "" .interface [Sample.openFirst, Sample.openSecond]
          Sample.source = .ok last ∧
        last = Sample.source.take 63
          ++ Method.allBytes [Sample.openFirst, Sample.openSecond] ++ Sample.source.drop 63 := by
  obtain ⟨routes, members⟩ :=
    @insertions_keep_order _ {} "" _ _ Sample.read_source Sample.inOrder_source
  obtain ⟨last, done, text, -⟩ :=
    (members .interface _ Sample.reread_methods).1 [] Sample.page [] rfl (by decide) (by simp)
  exact ⟨Sample.read_source, Sample.inOrder_source, routes _ Sample.reread_routes,
    last, done, text⟩

end RouteGraft
