import RouteGraft.Outline.Read
import RouteGraft.Proofs.Groups
import RouteGraft.Proofs.Tree

/-!
# What an outline is read from

For every reader of `RouteGraft.Outline` this module says what it means that the
reader gives a result: which nodes the parts of the result were read from, and in
which order.  A list of elements is related to the groups of nodes it was read
from, named arguments and classes are related to a sublist of the nodes looked
at, and so are the lists that the members of a class return.  Nothing here
speaks of offsets.
-/

namespace RouteGraft

open Dart (Node Kind Field)

namespace Outline

variable {list : Node → Reading ListLiteral} {source : Bytes}

/-! ## Brackets -/

/-- The nodes behind the first opening bracket, or all of them. -/
def behindOpening (cs : List Node) : List Node :=
  if (cs.dropWhile (·.kind ≠ .terminal .openBracket)).isEmpty then cs
  else (cs.dropWhile (·.kind ≠ .terminal .openBracket)).drop 1

theorem behindOpening_suffix (cs : List Node) : behindOpening cs <:+ cs := by
  unfold behindOpening
  split
  · exact List.suffix_refl _
  · exact (List.drop_suffix 1 _).trans (List.dropWhile_suffix _)

/-- Without a closing bracket a list goes up to its end. -/
theorem insideBrackets_of_open {n : Node}
    (h : ∀ c ∈ n.children, c.kind ≠ .terminal .closeBracket) :
    insideBrackets n = (behindOpening n.children, n.span.stop) := by
  have none : n.children.reverse.find? (·.kind = .terminal .closeBracket) = none := by
    rw [List.find?_eq_none]
    intro c hc
    simpa using h c (List.mem_reverse.1 hc)
  simp only [insideBrackets, none, behindOpening]

/-- A list goes up to its last closing bracket. -/
theorem insideBrackets_of_closed {n closing : Node} {front back : List Node}
    (shape : n.children = front ++ closing :: back)
    (kind : closing.kind = .terminal .closeBracket)
    (last : ∀ c ∈ back, c.kind ≠ .terminal .closeBracket) :
    insideBrackets n =
      ((behindOpening n.children).take
        ((behindOpening n.children).length - (back.length + 1)), closing.span.start) := by
  have reversed : n.children.reverse = back.reverse ++ closing :: front.reverse := by
    simp [shape]
  have back' : ∀ c ∈ back.reverse, (decide (c.kind ≠ .terminal .closeBracket)) = true :=
    fun c hc => decide_eq_true (last c (List.mem_reverse.1 hc))
  have found : n.children.reverse.find? (·.kind = .terminal .closeBracket) = some closing := by
    rw [reversed, List.find?_append, List.find?_eq_none.2 fun c hc => by simpa using back' c hc,
      Option.none_or, List.find?_cons_of_pos (by simpa using kind)]
  have trailing :
      n.children.reverse.takeWhile (·.kind ≠ .terminal .closeBracket) = back.reverse := by
    rw [reversed, List.takeWhile_append_of_pos back', List.takeWhile_cons_of_neg (by simp [kind]),
      List.append_nil]
  simp only [insideBrackets, found, trailing, List.length_reverse, behindOpening]

/-- The nodes inside of the brackets of a list are children of it, in order, that
stand in front of the closing bracket, if there is one. -/
theorem insideBrackets_cases (n : Node) :
    ((insideBrackets n).1.Sublist n.children ∧ (insideBrackets n).2 = n.span.stop) ∨
      ∃ front closing back, n.children = front ++ closing :: back ∧
        closing.kind = .terminal .closeBracket ∧ (insideBrackets n).1.Sublist front ∧
        (insideBrackets n).2 = closing.span.start := by
  cases found : n.children.reverse.find? (·.kind = .terminal .closeBracket) with
  | none =>
      refine .inl ?_
      rw [insideBrackets_of_open fun c hc => by
        simpa using List.find?_eq_none.1 found c (List.mem_reverse.2 hc)]
      exact ⟨(behindOpening_suffix _).sublist, rfl⟩
  | some closing =>
      obtain ⟨kind, behind, ahead, shape, last⟩ := List.find?_eq_some_iff_append.1 found
      have shape : n.children = ahead.reverse ++ closing :: behind.reverse := by
        simpa using congrArg List.reverse shape
      have kind : closing.kind = .terminal .closeBracket := by simpa using kind
      have last : ∀ c ∈ behind.reverse, c.kind ≠ .terminal .closeBracket := fun c hc => by
        simpa using last c (List.mem_reverse.1 hc)
      refine .inr ⟨ahead.reverse, closing, behind.reverse, shape, kind, ?_, ?_⟩
      · -- cutting the same number of nodes off a suffix and off the children
        rw [insideBrackets_of_closed shape kind last]
        obtain ⟨j, hj⟩ : ∃ j, behindOpening n.children = n.children.drop j :=
          ⟨_, List.suffix_iff_eq_drop.1 (behindOpening_suffix _)⟩
        have cut :
            (n.children.drop j).take ((n.children.drop j).length - (behind.reverse.length + 1))
              = ahead.reverse.drop j := by
          have front : n.children.length - (behind.reverse.length + 1) = ahead.reverse.length := by
            simp only [shape, List.length_append, List.length_cons]
            omega
          rw [List.length_drop, Nat.sub_right_comm, ← List.drop_take, front, shape,
            List.take_left' rfl]
        rw [hj]
        exact cut ▸ List.drop_sublist _ _
      · rw [insideBrackets_of_closed shape kind last]

theorem insideBrackets_sublist (n : Node) : (insideBrackets n).1.Sublist n.children := by
  rcases insideBrackets_cases n with ⟨sub, -⟩ | ⟨front, closing, back, shape, -, sub, -⟩
  · exact sub
  · rw [shape]
    exact sub.trans (List.sublist_append_left front _)

/-- The nodes of an element are children of the list. -/
theorem mem_children_of_mem_group {n c : Node} {group : List Node}
    (hgroup : group ∈ (Node.commaGroups (insideBrackets n).1).groups) (hc : c ∈ group) :
    c ∈ n.children :=
  (insideBrackets_sublist n).subset (Node.mem_of_mem_commaGroups hgroup hc)

/-! ## Arguments -/

/-- A list that is the value of an argument was read from a part of it. -/
theorem argumentValue_eq_some {argument : Node} {l : ListLiteral}
    (h : argumentValue list argument = .ok (some l)) :
    ∃ v ∈ argument.parts, v.kind = .construct .listLiteral ∧ list v = .ok l := by
  unfold argumentValue at h
  split at h
  · next v parts =>
      split at h
      · next kind =>
          obtain ⟨l, read, eq⟩ := map_eq_ok.1 h
          cases eq
          have isPart : v ∈ argument.parts :=
            List.mem_of_mem_filter (parts ▸ List.mem_singleton_self v)
          exact ⟨v, isPart, kind, read⟩
      · cases h
  · cases h

/-- A named argument has the place of its node, and its value was read there. -/
theorem namedArgument?_eq_some {argument : Node} {a : NamedArgument}
    (h : namedArgument? list source argument = .ok (some a)) :
    a.span = argument.span ∧ argumentValue list argument = .ok a.value := by
  unfold namedArgument? at h
  split at h
  · cases h
  · obtain ⟨value, read, h⟩ := bind_eq_ok.1 h
    obtain ⟨name, -, eq⟩ := bind_eq_ok.1 h
    cases eq
    exact ⟨rfl, read⟩

/-- The named arguments of a call were read from parts of it, in order. -/
theorem namedArguments_eq_ok {arguments : Node} {as : List NamedArgument}
    (h : namedArguments list source arguments = .ok as) :
    ∃ kept, kept.Sublist arguments.parts ∧
      List.Forall₂ (fun n a => namedArgument? list source n = .ok (some a)) kept as := by
  obtain ⟨os, read, rfl⟩ := map_eq_ok.1 h
  obtain ⟨kept, sub, related⟩ := sublist_of_filterMap (mapM_eq_ok.1 read)
  exact ⟨kept, sub.trans List.filter_sublist, related⟩

/-! ## Elements -/

/-- An element and the group of nodes it was read from. -/
def ReadsElement (list : Node → Reading ListLiteral) (source : Bytes) (group : List Node)
    (e : ListElement) : Prop :=
  ∃ first rest, group = first :: rest ∧ listElement list source first rest = .ok e

/-- A call of a plain name is an identifier and a selector with arguments. -/
theorem plainCall?_eq_some {group : List Node} {name arguments : Node} :
    plainCall? group = some (name, arguments) ↔
      ∃ call, group = [name, call] ∧ name.kind = .identifier ∧
        call.kind = .construct .selector ∧
        call.descendant? (· = .construct .arguments) 2 = some arguments := by
  unfold plainCall?
  split
  · next n call =>
      split
      · next kinds =>
          rw [Option.map_eq_some_iff]
          constructor
          · rintro ⟨found, search, ⟨⟩⟩
            exact ⟨call, rfl, kinds.1, kinds.2, search⟩
          · rintro ⟨_, ⟨⟩, -, -, search⟩
            exact ⟨arguments, search, rfl⟩
      · next kinds =>
          constructor
          · intro h
            cases h
          · rintro ⟨_, ⟨⟩, nameKind, callKind, -⟩
            exact absurd ⟨nameKind, callKind⟩ kinds
  · next other =>
      constructor
      · intro h
        cases h
      · rintro ⟨call, rfl, -⟩
        exact absurd rfl (other name call)

/-- The place of an element goes from the first node of its group to the last. -/
theorem ReadsElement.span {group : List Node} {e : ListElement}
    (h : ReadsElement list source group e) :
    ∃ first rest, group = first :: rest ∧
      e.span = first.span.through (rest.getLastD first).span := by
  obtain ⟨first, rest, rfl, read⟩ := h
  refine ⟨first, rest, rfl, ?_⟩
  unfold listElement at read
  split at read
  · cases read
    rfl
  · simp only [bind_eq_ok] at read
    obtain ⟨callee, -, as, -, eq⟩ := read
    cases eq
    rfl

/-- The named arguments of an element were read from the call it consists of. -/
theorem ReadsElement.arguments {group : List Node} {e : ListElement}
    (h : ReadsElement list source group e) :
    e.namedArguments = [] ∨ ∃ name call arguments, group = [name, call] ∧
      call.descendant? (· = .construct .arguments) 2 = some arguments ∧
      namedArguments list source arguments = .ok e.namedArguments := by
  obtain ⟨first, rest, rfl, read⟩ := h
  unfold listElement at read
  split at read
  · cases read
    exact .inl rfl
  · next name arguments plain =>
      simp only [bind_eq_ok] at read
      obtain ⟨callee, -, as, argumentsRead, eq⟩ := read
      cases eq
      obtain ⟨call, group, -, -, search⟩ := plainCall?_eq_some.1 plain
      exact .inr ⟨name, call, arguments, group, search, argumentsRead⟩

/-- Elements are read from groups one by one. -/
theorem listElements_eq_ok {groups : List (List Node)} {es : List ListElement}
    (nonempty : ∀ g ∈ groups, g ≠ []) :
    listElements list source groups = .ok es ↔
      List.Forall₂ (ReadsElement list source) groups es := by
  induction groups generalizing es with
  | nil =>
      rw [listElements, List.forall₂_nil_left_iff]
      exact ⟨fun h => (Except.ok.inj h).symm, fun h => h ▸ rfl⟩
  | cons g groups ih =>
      cases g with
      | nil => exact absurd rfl (nonempty [] List.mem_cons_self)
      | cons first rest =>
          have nonempty' : ∀ g ∈ groups, g ≠ [] :=
            fun g hg => nonempty g (List.mem_cons_of_mem _ hg)
          have later {es : List ListElement} := @ih es nonempty'
          rw [listElements, List.forall₂_cons_left_iff]
          simp only [bind_eq_ok, later]
          constructor
          · rintro ⟨e, read, es, related, ⟨⟩⟩
            exact ⟨e, es, ⟨first, rest, rfl, read⟩, related, rfl⟩
          · rintro ⟨e, es, ⟨_, _, ⟨⟩, read⟩, related, rfl⟩
            exact ⟨e, read, es, related, rfl⟩

/-! ## Lists -/

/-- A list was read from the groups inside of its brackets. -/
theorem listLiteralWith_eq_ok {n : Node} {l : ListLiteral} :
    listLiteralWith list source n = .ok l ↔
      l.span = n.span ∧ l.rightBracket = (insideBrackets n).2 ∧
        l.hasTrailingComma = (Node.commaGroups (insideBrackets n).1).trailing ∧
        List.Forall₂ (ReadsElement list source) (Node.commaGroups (insideBrackets n).1).groups
          l.elements := by
  unfold listLiteralWith
  simp only [bind_eq_ok, listElements_eq_ok fun _ => Node.ne_nil_of_mem_commaGroups]
  constructor
  · rintro ⟨es, related, ⟨⟩⟩
    exact ⟨rfl, rfl, rfl, related⟩
  · rintro ⟨span, bracket, trailing, related⟩
    cases l
    subst span bracket trailing
    exact ⟨_, related, rfl⟩

/-! ## Members -/

/-- A list that was read from the body of a member. -/
def ReadsReturned (source : Bytes) (body : Node) (l : ListLiteral) : Prop :=
  body.kind = .construct .functionBody ∧
    ∃ e, body.parts = [e] ∧ e.kind = .construct .listLiteral ∧ listLiteral source e = .ok l

theorem expressionList_eq_some {e : Node} {l : ListLiteral}
    (h : expressionList source e = .ok (some l)) :
    e.kind = .construct .listLiteral ∧ listLiteral source e = .ok l := by
  unfold expressionList at h
  split at h
  · next kind =>
      obtain ⟨l, read, eq⟩ := map_eq_ok.1 h
      cases eq
      exact ⟨kind, read⟩
  · cases h

/-- A member has the name it was declared with, and a list it returns was read
from its body. -/
theorem memberWithBody_eq_ok {name : String} {kind : MemberKind} {body : Node} {m : Member}
    (isBody : body.kind = .construct .functionBody)
    (h : memberWithBody source name kind body = .ok m) :
    m.name = name ∧ ∀ l, m.returnedList = some l → ReadsReturned source body l := by
  unfold memberWithBody at h
  split at h
  · cases h
    exact ⟨rfl, fun _ hl => nomatch hl⟩
  · split at h
    · next e parts =>
        obtain ⟨value, read, eq⟩ := bind_eq_ok.1 h
        cases eq
        refine ⟨rfl, fun l hl => ?_⟩
        obtain rfl : value = some l := hl
        obtain ⟨isList, read⟩ := expressionList_eq_some read
        exact ⟨isBody, e, parts, isList, read⟩
    · cases h
      exact ⟨rfl, fun _ hl => nomatch hl⟩

/-- A body has no signature. -/
theorem signature?_of_body {c : Node} (isBody : c.kind = .construct .functionBody) :
    signature? c = none := by
  simp [signature?, isBody]

/-- What has a signature is no body, and no comment. -/
theorem kind_of_signature {c n : Node} {kind : MemberKind}
    (declares : signature? c = some (n, kind)) :
    c.kind ≠ .construct .functionBody ∧ c.isComment = false := by
  have holder : c.kind = .construct .methodSignature ∨ c.kind = .construct .declaration := by
    unfold signature? at declares
    split at declares
    · assumption
    · cases declares
  rcases holder with holder | holder
  · simp [Node.isComment, Kind.isComment, holder]
  · simp [Node.isComment, Kind.isComment, holder]

/-- The members that are read of children of a class body, if a member may be in hand whose
body comes next. -/
inductive ReadsMembers (source : Bytes) : Pending → List Node → List Member → Prop
  | done (p : Pending) : ReadsMembers source p [] p.flush
  | comment {p : Pending} {c : Node} {rest : List Node} {ms : List Member} :
      c.isComment = true → ReadsMembers source p rest ms → ReadsMembers source p (c :: rest) ms
  /-- A body behind no signature is no member's. -/
  | stray {c : Node} {rest : List Node} {ms : List Member} :
      c.kind = .construct .functionBody → ReadsMembers source none rest ms →
        ReadsMembers source none (c :: rest) ms
  | body {name : String} {kind : MemberKind} {c : Node} {rest : List Node} {m : Member}
      {ms : List Member} :
      c.kind = .construct .functionBody → memberWithBody source name kind c = .ok m →
        ReadsMembers source none rest ms →
          ReadsMembers source (some (name, kind)) (c :: rest) (m :: ms)
  /-- What declares no member leaves the one in hand without a body. -/
  | other {p : Pending} {c : Node} {rest : List Node} {ms : List Member} :
      c.isComment = false → c.kind ≠ .construct .functionBody → signature? c = none →
        ReadsMembers source none rest ms → ReadsMembers source p (c :: rest) (p.flush ++ ms)
  | signature {p : Pending} {c n : Node} {name : String} {kind : MemberKind} {rest : List Node}
      {ms : List Member} :
      signature? c = some (n, kind) → n.span.text source = .ok name →
        ReadsMembers source (some (name, kind)) rest ms →
          ReadsMembers source p (c :: rest) (p.flush ++ ms)

theorem readsMembers_of_membersFrom {p : Pending} {cs : List Node} {ms : List Member}
    (h : membersFrom source p cs = .ok ms) : ReadsMembers source p cs ms := by
  induction cs generalizing p ms with
  | nil =>
      rw [membersFrom] at h
      cases h
      exact .done p
  | cons c rest ih =>
      rw [membersFrom.eq_def] at h
      dsimp only at h
      split at h
      · next comment => exact .comment comment (ih h)
      · next plain =>
          split at h
          · next isBody =>
              split at h
              · exact .stray isBody (ih h)
              · simp only [bind_eq_ok] at h
                obtain ⟨m, member, ms, later, ⟨⟩⟩ := h
                exact .body isBody member (ih later)
          · next noBody =>
              split at h
              · next none_ =>
                  simp only [bind_eq_ok] at h
                  obtain ⟨ms, later, ⟨⟩⟩ := h
                  exact .other (Bool.eq_false_iff.2 plain) noBody none_ (ih later)
              · next n kind declares =>
                  simp only [bind_eq_ok] at h
                  obtain ⟨name, text, ms, later, ⟨⟩⟩ := h
                  exact .signature declares text (ih later)

theorem ReadsMembers.membersFrom_eq {p : Pending} {cs : List Node} {ms : List Member}
    (h : ReadsMembers source p cs ms) : membersFrom source p cs = .ok ms := by
  induction h with
  | done p => rfl
  | comment comment _ ih =>
      rw [membersFrom.eq_def, ← ih]
      simp only [comment, if_true]
  | @stray c rest ms isBody _ ih =>
      have plain : c.isComment = false := by simp [Node.isComment, isBody, Kind.isComment]
      rw [membersFrom.eq_def]
      simp only [plain, Bool.false_eq_true, if_false, if_pos isBody, ih]
  | @body name kind c rest m ms isBody member _ ih =>
      have plain : c.isComment = false := by simp [Node.isComment, isBody, Kind.isComment]
      rw [membersFrom.eq_def]
      simp only [plain, Bool.false_eq_true, if_false, if_pos isBody, member, ih]
      rfl
  | other plain noBody none_ _ ih =>
      rw [membersFrom.eq_def]
      simp only [plain, Bool.false_eq_true, if_false, if_neg noBody, none_, ih]
      rfl
  | signature declares text _ ih =>
      obtain ⟨noBody, plain⟩ := kind_of_signature declares
      rw [membersFrom.eq_def]
      simp only [plain, Bool.false_eq_true, if_false, if_neg noBody, declares, text, bind_eq_ok]
      exact ⟨_, rfl, _, ih, rfl⟩

/-- The reader and the relation give the same members. -/
theorem membersFrom_eq_ok {p : Pending} {cs : List Node} {ms : List Member} :
    membersFrom source p cs = .ok ms ↔ ReadsMembers source p cs ms :=
  ⟨readsMembers_of_membersFrom, (·.membersFrom_eq)⟩

theorem Pending.flush_returned (p : Pending) : p.flush.filterMap (·.returnedList) = [] := by
  unfold Pending.flush
  split <;> rfl

/-- The lists that members return were read from nodes of the class body, in order. -/
theorem membersFrom_returned {p : Pending} {cs : List Node} {ms : List Member}
    (h : membersFrom source p cs = .ok ms) :
    ∃ bodies, bodies.Sublist cs ∧
      List.Forall₂ (ReadsReturned source) bodies (ms.filterMap (·.returnedList)) := by
  replace h := membersFrom_eq_ok.1 h
  induction h with
  | done p => exact ⟨[], List.Sublist.refl _, by rw [Pending.flush_returned]; exact .nil⟩
  | @comment _ c _ _ _ _ ih =>
      obtain ⟨bodies, sub, related⟩ := ih
      exact ⟨bodies, sub.cons c, related⟩
  | @stray c _ _ _ _ ih =>
      obtain ⟨bodies, sub, related⟩ := ih
      exact ⟨bodies, sub.cons c, related⟩
  | @body _ _ c _ m _ isBody member _ ih =>
      obtain ⟨bodies, sub, related⟩ := ih
      cases returned : m.returnedList with
      | none => exact ⟨bodies, sub.cons c, by rwa [List.filterMap_cons_none returned]⟩
      | some l =>
          have read := (memberWithBody_eq_ok isBody member).2 l returned
          refine ⟨c :: bodies, sub.cons_cons c, ?_⟩
          rw [List.filterMap_cons_some returned]
          exact .cons read related
  | @other _ c _ _ _ _ _ _ ih =>
      obtain ⟨bodies, sub, related⟩ := ih
      exact ⟨bodies, sub.cons c, by
        rwa [List.filterMap_append, Pending.flush_returned, List.nil_append]⟩
  | @signature _ c _ _ _ _ _ _ _ _ ih =>
      obtain ⟨bodies, sub, related⟩ := ih
      exact ⟨bodies, sub.cons c, by
        rwa [List.filterMap_append, Pending.flush_returned, List.nil_append]⟩

/-! ## Classes -/

/-- A class was read from its node and the body of that node. -/
theorem classOutline?_eq_some {n : Node} {c : ClassOutline} :
    classOutline? source n = .ok (some c) ↔
      ∃ body nameNode extended, classBody? n = some body ∧ className? n = some nameNode ∧
        classExtends source n = .ok extended ∧ nameNode.span.text source = .ok c.name ∧
        classImplements source n = .ok c.interfaces ∧
        membersFrom source none body.children = .ok c.members ∧
        c.span = n.span ∧ c.superclass = extended.map (·.1) ∧
        c.superclassName = extended.map (·.2) ∧ c.closingBrace = closingBrace body := by
  unfold classOutline?
  cases classBody? n with
  | none => simp
  | some body =>
      cases className? n with
      | none => simp
      | some nameNode =>
          simp only [bind_eq_ok]
          constructor
          · rintro ⟨extended, hext, name, hname, interfaces, hint, members, hmem, ⟨⟩⟩
            exact ⟨body, nameNode, extended, rfl, rfl, hext, hname, hint, hmem, rfl, rfl, rfl, rfl⟩
          · rintro ⟨_, _, extended, ⟨⟩, ⟨⟩, hext, hname, hint, hmem, span, super, supername, brace⟩
            refine ⟨extended, hext, _, hname, _, hint, _, hmem, ?_⟩
            rw [← span, ← super, ← supername, ← brace]
            rfl

/-- The classes of an outline were read from children of the tree, in order. -/
theorem ofTree_eq_ok {root : Node} {o : Outline} (h : ofTree source root = .ok o) :
    ∃ kept, kept.Sublist (root.children.filter fun n => n.named && isClass n.kind) ∧
      List.Forall₂ (fun n c => classOutline? source n = .ok (some c)) kept o.classes := by
  obtain ⟨cs, some_, rfl⟩ := map_eq_ok.1 h
  obtain ⟨os, read, rfl⟩ := map_eq_ok.1 some_
  exact sublist_of_filterMap (mapM_eq_ok.1 read)

end Outline

end RouteGraft
