import RouteGraft.Anchor
import RouteGraft.Proofs.Regrowth

/-!
# Outlines of grafted trees

A path goes from the root of a source to the list that a member of a class returns
(`Returns`).  If the offset splits that list, everything else in the outline is found
again: the classes with all that they extend and implement, and their members
(`ofTree_graft`).  So the anchor is the same class, and its member returns the changed
list.
-/

namespace RouteGraft

open Dart (Node Kind Field Construct)

namespace Outline

variable {source other : Bytes} {k d : Int} {new : List Node} {changed : ListLiteral}

/-! ## From the root to a list -/

/-- The path from the root to the list that a member of a class returns. -/
structure Returns (root n body b e : Node) : Prop where
  declaration : n ∈ root.children
  classBody : classBody? n = some body
  bodyKind : body.kind = .construct .classBody
  bodyField : body.field = some .body
  member : b ∈ body.children
  isBody : b.kind = .construct .functionBody
  list : e ∈ b.parts

namespace Returns

variable {root n body b e : Node} (returns : Returns root n body b e)
  (full : root.Full source.length) (splits : e.span.Splits k)
include returns full splits

/-- All nodes on the path are split, and of the children of each of them only the
next one is. -/
theorem splits_iff :
    (∀ c ∈ root.children, c.span.Splits k ↔ c = n) ∧
      (∀ c ∈ n.children, c.span.Splits k ↔ c = body) ∧
      (∀ c ∈ body.children, c.span.Splits k ↔ c = b) ∧
      ∀ c ∈ b.children, c.span.Splits k ↔ c = e := by
  have isBody := (Node.fieldOrChild?_eq_some returns.classBody).1
  have isList := Node.mem_children_of_mem_parts returns.list
  have nFull := full.child returns.declaration
  have bodyFull := nFull.child isBody
  have bFull := bodyFull.child returns.member
  have bSplits := splits.of_inside (bFull.nested.child_inside e isList)
  have bodySplits := bSplits.of_inside (bodyFull.nested.child_inside b returns.member)
  have nSplits := bodySplits.of_inside (nFull.nested.child_inside body isBody)
  have only {m c : Node} (mFull : m.Full source.length) (hc : c ∈ m.children)
      (cSplits : c.span.Splits k) : ∀ c' ∈ m.children, c'.span.Splits k ↔ c' = c := by
    intro c' hc'
    constructor
    · exact fun isSplit => mFull.nested.eq_of_splits hc hc' cSplits isSplit
    · rintro rfl
      exact cSplits
  exact ⟨only full returns.declaration nSplits, only nFull isBody bodySplits,
    only bodyFull returns.member bSplits, only bFull isList splits⟩

variable (spliced : Span.Spliced source other k d)
include spliced

variable (new) in
/-- The children of a declaration and those of its body are grafted one by one. -/
theorem declaration_graft {m : Node} (hm : m ∈ root.children) :
    (m.graft k d new).children = m.children.map (Node.graft k d new) ∧
      ∀ c, classBody? m = some c →
        (c.graft k d new).children = c.children.map (Node.graft k d new) := by
  obtain ⟨onlyClass, onlyBody, onlyMember, -⟩ := returns.splits_iff full splits
  have mFull := full.child hm
  have isBody := (Node.fieldOrChild?_eq_some returns.classBody).1
  by_cases same : m = n
  · subst same
    have bodySplits := (onlyBody body isBody).2 rfl
    refine ⟨Node.children_graft_of_child d new mFull.nested isBody bodySplits, fun c found => ?_⟩
    obtain rfl : body = c := Option.some.inj (returns.classBody.symm.trans found)
    exact Node.children_graft_of_child d new (mFull.child isBody).nested returns.member
      ((onlyMember b returns.member).2 rfl)
  · obtain ⟨δ, moves⟩ := Node.exists_moves new spliced mFull fun isSplit =>
      same ((onlyClass m hm).1 isSplit)
    refine ⟨moves.children_graft mFull, fun c found => ?_⟩
    have hc := (Node.fieldOrChild?_eq_some found).1
    exact (moves.of_mem_nodes mFull (Node.child_mem_nodes hc)).children_graft (mFull.child hc)

/-- All that is in a declaration beside the body stays or moves. -/
theorem declaration_moves {m c : Node} (hm : m ∈ root.children) (hc : c ∈ m.children)
    (different : c ≠ body) : ∃ δ, c.Moves source other k d new δ := by
  obtain ⟨onlyClass, onlyBody, -, -⟩ := returns.splits_iff full splits
  have mFull := full.child hm
  refine Node.exists_moves new spliced (mFull.child hc) fun isSplit => different ?_
  obtain rfl := (onlyClass m hm).1 (isSplit.of_inside (mFull.nested.child_inside c hc))
  exact (onlyBody c hc).1 isSplit

/-- The bodies of members are read as they were, apart from the list at the end of
the path. -/
theorem memberWithBody_graft {m body' c : Node} (hm : m ∈ root.children)
    (found : classBody? m = some body') (hc : c ∈ body'.children)
    (reread : listLiteral other (e.graft k d new) = .ok changed) {name : String}
    {kind : MemberKind} {x : Member} (h : memberWithBody source name kind c = .ok x) :
    memberWithBody other name kind (c.graft k d new)
      = .ok (x.mapList (ListLiteral.stretch k d changed)) := by
  obtain ⟨onlyClass, onlyBody, onlyMember, onlyList⟩ := returns.splits_iff full splits
  have isBody := (Node.fieldOrChild?_eq_some found).1
  have mFull := full.child hm
  have bodyFull := mFull.child isBody
  have cFull := bodyFull.child hc
  have onPath : c.span.Splits k → c = b := by
    intro isSplit
    have bodySplits := isSplit.of_inside (bodyFull.nested.child_inside c hc)
    obtain rfl := (onlyClass m hm).1
      (bodySplits.of_inside (mFull.nested.child_inside body' isBody))
    obtain rfl := (onlyBody body' isBody).1 bodySplits
    exact (onlyMember c hc).1 isSplit
  have children : (c.graft k d new).children = c.children.map (Node.graft k d new) := by
    by_cases isSplit : c.span.Splits k
    · obtain rfl := onPath isSplit
      exact Node.children_graft_of_child d new cFull.nested
        (Node.mem_children_of_mem_parts returns.list) splits
    · obtain ⟨δ, moves⟩ := Node.exists_moves new spliced cFull isSplit
      exact moves.children_graft cFull
  refine memberWithBody_map (Node.keeps_graft k d new) children ?_ h
  intro e' he' _ l read
  have isChild := Node.mem_children_of_mem_parts he'
  by_cases isSplit : e'.span.Splits k
  · obtain rfl := onPath (isSplit.of_inside (cFull.nested.child_inside e' isChild))
    obtain rfl := (onlyList e' isChild).1 isSplit
    rw [reread, ListLiteral.stretch_of_splits (listLiteralTo_span read ▸ isSplit)]
  · obtain ⟨δ, moves⟩ := Node.exists_moves new spliced (cFull.child isChild) isSplit
    exact listLiteralTo_moves moves (cFull.child isChild) (Nat.le_refl _)
      (Node.height_le_graft k d new e') read

section Parts

variable {m : Node} (hm : m ∈ root.children)
include hm

theorem className?_graft {c : Node} (found : className? m = some c) :
    (c.graft k d new).span.text other = c.span.text source := by
  obtain ⟨hc, named⟩ := Node.fieldOrChild?_eq_some found
  obtain ⟨δ, moves⟩ := returns.declaration_moves full splits spliced hm hc (by
    rintro rfl
    rw [returns.bodyField, returns.bodyKind] at named
    rcases named with field | kind
    · cases field
    · cases kind)
  exact moves.text ((full.child hm).child hc).nested

/-- A clause of a declaration is no body. -/
theorem clause_moves {x : Construct} (different : x ≠ .classBody) {c : Node}
    (found : m.child? (· = .construct x) = some c) :
    c ∈ m.children ∧ ∃ δ, c.Moves source other k d new δ := by
  obtain ⟨hc, kind⟩ := Node.child?_eq_some found
  refine ⟨hc, returns.declaration_moves full splits spliced hm hc ?_⟩
  rintro rfl
  rw [returns.bodyKind, decide_eq_true_eq] at kind
  exact different (Kind.construct.inj kind).symm

theorem classExtends_graft : classExtends other (m.graft k d new) = classExtends source m := by
  unfold classExtends
  rw [(Node.keeps_graft k d new).child? (returns.declaration_graft new full splits spliced hm).1]
  cases found : m.child? (· = .construct .superclass) with
  | none => rfl
  | some c =>
      obtain ⟨hc, δ, moves⟩ := returns.clause_moves full splits spliced hm (by decide) found
      dsimp only [Option.map_some]
      rw [moves.graft_eq]
      exact extendedType_shift ((full.child hm).child hc).nested moves.same

theorem classImplements_graft {types : List String} (read : classImplements source m = .ok types) :
    classImplements other (m.graft k d new) = .ok types := by
  unfold classImplements at read ⊢
  rw [(Node.keeps_graft k d new).child? (returns.declaration_graft new full splits spliced hm).1]
  cases found : m.child? (· = .construct .interfaces) with
  | none =>
      rw [found] at read
      exact read
  | some c =>
      rw [found] at read
      obtain ⟨hc, δ, moves⟩ := returns.clause_moves full splits spliced hm (by decide) found
      dsimp only [Option.map_some]
      rw [moves.graft_eq]
      exact implementedTypes_shift ((full.child hm).child hc).nested moves.same read

/-- What a member is called is read as it was. -/
theorem sameSignature_graft {body' c : Node} (found : classBody? m = some body')
    (hc : c ∈ body'.children) (kind : c.kind ≠ .construct .functionBody) :
    SameSignature source other c (c.graft k d new) := by
  have isBody := (Node.fieldOrChild?_eq_some found).1
  have bodyFull := (full.child hm).child isBody
  obtain ⟨δ, moves⟩ : ∃ δ, c.Moves source other k d new δ := by
    by_cases same : body' = body
    · subst same
      obtain ⟨-, -, onlyMember, -⟩ := returns.splits_iff full splits
      refine Node.exists_moves new spliced (bodyFull.child hc) fun isSplit => kind ?_
      rw [(onlyMember c hc).1 isSplit]
      exact returns.isBody
    · obtain ⟨δ, moves⟩ := returns.declaration_moves full splits spliced hm isBody same
      exact ⟨δ, moves.of_mem_nodes bodyFull (Node.child_mem_nodes hc)⟩
  rw [moves.graft_eq]
  exact sameSignature_shift (bodyFull.child hc).nested moves.same

/-- A class is read as it was, apart from the list at the end of the path. -/
theorem classOutline?_graft (reread : listLiteral other (e.graft k d new) = .ok changed)
    {o : Option ClassOutline} (h : classOutline? source m = .ok o) :
    ∃ o', classOutline? other (m.graft k d new) = .ok o' ∧
      Option.Rel (ClassOutline.Regrown (ListLiteral.stretch k d changed)) o o' := by
  obtain ⟨children, bodyChildren⟩ := returns.declaration_graft new full splits spliced hm
  refine classOutline?_map (Node.keeps_graft k d new) children
    (fun _ => returns.className?_graft full splits spliced hm)
    (returns.classExtends_graft full splits spliced hm)
    (fun _ => returns.classImplements_graft full splits spliced hm) ?_ h
  intro body' found ms read
  rw [bodyChildren body' found]
  exact membersFrom_map (Node.keeps_graft k d new)
    (fun c hc _ _ _ _ => returns.memberWithBody_graft full splits spliced hm found hc reread)
    (fun c hc => returns.sameSignature_graft full splits spliced hm found hc) read

end Parts

/-- The classes of a grafted source are the ones it had, apart from the list at the
end of the path. -/
theorem ofTree_graft (reread : listLiteral other (e.graft k d new) = .ok changed) {o : Outline}
    (h : ofTree source root = .ok o) :
    ∃ o', ofTree other (root.graft k d new) = .ok o' ∧
      List.Forall₂ (ClassOutline.Regrown (ListLiteral.stretch k d changed)) o.classes
        o'.classes := by
  obtain ⟨onlyClass, -, -, -⟩ := returns.splits_iff full splits
  have keeps := Node.keeps_graft k d new
  have children := Node.children_graft_of_child d new full.nested returns.declaration
    ((onlyClass n returns.declaration).2 rfl)
  have classes : (root.graft k d new).children.filter (fun m => m.named && isClass m.kind)
      = (root.children.filter fun m => m.named && isClass m.kind).map (Node.graft k d new) := by
    rw [children, List.filter_map]
    refine congrArg (List.map _) (List.filter_congr fun m _ => ?_)
    rw [Function.comp_apply, keeps.kind, keeps.named]
  obtain ⟨cs, some_, rfl⟩ := map_eq_ok.1 h
  obtain ⟨os, read, rfl⟩ := map_eq_ok.1 some_
  have each : ∀ m ∈ root.children.filter (fun m => m.named && isClass m.kind), ∀ o,
      classOutline? source m = .ok o →
        ∃ o', classOutline? other (m.graft k d new) = .ok o' ∧
          Option.Rel (ClassOutline.Regrown (ListLiteral.stretch k d changed)) o o' :=
    fun m hm o read =>
      returns.classOutline?_graft full splits spliced (List.mem_of_mem_filter hm) reread read
  obtain ⟨os', read', related⟩ : ∃ os',
      List.Forall₂ (fun m o' => classOutline? other m = .ok o')
        ((root.children.filter fun m => m.named && isClass m.kind).map (Node.graft k d new)) os' ∧
      List.Forall₂ (Option.Rel (ClassOutline.Regrown (ListLiteral.stretch k d changed))) os os' :=
    exists_forall₂_map (mapM_eq_ok.1 read) each
  refine ⟨⟨present os'⟩, ?_, List.rel_filterMap (fun _ _ each => each) related⟩
  rw [ofTree, classes, mapM_eq_ok.2 read']
  rfl

end Returns

/-! ## The list of a member -/

/-- The last class that passes a test on what it extends is the same. -/
theorem anchor?_regrown {g : ListLiteral → ListLiteral} {o o' : Outline} {c : ClassOutline}
    {text : String}
    (h : List.Forall₂ (ClassOutline.Regrown g) o.classes o'.classes)
    (anchor : o.anchor? (.extendsText text) = some c) :
    ∃ c', o'.anchor? (.extendsText text) = some c' ∧ ClassOutline.Regrown g c c' := by
  refine exists_getLast?_filter h (fun x y related => ?_) anchor
  rw [ClassTest.extendsText, ClassTest.extendsText, related.superclass]

/-- The list that a member of a name returns is the changed one. -/
theorem returnedList?_regrown {g : ListLiteral → ListLiteral} {c c' : ClassOutline}
    {name : String} {l : ListLiteral} (h : ClassOutline.Regrown g c c')
    (returned : c.returnedList? name = some l) : c'.returnedList? name = some (g l) := by
  have found : c'.member? name = (c.member? name).map (Member.mapList g) := by
    rw [ClassOutline.member?, h.members, List.find?_map]
    rfl
  unfold ClassOutline.returnedList? at returned ⊢
  rw [found]
  cases isMember : c.member? name with
  | none =>
      rw [isMember] at returned
      cases returned
  | some m =>
      rw [isMember] at returned
      dsimp only [Option.map_some] at returned ⊢
      split at returned
      · next expression =>
          rw [if_pos (show (m.mapList g).bodyKind = some .expression from expression)]
          rw [Member.mapList, returned]
          rfl
      · cases returned

end Outline

end RouteGraft
