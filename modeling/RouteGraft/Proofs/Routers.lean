import RouteGraft.Proofs.Completeness
import RouteGraft.Proofs.Returned

/-!
# The routers of a mapper

The routers of the last mapper of a source are the list that one of its members
returns.  They were read from a node of the tree (`exists_routers`).  If that node is
split by what is put into the source, the routers of the new source are what is read
from its graft (`routers?_graft`).

An entry goes into a list in an argument of a router, and there is a node for this
list too, with a path to it from the routers (`exists_routes`).
-/

namespace RouteGraft

open Dart (Node Kind Field)

namespace Dart.Node

/-- What the grammar says of the tree of a source in which no sign is missing: it is
well nested and complete, and the body of a class is a class body and stands in its
field. -/
structure Sound (root : Node) (length : Nat) : Prop extends root.WellNested length where
  complete : root.Complete
  bodies : ∀ n ∈ root.children, ∀ body, Outline.classBody? n = some body →
    body.kind = .construct .classBody ∧ body.field = some .body

theorem Sound.full {root : Node} {length : Nat} (h : root.Sound length) : root.Full length :=
  ⟨h.toWellNested, h.complete.wide⟩

end Dart.Node

/-- The list that the routers of the last mapper of a source are. -/
def Outline.routers? (names : Names) (o : Outline) : Option ListLiteral :=
  (o.anchor? (.extendsText names.routeMapperName)).bind (·.returnedList? names.routersMethod)

/-- The routers of a well-nested tree are well nested and lie inside of the source. -/
theorem Outline.routers?_wellNested {source : Bytes} {root : Node} {o : Outline} {names : Names}
    {l : ListLiteral} (tree : root.WellNested source.length) (read : ofTree source root = .ok o)
    (routers : o.routers? names = some l) :
    l.WellNested ∧ l.span.Inside ⟨0, source.length⟩ := by
  obtain ⟨c, anchor, returned⟩ := Option.bind_eq_some_iff.1 routers
  obtain ⟨nested, inside⟩ := class_wellNested tree read (anchor?_passes anchor).1
  have isReturned := ClassOutline.returnedList?_mem returned
  exact ⟨nested.lists l isReturned, (nested.inside l isReturned).trans inside⟩

/-- An entry goes to the end of the first list of routes of its kind. -/
theorem Insertion.planMapperEntry_of_routes (section_ entry path : String) {names : Names}
    {typeName callee : String} {o : Outline} {routers routes : ListLiteral}
    (h : o.routers? names = some routers)
    (found : routers.elements.findSome? (routesOf? names typeName) = some (callee, routes)) :
    ∃ note, planMapperEntry names section_ entry typeName path o
      = .ok ⟨(routes.append entry).1, (routes.append entry).2, note⟩ := by
  obtain ⟨c, anchor, returned⟩ := Option.bind_eq_some_iff.1 h
  rw [planMapperEntry, anchor]
  dsimp only
  rw [returned]
  dsimp only
  rw [found]
  exact ⟨_, rfl⟩

/-- Without such a list a section goes to the end of the routers. -/
theorem Insertion.planMapperEntry_of_none (section_ entry path : String) {names : Names}
    {typeName : String} {o : Outline} {routers : ListLiteral}
    (h : o.routers? names = some routers)
    (found : routers.elements.findSome? (routesOf? names typeName) = none) :
    ∃ note, planMapperEntry names section_ entry typeName path o
      = .ok ⟨(routers.append section_).1, (routers.append section_).2, note⟩ := by
  obtain ⟨c, anchor, returned⟩ := Option.bind_eq_some_iff.1 h
  rw [planMapperEntry, anchor]
  dsimp only
  rw [returned]
  dsimp only
  rw [found]
  exact ⟨_, rfl⟩

namespace Outline

variable {source other : Bytes} {k d : Int} {new : List Node} {root : Node} {o : Outline}
variable {names : Names} {routers : ListLiteral}

/-! ## The node of the routers -/

/-- The routers were read from a node at the end of a path from the root. -/
theorem exists_routers (sound : root.Sound source.length) (read : ofTree source root = .ok o)
    (h : o.routers? names = some routers) :
    ∃ n body b e, Returns root n body b e ∧ e.kind = .construct .listLiteral ∧
      Reads source e routers := by
  obtain ⟨c, anchor, returned⟩ := Option.bind_eq_some_iff.1 h
  obtain ⟨n, hn, -, read⟩ := class_node read (anchor?_passes anchor).1
  obtain ⟨body, -, -, hbody, -, -, -, -, members, -⟩ := classOutline?_eq_some.1 read
  obtain ⟨bodies, sub, related⟩ := membersFrom_returned members
  obtain ⟨b, hb, isBody, e, parts, kind, read⟩ :=
    exists_left_of_mem related (ClassOutline.returnedList?_mem returned)
  obtain ⟨bodyKind, bodyField⟩ := sound.bodies n hn body hbody
  have isPart : e ∈ b.parts := parts ▸ List.mem_singleton_self e
  have bodyFull := (sound.full.child hn).child (Node.fieldOrChild?_eq_some hbody).1
  have eFull := (bodyFull.child (sub.subset hb)).child (Node.mem_children_of_mem_parts isPart)
  exact ⟨n, body, b, e, ⟨hn, hbody, bodyKind, bodyField, sub.subset hb, isBody, isPart⟩, kind,
    (reads_iff eFull.nested).2 read⟩

theorem Returns.full {n body b e : Node} (h : Returns root n body b e)
    (full : root.Full source.length) : e ∈ root.nodes ∧ e.Full source.length := by
  have isBody := (Node.fieldOrChild?_eq_some h.classBody).1
  have isNode : e ∈ root.nodes := Node.mem_nodes_of_mem_children h.declaration
    (Node.mem_nodes_of_mem_children isBody (Node.mem_nodes_of_mem_children h.member
      (Node.child_mem_nodes (Node.mem_children_of_mem_parts h.list))))
  exact ⟨isNode, full.of_mem_nodes isNode⟩

/-- If the graft of a part of the routers is nested and complete, so is that of the
source. -/
theorem Returns.sound_graft {n body b e v : Node} (returns : Returns root n body b e)
    (sound : root.Sound source.length) (splits : v.span.Splits k) (hv : v ∈ e.nodes)
    (spliced : Span.Spliced source other k d) (length : (other.length : Int) = source.length + d)
    (le : 0 ≤ d) (nested : (v.graft k d new).Nested) (complete : (v.graft k d new).Complete) :
    (root.graft k d new).Sound other.length := by
  have full := sound.full
  obtain ⟨isNode, eFull⟩ := returns.full full
  have hv' := Node.mem_nodes_trans hv isNode
  have eSplits := splits.of_inside (eFull.nested.of_mem_nodes v hv).2
  have rootSplits := splits.of_inside (full.nested.of_mem_nodes v hv').2
  obtain ⟨onlyClass, -⟩ := returns.splits_iff full eSplits
  have isSplit := (onlyClass n returns.declaration).2 rfl
  have children := Node.children_graft_of_child d new full.nested
    returns.declaration isSplit
  refine ⟨⟨full.nested_graft splits le nested hv', ?_⟩,
    sound.complete.graft full splits le complete hv', fun m hm body' found => ?_⟩
  · have inside := full.inside
    unfold Span.Inside at *
    rw [Node.span_graft, Span.stretch, Span.pick_of_splits rootSplits, length]
    dsimp only at *
    omega
  · rw [children] at hm
    obtain ⟨m', hm', rfl⟩ := List.mem_map.1 hm
    have keeps := Node.keeps_graft k d new
    have same : classBody? (m'.graft k d new) = (classBody? m').map (Node.graft k d new) :=
      keeps.fieldOrChild? (returns.declaration_graft new full eSplits spliced hm').1 _ _
    rw [same] at found
    obtain ⟨body, was, rfl⟩ := Option.map_eq_some_iff.1 found
    rw [Node.kind_graft, Node.field_graft]
    exact sound.bodies m' hm' body was

/-- If the node of the routers is split, the new routers are read from its graft. -/
theorem routers?_graft {n body b e : Node} {changed : ListLiteral}
    (returns : Returns root n body b e) (full : root.Full source.length)
    (splits : e.span.Splits k) (spliced : Span.Spliced source other k d)
    (was : Reads source e routers) (reread : Reads other (e.graft k d new) changed)
    (read : ofTree source root = .ok o) (h : o.routers? names = some routers) :
    ∃ o', ofTree other (root.graft k d new) = .ok o' ∧ o'.routers? names = some changed := by
  obtain ⟨c, anchor, returned⟩ := Option.bind_eq_some_iff.1 h
  obtain ⟨o', read', related⟩ := returns.ofTree_graft full splits spliced
    (reread _ (Nat.le_refl _)) read
  obtain ⟨c', anchor', regrown⟩ := anchor?_regrown related anchor
  have returned' := returnedList?_regrown regrown returned
  have span := listLiteralTo_span (was _ (Nat.le_refl _))
  rw [ListLiteral.stretch_of_splits (span ▸ splits)] at returned'
  exact ⟨o', read', Option.bind_eq_some_iff.2 ⟨c', anchor', returned'⟩⟩

/-! ## The node of a list of routes -/

/-- A list in an argument of an element was read from a node in the arguments of the
call that the element is. -/
theorem ReadsElement.holds {list : Node → Reading ListLiteral} {group : List Node}
    {x : ListElement} (h : ReadsElement list source group x) {a : NamedArgument}
    (ha : a ∈ x.namedArguments) {l : ListLiteral} (value : a.value = some l) :
    ∃ call ∈ group, ∃ arguments argument v, Holds call arguments argument v ∧
      list v = .ok l := by
  obtain ⟨first, rest, rfl, read⟩ := h
  unfold listElement at read
  split at read
  · cases read
    exact absurd ha List.not_mem_nil
  · next name arguments plain =>
      simp only [bind_eq_ok] at read
      obtain ⟨callee, -, as, argumentsRead, eq⟩ := read
      cases eq
      obtain ⟨call, group, -, selector, search⟩ := plainCall?_eq_some.1 plain
      obtain ⟨kept, sub, related⟩ := namedArguments_eq_ok argumentsRead
      obtain ⟨argument, hargument, argumentRead⟩ := exists_left_of_mem related ha
      have valueRead := (namedArgument?_eq_some argumentRead).2
      rw [value] at valueRead
      obtain ⟨v, isPart, kind, vRead⟩ := argumentValue_eq_some valueRead
      exact ⟨call, by simp [group], arguments, argument, v,
        ⟨selector, search, sub.subset hargument, isPart, kind⟩, vRead⟩

/-- A list in an argument of an element of a list was read from a node of it. -/
theorem exists_routes {e : Node} {x : ListElement} {a : NamedArgument} {l : ListLiteral}
    (full : e.Full source.length) (read : Reads source e routers) (hx : x ∈ routers.elements)
    (ha : a ∈ x.namedArguments) (value : a.value = some l) :
    ∃ call arguments argument v,
      call ∈ (Node.commaGroups (insideBrackets e).1).groups.flatten ∧ v ∈ e.nodes ∧
        Holds call arguments argument v ∧ Reads source v l := by
  have read := read (e.height - 1 + 1) (by have := e.height_pos; omega)
  rw [listLiteralTo, listLiteralWith_eq_ok] at read
  obtain ⟨group, hgroup, read⟩ := exists_left_of_mem read.2.2.2 hx
  obtain ⟨call, hcall, arguments, argument, v, holds, read⟩ := read.holds ha value
  have inFlatten := List.mem_flatten_of_mem hgroup hcall
  have isChild := mem_children_of_mem_group hgroup hcall
  have isNode := holds.value_mem_nodes
  have low := Node.height_le_of_mem_nodes isNode
  have lower := Node.height_lt_of_mem_children isChild
  have vFull := (full.child isChild).of_mem_nodes isNode
  exact ⟨call, arguments, argument, v, inFlatten,
    Node.mem_nodes_of_mem_children isChild isNode, holds,
    reads_of_listLiteralTo vFull.nested (by omega) read⟩

end Outline

end RouteGraft
