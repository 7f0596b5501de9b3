import RouteGraft.Proofs.Sections

/-!
# Complete trees

In the tree of a source that has errors some signs are missing, and their nodes cover
no text.  A tree is *complete* if there is no such node in it, and if every list has
its brackets.

What is put in at the end of a list leaves a complete tree complete, if the new nodes
are (`Complete.graft`, `Place.complete_graft`).  So does a new section, whose builder
is complete (`Expression.Complete.newSection`).
-/

namespace RouteGraft

open Dart (Node Kind Field)

namespace Dart.Node

variable {k d : Int} {new : List Node} {n v : Node} {length : Nat}

/-! ## Complete trees -/

theorem Bracketed.map {f : Node → Node} {n' opening closing : Node} {front inside : List Node}
    (h : n.Bracketed front opening inside closing) (keeps : Keeps f)
    (children : n'.children = n.children.map f) :
    n'.Bracketed (front.map f) (f opening) (inside.map f) (f closing) := by
  refine ⟨?_, ?_, ?_, ?_⟩
  · rw [children, h.children]
    simp
  · rw [keeps.kind, h.opening]
  · rw [keeps.kind, h.closing]
  · intro c hc
    obtain ⟨c', hc', rfl⟩ := List.mem_map.1 hc
    rw [keeps.kind]
    exact h.front c' hc'

/-- A node that covers some text, and that has its brackets if it is a list. -/
structure IsComplete (n : Node) : Prop where
  wide : n.span.start < n.span.stop
  brackets : n.kind = .construct .listLiteral →
    ∃ front opening inside closing, n.Bracketed front opening inside closing

/-- A tree in which no sign is missing. -/
def Complete (n : Node) : Prop := ∀ m ∈ n.nodes, m.IsComplete

theorem complete_iff : n.Complete ↔ n.IsComplete ∧ ∀ c ∈ n.children, c.Complete := by
  constructor
  · intro h
    exact ⟨h n n.self_mem_nodes, fun c hc m hm => h m (mem_nodes_of_mem_children hc hm)⟩
  · intro ⟨self, below⟩ m hm
    rcases mem_nodes.1 hm with rfl | ⟨c, hc, hm⟩
    · exact self
    · exact below c hc m hm

namespace Complete

theorem wide (h : n.Complete) : n.Wide := fun m hm => (h m hm).wide

theorem of_mem_nodes {m : Node} (h : n.Complete) (hm : m ∈ n.nodes) : m.Complete :=
  fun m' hm' => h m' (mem_nodes_trans hm' hm)

theorem shift (h : n.Complete) (d : Int) : (n.shift d).Complete := by
  induction n using induct with
  | mk kind named field span children ih =>
      obtain ⟨self, below⟩ := complete_iff.1 h
      refine complete_iff.2 ⟨⟨?_, fun list => ?_⟩, ?_⟩
      · have wide := self.wide
        rw [span_shift, Span.start_shift, Span.stop_shift]
        omega
      · rw [kind_shift] at list
        obtain ⟨front, opening, inside, closing, bracketed⟩ := self.brackets list
        exact ⟨_, _, _, _, bracketed.map (keeps_shift d) (children_shift d _)⟩
      · intro c hc
        rw [children_shift] at hc
        obtain ⟨c', hc', rfl⟩ := List.mem_map.1 hc
        exact ih c' hc' (below c' hc')

/-- If the graft of a node is complete, so is the graft of the whole tree. -/
theorem graft (h : n.Complete) (full : n.Full length) (splits : v.span.Splits k) (le : 0 ≤ d)
    (grafted : (v.graft k d new).Complete) (hv : v ∈ n.nodes) : (n.graft k d new).Complete := by
  refine graft_of_mem_nodes full splits (fun m hm => h.of_mem_nodes hm)
    (fun m complete => complete.shift d) (fun m hm isSplit children below => ?_) grafted hv
  refine complete_iff.2 ⟨⟨?_, fun list => ?_⟩, ?_⟩
  · have wide := (h m hm).wide
    rw [span_graft, Span.stretch, Span.pick_of_splits isSplit]
    dsimp only
    omega
  · rw [kind_graft] at list
    obtain ⟨front, opening, inside, closing, bracketed⟩ := (h m hm).brackets list
    exact ⟨_, _, _, _, bracketed.map (keeps_graft k d new) children⟩
  · intro c hc
    rw [children] at hc
    obtain ⟨c', hc', rfl⟩ := List.mem_map.1 hc
    exact below c' hc'

end Complete

/-- Whether a list has its brackets. -/
def hasBrackets (n : Node) : Bool :=
  match n.children.dropWhile (·.kind ≠ .terminal .openBracket) with
  | [] => false
  | _ :: rest => rest.getLast?.any (·.kind = .terminal .closeBracket)

theorem bracketed_of_hasBrackets (h : n.hasBrackets = true) :
    ∃ front opening inside closing, n.Bracketed front opening inside closing := by
  unfold hasBrackets at h
  split at h
  · cases h
  · next opening rest dropped =>
      obtain ⟨closing, last, isClosing⟩ := (Option.any_eq_true _ _).1 h
      obtain ⟨inside, rfl⟩ := List.getLast?_eq_some_iff.1 last
      refine ⟨n.children.takeWhile (·.kind ≠ .terminal .openBracket), opening, inside, closing,
        ?_, ?_, of_decide_eq_true isClosing, fun c hc => ?_⟩
      · rw [← dropped, List.takeWhile_append_dropWhile]
      · have first := List.head?_dropWhile_not (·.kind ≠ .terminal .openBracket) n.children
        rw [dropped] at first
        simpa using first
      · simpa using List.all_eq_true.1 List.all_takeWhile c hc

/-- Whether a tree is complete. -/
def isComplete : Node → Bool
  | mk kind named field span children =>
      decide (span.start < span.stop) &&
        (decide (kind ≠ .construct .listLiteral) || (mk kind named field span children).hasBrackets)
        && areComplete children
where
  /-- Whether some trees are complete. -/
  areComplete : List Node → Bool
    | [] => true
    | n :: rest => n.isComplete && areComplete rest

theorem areComplete_iff {cs : List Node} :
    isComplete.areComplete cs = true ↔ ∀ c ∈ cs, c.isComplete = true := by
  induction cs with
  | nil => simp [isComplete.areComplete]
  | cons c rest ih => simp [isComplete.areComplete, ih]

theorem complete_of_isComplete {n : Node} : n.isComplete = true → n.Complete := by
  induction n using induct with
  | mk kind named field span children ih =>
      intro h
      simp only [isComplete, Bool.and_eq_true, Bool.or_eq_true, decide_eq_true_eq,
        areComplete_iff] at h
      obtain ⟨⟨wide, brackets⟩, below⟩ := h
      refine complete_iff.2 ⟨⟨wide, fun list => ?_⟩, fun c hc => ih c hc (below c hc)⟩
      rcases brackets with other | brackets
      · exact absurd list other
      · exact bracketed_of_hasBrackets brackets

/-- With complete nodes in its room a list is complete. -/
theorem Place.complete_graft {opening closing : Node} {front siblings inside gap : List Node}
    {comma : Bool} (place : n.Place front opening siblings closing comma k inside gap)
    (bracketed : n.Bracketed front opening siblings closing) (full : n.Full length) (le : 0 ≤ d)
    (complete : n.Complete) (new_complete : ∀ m ∈ new, m.Complete) :
    (n.graft k d new).Complete := by
  obtain ⟨self, below⟩ := complete_iff.1 complete
  rw [place.children_eq bracketed] at below
  refine complete_iff.2 ⟨⟨?_, fun _ => ?_⟩, ?_⟩
  · have wide := self.wide
    rw [span_graft, Span.stretch, Span.pick_of_splits (place.splits bracketed full)]
    dsimp only
    omega
  · exact ⟨_, _, _, _, place.bracketed_graft d new bracketed full⟩
  · rw [place.children_graft d new bracketed full]
    intro c hc
    rcases List.mem_append.1 hc with hc | hc
    · rcases List.mem_append.1 hc with hc | hc
      · exact below c (List.mem_append_left _ hc)
      · exact new_complete c hc
    · obtain ⟨c', hc', rfl⟩ := List.mem_map.1 hc
      exact (below c' (List.mem_append_right _ hc')).shift d

/-! ## Complete shapes -/

theorem complete_leaf {n : Node} (leaf : n.children = []) (wide : n.span.start < n.span.stop)
    (other : n.kind ≠ .construct .listLiteral) : n.Complete := by
  refine complete_iff.2 ⟨⟨wide, fun list => absurd list other⟩, ?_⟩
  rw [leaf]
  exact fun _ hc => absurd hc List.not_mem_nil

theorem complete_token {t : Dart.Terminal} {start stop : Int} (lt : start < stop) :
    (token t start stop).Complete :=
  complete_leaf rfl lt (by simp [token])

theorem complete_construct {c : Dart.Construct} {start stop : Int} {children : List Node}
    (wide : start < stop) (other : c ≠ .listLiteral) (below : ∀ m ∈ children, m.Complete) :
    (construct c start stop children).Complete := by
  refine complete_iff.2 ⟨⟨wide, fun list => absurd ?_ other⟩, below⟩
  cases list
  rfl

theorem complete_builderTypes {start stop : Int} (lt : start < stop) :
    (builderTypes start stop).Complete := by
  refine complete_of_isComplete ?_
  simp [builderTypes, construct, token, typeName, isComplete, isComplete.areComplete]
  omega

theorem complete_routesList {start stop behind : Int} {builder : List Node} (lt : start < stop)
    (behind_lt : stop + 21 < behind) (complete : ∀ n ∈ builder, n.Complete) :
    (routesList start stop behind builder).Complete := by
  refine complete_iff.2 ⟨⟨?_, fun _ => ⟨_, _, _, _, bracketed_routesList _ _ _ _⟩⟩, ?_⟩
  · simp [routesList, bracketed, construct]
    omega
  · rw [(bracketed_routesList start stop behind builder).children]
    intro n hn
    simp only [List.mem_append, List.mem_cons, List.not_mem_nil, or_false] at hn
    rcases hn with rfl | rfl | (hn | rfl) | rfl
    · exact complete_builderTypes lt
    · exact complete_token (by omega)
    · exact complete n hn
    · exact complete_token (by omega)
    · exact complete_token (by omega)

theorem complete_sectionCall {stop base behind : Int} {builder : List Node} (lt : stop + 33 < base)
    (behind_lt : base + 21 < behind) (complete : ∀ n ∈ builder, n.Complete) :
    (sectionCall stop base behind builder).Complete := by
  have value : (routesList (stop + 33) base behind builder).span.stop = behind + 9 := rfl
  have label : (construct .label (stop + 8) (stop + 15) [plainName (stop + 8) (stop + 15 - 1),
      token .colon (stop + 15 - 1) (stop + 15)]).Complete := by
    refine complete_of_isComplete ?_
    simp [construct, token, plainName, isComplete, isComplete.areComplete]
    omega
  have argument_complete :
      (argument (stop + 8) (stop + 15) (routesList (stop + 33) base behind builder)).Complete := by
    refine complete_construct (by rw [value]; omega) (by simp) ?_
    simp only [List.forall_mem_cons, List.not_mem_nil, false_implies, implies_true, and_true]
    exact ⟨label, complete_routesList lt behind_lt complete⟩
  refine complete_construct (by omega) (by simp) ?_
  simp only [List.forall_mem_cons, List.not_mem_nil, false_implies, implies_true, and_true]
  refine complete_construct (by omega) (by simp) ?_
  simp only [List.forall_mem_cons, List.not_mem_nil, false_implies, implies_true, and_true]
  refine complete_construct (by omega) (by simp) ?_
  simp only [List.cons_append, List.nil_append, List.forall_mem_cons, List.not_mem_nil,
    false_implies, implies_true, and_true]
  exact ⟨complete_token (by omega), argument_complete, complete_token (by omega),
    complete_token (by omega)⟩

end Dart.Node

/-! ## Complete expressions -/

namespace Expression

variable {x : Expression}

/-- An expression in which no sign is missing. -/
def Complete (x : Expression) : Prop := ∀ n ∈ x.nodes, n.Complete

/-- A complete expression is not empty. -/
theorem Complete.size_pos (h : x.Complete) : 0 < Utf8.size x.text := by
  obtain ⟨first, rest, shape, start, stop⟩ := x.whole
  have isNode : first ∈ x.nodes :=
    List.mem_of_mem_filter (shape ▸ (List.mem_cons_self : first ∈ first :: rest))
  have wide := (h first isNode).wide.self
  have inside := x.inside first isNode
  unfold Span.Inside at inside
  dsimp only at inside
  omega

/-- A new section with a complete builder is complete. -/
theorem Complete.newSection (h : x.Complete) {typeName base : String} (named : base ≠ "") :
    (x.newSection typeName base).Complete := by
  have head := size_sectionHead typeName base
  have base_pos := Utf8.size_pos named
  have builder_pos := h.size_pos
  have name_pos : 0 < nameStop typeName := by
    rw [nameStop, Utf8.size_append]
    have mapper : Utf8.size "Mapper" = 6 := rfl
    have := Utf8.size_nonneg typeName
    omega
  have nodes : (x.newSection typeName base).nodes
    = [Node.plainName 0 (nameStop typeName), x.newCall typeName base] := rfl
  rw [Complete, nodes]
  simp only [List.forall_mem_cons, List.not_mem_nil, false_implies, implies_true, and_true]
  refine ⟨Node.complete_leaf rfl name_pos (by simp [Node.plainName]),
    Node.complete_sectionCall (by omega) ?_ fun n hn => ?_⟩
  · rw [builderStop]
    omega
  · obtain ⟨m, hm, rfl⟩ := List.mem_map.1 hn
    exact (h m hm).shift _

theorem Complete.placed {comma : Bool} {k : Int} (h : x.Complete) :
    ∀ m ∈ x.placed comma k, m.Complete := by
  intro m hm
  rcases mem_placed hm with ⟨-, rfl⟩ | ⟨n, hn, rfl⟩ | rfl
  · exact Node.complete_token (by omega)
  · exact (h n hn).shift _
  · exact Node.complete_token (by omega)

end Expression

end RouteGraft
