import RouteGraft.Proofs.CommentedClasses

/-!
# Declared members

The reader of a class body goes through its children with one member in hand, which is still
to be given a body (`Outline.membersFrom`).  Which members there are can be said without it,
by looking at two neighbours at a time.  A child that has a signature declares a member, and
the body of that member is the next child, if that is a body (`declaredAt`).

The members of a class body are those that its children declare once all comments are taken
out, each read with its own body (`membersFrom_eq_declaredIn`).  This is an equation between
readings, so a class body is read without an error whenever each declared member is, and
otherwise the error is that of the first member that has one.
-/

namespace RouteGraft

open Dart (Node)

namespace Outline

variable {source : Bytes} {c : Node} {cs rest : List Node} {i : Nat}

/-! ## What is declared where -/

/-- The child at an index, if it is a body. -/
def bodyAt? (cs : List Node) (i : Nat) : Option Node :=
  cs[i]?.filter (·.kind = .construct .functionBody)

/-- A member before it is read. -/
structure Declared where
  /-- The node that names it. -/
  name : Node
  /-- What it is. -/
  kind : MemberKind
  /-- Its body, if it has one. -/
  body : Option Node

/-- The member that the child at an index declares.  Its body can only be the child behind
it. -/
def declaredAt (cs : List Node) (i : Nat) : Option Declared :=
  (cs[i]?.bind signature?).map fun s => ⟨s.1, s.2, bodyAt? cs (i + 1)⟩

/-- The members that some children declare, in order. -/
def declaredIn (cs : List Node) : List Declared := (List.range cs.length).filterMap (declaredAt cs)

theorem bodyAt?_eq_some {b : Node} :
    bodyAt? cs i = some b ↔ cs[i]? = some b ∧ b.kind = .construct .functionBody := by
  rw [bodyAt?, Option.filter_eq_some_iff, decide_eq_true_iff]

theorem declaredAt_eq_some {d : Declared} :
    declaredAt cs i = some d ↔
      (∃ c, cs[i]? = some c ∧ signature? c = some (d.name, d.kind)) ∧
        d.body = bodyAt? cs (i + 1) := by
  obtain ⟨name, kind, body⟩ := d
  simp only [declaredAt, Option.map_eq_some_iff, Option.bind_eq_some_iff, Declared.mk.injEq]
  constructor
  · rintro ⟨⟨_, _⟩, signature, rfl, rfl, rfl⟩
    exact ⟨signature, rfl⟩
  · rintro ⟨signature, rfl⟩
    exact ⟨(name, kind), signature, rfl, rfl, rfl⟩

/-- The first child declares what is seen of it and its neighbour, and the others declare
what they do without it. -/
theorem declaredIn_cons (c : Node) (rest : List Node) :
    declaredIn (c :: rest) = (declaredAt (c :: rest) 0).toList ++ declaredIn rest := by
  have later : declaredAt (c :: rest) ∘ Nat.succ = declaredAt rest := rfl
  rw [declaredIn, List.length_cons, List.range_succ_eq_map, List.filterMap_cons,
    List.filterMap_map, later, ← declaredIn]
  cases declaredAt (c :: rest) 0 <;> rfl

theorem declaredIn_of_none (none_ : signature? c = none) :
    declaredIn (c :: rest) = declaredIn rest := by
  simp [declaredIn_cons, declaredAt, none_]

theorem declaredIn_of_some {name : Node} {kind : MemberKind}
    (declares : signature? c = some (name, kind)) :
    declaredIn (c :: rest) = ⟨name, kind, bodyAt? rest 0⟩ :: declaredIn rest := by
  simp [declaredIn_cons, declaredAt, declares, bodyAt?]

/-- A body that does not stand right behind a signature can be left out. -/
theorem declaredIn_of_stray {b : Node} (isBody : b.kind = .construct .functionBody)
    (front back : List Node) (stray : ∀ c, front.getLast? = some c → signature? c = none) :
    declaredIn (front ++ b :: back) = declaredIn (front ++ back) := by
  induction front with
  | nil => exact declaredIn_of_none (signature?_of_body isBody)
  | cons c front ih =>
      cases front with
      | nil =>
          -- the body moves up to a node without a signature
          have none_ := stray c rfl
          rw [List.cons_append, List.cons_append, declaredIn_of_none none_,
            declaredIn_of_none none_]
          exact ih nofun
      | cons c' front =>
          have first : declaredAt (c :: c' :: front ++ b :: back) 0
              = declaredAt (c :: c' :: front ++ back) 0 := rfl
          rw [List.cons_append, declaredIn_cons, ih stray, ← List.cons_append, first,
            List.cons_append, ← declaredIn_cons]

/-! ## What is read of it -/

/-- The member of a name and a kind with a body or without one. -/
def memberOf (source : Bytes) (name : String) (kind : MemberKind) : Option Node → Reading Member
  | some body => memberWithBody source name kind body
  | none => .ok ⟨name, kind, none, none, none⟩

/-- The reading of a declared member. -/
def Declared.read (source : Bytes) (d : Declared) : Reading Member := do
  memberOf source (← d.name.span.text source) d.kind d.body

/-- The reading of the member in hand, with the next child in sight if that is a body. -/
def Pending.read (source : Bytes) (body : Option Node) : Pending → Reading (List Member)
  | some (name, kind) => (memberOf source name kind body).map ([·])
  | none => .ok []

theorem Pending.read_none (p : Pending) : p.read source none = .ok p.flush := by
  cases p with
  | none => rfl
  | some declared => rfl

/-- Members that are given a body have its form. -/
theorem memberWithBody_form {name : String} {kind : MemberKind} {body : Node} {m : Member}
    (read : memberWithBody source name kind body = .ok m) :
    m.name = name ∧ m.kind = kind ∧ m.bodyKind.isSome = true := by
  unfold memberWithBody at read
  split at read
  · cases read
    exact ⟨rfl, rfl, rfl⟩
  · split at read
    · obtain ⟨l, -, ok⟩ := bind_eq_ok.1 read
      cases ok
      exact ⟨rfl, rfl, rfl⟩
    · cases read
      exact ⟨rfl, rfl, rfl⟩

theorem memberOf_form {name : String} {kind : MemberKind} {body : Option Node} {m : Member}
    (read : memberOf source name kind body = .ok m) :
    m.name = name ∧ m.kind = kind ∧ m.bodyKind.isSome = body.isSome := by
  cases body with
  | none =>
      cases read
      exact ⟨rfl, rfl, rfl⟩
  | some body => exact memberWithBody_form read

/-- The member in hand gets the first child if that is a body, and the rest is declared by the
children. -/
theorem membersFrom_eq_pending (p : Pending) (plain : ∀ c ∈ cs, c.isComment = false) :
    membersFrom source p cs = do
      let first ← p.read source (bodyAt? cs 0)
      return first ++ (← (declaredIn cs).mapM (Declared.read source)) := by
  induction cs generalizing p with
  | nil =>
      have none_ : bodyAt? [] 0 = none := rfl
      rw [membersFrom.eq_def, none_, p.read_none]
      exact congrArg Except.ok (List.append_nil _).symm
  | cons c rest ih =>
      have later (p : Pending) := ih p fun c' hc' => plain c' (List.mem_cons_of_mem c hc')
      rw [membersFrom.eq_def]
      dsimp only
      rw [if_neg (by simp [plain c List.mem_cons_self])]
      split
      case isTrue isBody =>
        have body : bodyAt? (c :: rest) 0 = some c := bodyAt?_eq_some.2 ⟨rfl, isBody⟩
        rw [declaredIn_of_none (signature?_of_body isBody), body, later none]
        cases p with
        | none => rfl
        | some declared =>
            dsimp only [Pending.read, memberOf]
            cases memberWithBody source declared.1 declared.2 c with
            | error e => rfl
            | ok m => cases (declaredIn rest).mapM (Declared.read source) <;> rfl
      case isFalse noBody =>
        have none_ : bodyAt? (c :: rest) 0 = none := by simp [bodyAt?, noBody]
        rw [none_, p.read_none]
        cases declares : signature? c with
        | none =>
            rw [declaredIn_of_none declares, later none]
            cases (declaredIn rest).mapM (Declared.read source) <;> rfl
        | some s =>
            -- the member in hand has no body, and the next one is taken up
            obtain ⟨n, kind⟩ := s
            rw [declaredIn_of_some declares, List.mapM_cons]
            dsimp only
            cases text : n.span.text source with
            | error e => rw [Declared.read, text]; rfl
            | ok name =>
                have first : Declared.read source ⟨n, kind, bodyAt? rest 0⟩
                    = memberOf source name kind (bodyAt? rest 0) := by
                  rw [Declared.read, text]
                  rfl
                have taken := later (some (name, kind))
                refine (congrArg (· >>= fun ms => .ok (p.flush ++ ms)) taken).trans ?_
                rw [first, Pending.read]
                cases memberOf source name kind (bodyAt? rest 0) with
                | error e => rfl
                | ok m => cases (declaredIn rest).mapM (Declared.read source) <;> rfl

/-! ## Class bodies -/

/-- A declared member is read if its name can be decoded and its body can be read.  It is a
member without a body exactly if none was declared. -/
theorem Declared.read_eq_ok {d : Declared} {m : Member} :
    d.read source = .ok m ↔
      d.name.span.text source = .ok m.name ∧ m.kind = d.kind ∧
        m.bodyKind.isSome = d.body.isSome ∧ memberOf source m.name d.kind d.body = .ok m := by
  constructor
  · intro read
    obtain ⟨name, text, member⟩ := bind_eq_ok.1 read
    obtain ⟨rfl, kind, body⟩ := memberOf_form member
    exact ⟨text, kind, body, member⟩
  · rintro ⟨text, -, -, member⟩
    exact bind_eq_ok.2 ⟨m.name, text, member⟩

/-- Where there are no comments, and no member is in hand, all members are declared. -/
theorem membersFrom_of_plain (plain : ∀ c ∈ cs, c.isComment = false) :
    membersFrom source none cs = (declaredIn cs).mapM (Declared.read source) := by
  rw [membersFrom_eq_pending none plain]
  dsimp only [Pending.read]
  cases (declaredIn cs).mapM (Declared.read source) <;> rfl

/-- Whatever the children of a class body are, its members are those that its children declare
without the comments, in their order.  A child declares a member if it has a signature, and
nothing else does.  The body of a member is the next child, if that is a body, and otherwise
the member has none.  A body that does not stand right behind a signature makes no
difference. -/
theorem membersFrom_eq_declaredIn (source : Bytes) (body : Node) :
    membersFrom source none body.children
      = (declaredIn body.content).mapM (Declared.read source) ∧
    (∀ i d, declaredAt body.content i = some d ↔
      (∃ c, body.content[i]? = some c ∧ signature? c = some (d.name, d.kind)) ∧
        ∀ b, d.body = some b ↔
          body.content[i + 1]? = some b ∧ b.kind = .construct .functionBody) ∧
    (∀ (d : Declared) m, d.read source = .ok m ↔
      d.name.span.text source = .ok m.name ∧ m.kind = d.kind ∧
        m.bodyKind.isSome = d.body.isSome ∧
        memberOf source m.name d.kind d.body = .ok m) ∧
    ∀ front b back, body.content = front ++ b :: back → b.kind = .construct .functionBody →
      (∀ c, front.getLast? = some c → signature? c = none) →
      membersFrom source none body.children = membersFrom source none (front ++ back) := by
  have plain : ∀ c ∈ body.content, c.isComment = false := fun c hc => by
    simpa using (List.mem_filter.1 hc).2
  have all : membersFrom source none body.content = membersFrom source none body.children :=
    membersFrom_filter none body.children
  rw [← all, membersFrom_of_plain plain]
  refine ⟨rfl, fun i d => ?at_, fun d m => Declared.read_eq_ok, ?stray⟩
  case at_ =>
    rw [declaredAt_eq_some, Option.ext_iff]
    simp only [bodyAt?_eq_some]
  case stray =>
    intro front b back split isBody stray
    have fewer : ∀ c ∈ front ++ back, c ∈ body.content := fun c hc => by
      rw [split]
      rcases List.mem_append.1 hc with inFront | inBack
      · exact List.mem_append_left _ inFront
      · exact List.mem_append_right _ (List.mem_cons_of_mem b inBack)
    rw [membersFrom_of_plain fun c hc => plain c (fewer c hc), split,
      declaredIn_of_stray isBody front back stray]

namespace Sample

/-- A class body with a getter, a method without a body, and bodies that belong to nothing. -/
def strayBodies : Bytes := Utf8.encode "\x7b=>a;get b/**/=>c;f();=>d;\x7d"

/-- A body that is an arrow and a name of one letter. -/
def arrowBody (start : Int) : Node :=
  Node.construct .functionBody start (start + 4)
    [Node.token .arrow start (start + 2), Node.plainName (start + 2) (start + 3),
      Node.token .semicolon (start + 3) (start + 4)]

/-- The children of the class body up to the body at the end, without the comment. -/
def strayFront : List Node :=
  [Node.token .openBrace 0 1, arrowBody 1,
    Node.construct .methodSignature 5 10
      [Node.construct .getterSignature 5 10
        [Node.token .get_ 5 8, (Node.plainName 9 10).withField .name]],
    arrowBody 14,
    Node.construct .declaration 18 21
      [Node.construct .functionSignature 18 21 [(Node.plainName 18 19).withField .name]],
    Node.token .semicolon 21 22]

/-- The class body, with a comment between the getter and its body. -/
def strayBodiesTree : Node :=
  Node.construct .classBody 0 27
    (strayFront.insertIdx 3 (.mk .documentationComment true none ⟨10, 14⟩ [])
      ++ [arrowBody 22, Node.token .closeBrace 26 27])

end Sample

theorem membersFrom_eq_declaredIn_strayBodies :
    membersFrom Sample.strayBodies none Sample.strayBodiesTree.children
        = .ok [⟨"b", .getter, some .expression, some "identifier", none⟩,
            ⟨"f", .method, none, none, none⟩] ∧
      membersFrom Sample.strayBodies none Sample.strayBodiesTree.children
        = membersFrom Sample.strayBodies none
            (Sample.strayFront ++ [Node.token .closeBrace 26 27]) := by
  obtain ⟨members, -, -, stray⟩ :=
    membersFrom_eq_declaredIn Sample.strayBodies Sample.strayBodiesTree
  refine ⟨members.trans rfl, stray Sample.strayFront (Sample.arrowBody 22) _ rfl rfl ?_⟩
  rintro c ⟨⟩
  rfl

end Outline

end RouteGraft
