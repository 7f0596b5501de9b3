import RouteGraft.Parsing.Graph

/-!
# Reading a text by a grammar

`parse` reads a text as one construct.  Where the grammar leaves open how to go
on it follows all ways at once.  Each way is a *version*, with a stack in a
graph that the versions share.

A text is given by a `Source`, which cuts it into terminals as they are asked
for: what a terminal is can depend on what is expected.  A terminal may also
have a second meaning, which counts where the first one is not expected.

A version advances terminal by terminal.  Before a terminal it makes all the
reductions that its state decides for.  Each gives a new version, and what the
terminal is read on by is the version itself.  If it is not read on, the first
new version of the last reduction takes its place.  New versions that meet an
older one on the same state are merged with it.

Versions advance in rounds, so that they stay close to each other and can meet:
each goes on until it is behind the last place that another has reached.  After
a round the versions that ended are dropped.  One that is stuck is dropped if
another one is not.  Of the rest those that can be are merged, the preferred
ones come first, and at most `maxVersions` go on.

Reading comes to one of three ends (`Outcome`).  Versions that read the whole
text give its tree, and of several trees the better one.  If there are none,
but one of the last versions was stuck at the end of the text, more text could
have saved it, and the text is unfinished.  Else it is refused: no text that
goes on from there is any better.
-/

namespace RouteGraft.Parsing

/-- A text that is cut into terminals as they are asked for. -/
structure Source where
  /-- The number of places. -/
  size : Nat
  /-- The terminal at a place, where some are expected, and the place behind. -/
  read : Lookahead → Nat → Option (Nat × Nat)
  /-- The second meaning of a terminal. -/
  otherwise : Nat → Option Nat

/-- What a version is doing. -/
inductive Status where
  | active
  /-- It has nothing to do with the next terminal. -/
  | stuck (atEnd : Bool)
  | ended
  deriving DecidableEq, Repr

/-- One way of reading a text. -/
structure Version where
  /-- The top of its stack. -/
  top : Nat
  status : Status
  deriving DecidableEq, Repr

/-- All that a parser knows. -/
structure Run where
  graph : Graph
  versions : List Version
  /-- The best tree of the whole text so far. -/
  best : Option Tree

/-- What comes of reading a text. -/
inductive Outcome where
  | read (tree : Tree)
  /-- The text is the start of one that can be read. -/
  | unfinished
  | refused
  deriving Repr

namespace Run

/-- The number of versions that go on after a round. -/
def maxVersions : Nat := 6

/-- How many more versions there can be within a round. -/
def spareVersions : Nat := 4

variable (g : Grammar)

/-- A version by its number.  One that is not there has ended. -/
def version (run : Run) (n : Nat) : Version := run.versions.getD n ⟨0, .ended⟩

/-- The vertex on top of a version. -/
def top (run : Run) (v : Version) : Vertex := run.graph.vertex v.top

/-- Whether two versions can be taken for one. -/
def canMerge (run : Run) (v w : Version) : Bool :=
  v.status = .active && w.status = .active
    && (v.top = w.top || run.graph.mergeable g v.top w.top)

/-! ## Reductions -/

/-- The tree of a reduced item over the better one of some lists of parts. -/
def reducedTree (item : Item) (parts : List (List Tree)) : Tree :=
  match parts.map (Tree.ofChildren item.construct item.preference) with
  | [] => default
  | t :: rest => rest.foldl Tree.better t

/-- A new version, which is merged with an earlier one if it can be.  The
version numbered `self` is left alone. -/
def addVersion (run : Run) (self : Nat) (v : Version) : Run :=
  match run.versions.zipIdx.find? fun (w, i) => i ≠ self && run.canMerge g w v with
  | some (w, _) => { run with graph := run.graph.merge g w.top v.top }
  | none => { run with versions := run.versions ++ [v] }

/-- Reduces an item on top of the version numbered `self`.  Each vertex where
the parts of the item can start gives a new version. -/
def reduce (run : Run) (self : Nat) (item : Item) : Run :=
  let before := run.versions.countP (·.status = .ended)
  let groups := Graph.grouped (run.graph.paths (run.version self).top item.size)
  groups.foldl (fun run (base, parts) =>
    if maxVersions + spareVersions + before < run.versions.length then run
    else
      let state := g.advance (run.graph.vertex base).state (g.terminals + item.construct)
      let v : Version := ⟨run.graph.size, .active⟩
      ({ run with graph := run.graph.push base state (reducedTree item parts) }).addVersion
        g self v) run

/-- Makes the reductions of a version.  Gives the number of the first new
version of the last one that gave any. -/
def reduceAll (run : Run) (self : Nat) (items : List Nat) : Run × Option Nat :=
  items.foldl (fun (run, last) i =>
    let count := run.versions.length
    let run := run.reduce g self (g.item i)
    (run, if count < run.versions.length then some count else last)) (run, none)

/-! ## Advancing -/

/-- A version with another status. -/
def setStatus (run : Run) (self : Nat) (status : Status) : Run :=
  { run with versions := run.versions.modify self fun v => { v with status } }

/-- Takes the readings of the whole text on top of a version. -/
def accept (run : Run) (self : Nat) (item : Item) : Run :=
  let trees := (run.graph.paths (run.version self).top item.size).map fun (_, parts) =>
    Tree.ofChildren item.construct item.preference parts
  let best := trees.foldl (fun best t => some ((best.map (·.better t)).getD t)) run.best
  { run with best }.setStatus self .ended

/-- Reads a terminal, which ends at a place, on top of a version. -/
def shift (run : Run) (self : Nat) (t stop : Nat) : Run :=
  let v := (run.version self).top
  let vertex := run.graph.vertex v
  let top := run.graph.size
  { run with
    graph := run.graph.push v (g.advance vertex.state t) (.leaf t vertex.place stop)
    versions := run.versions.modify self fun w => { w with top } }

/-- Advances a version over a terminal, with at most so many rounds of
reductions. -/
def advanceOver (goal : Nat) (source : Source) (self : Nat) :
    (fuel : Nat) → Run → (t stop : Nat) → Run
  | 0, run, _, _ => run.setStatus self .ended
  | fuel + 1, run, t, stop =>
      let state := (run.top (run.version self)).state
      let decision := g.decide state t
      match decision.reduced.find? fun i => (g.item i).construct = goal with
      | some i => run.accept self (g.item i)
      | none =>
          let (run, last) := run.reduceAll g self decision.reduced
          if decision.shift = .always then run.shift g self t stop
          else
            match last with
            | some n =>
                let versions := (run.versions.set self (run.version n)).eraseIdx n
                advanceOver goal source self fuel { run with versions } t stop
            | none =>
                if !decision.reduced.isEmpty then run.setStatus self .ended
                else
                  match source.otherwise t with
                  | some u =>
                      if (g.expects state).testBit u then
                        advanceOver goal source self fuel run u stop
                      else run.setStatus self (.stuck false)
                  | none => run.setStatus self (.stuck (t = g.endOfText))

/-- Advances a version over the next terminal.  Each round of reductions takes
trees off the stack or goes from a construct to one that it starts, so their
number is bounded by the place and the number of constructs. -/
def advance (goal : Nat) (source : Source) (run : Run) (self : Nat) : Run :=
  let vertex := run.top (run.version self)
  let fuel := (vertex.place + 1) * (g.constructs + 1)
  if source.size ≤ vertex.place then
    run.advanceOver g goal source self fuel g.endOfText vertex.place
  else
    match source.read (g.expects vertex.state) vertex.place with
    | some (t, stop) => run.advanceOver g goal source self fuel t stop
    | none => run.setStatus self (.stuck false)

/-! ## Rounds -/

/-- Advances a version until it is behind the last place, over at most so many
terminals.  Gives the last place after that. -/
def catchUp (goal : Nat) (source : Source) (self : Nat) : (fuel : Nat) → (last : Nat) → Run →
    Run × Nat
  | 0, last, run => (run, last)
  | fuel + 1, last, run =>
      if (run.version self).status ≠ .active then (run, last)
      else
        let run := run.advance g goal source self
        let place := (run.top (run.version self)).place
        if last < place || (0 < self && place = last) then (run, place)
        else catchUp goal source self fuel last run

/-- Advances the versions from a number on, of which there are at most so many,
with those that come up meanwhile. -/
def advanceFrom (goal : Nat) (source : Source) :
    (fuel self : Nat) → (last : Nat) → Run → Run × Nat
  | 0, _, last, run => (run, last)
  | fuel + 1, self, last, run =>
      if self < run.versions.length then
        let (run, last) := run.catchUp g goal source self (source.size + 1) last
        advanceFrom goal source fuel (self + 1) last run
      else (run, last)

/-- Puts a version behind those that are kept, unless one of them stands for it
too.  A preferred version changes places with those it finds. -/
def keep (graph : Graph) (v : Version) : List Version → Graph × List Version
  | [] => (graph, [v])
  | w :: rest =>
      let run : Run := ⟨graph, [], none⟩
      match w.status, v.status with
      | .active, .stuck _ => (graph, w :: rest)
      | .stuck _, .active => keep graph v rest
      | _, _ =>
          if run.canMerge g w v then (graph.merge g w.top v.top, w :: rest)
          else if (run.top w).preference < (run.top v).preference then
            let (graph, kept) := keep graph w rest
            (graph, v :: kept)
          else
            let (graph, kept) := keep graph v rest
            (graph, w :: kept)

/-- The versions that go on after a round. -/
def condense : Run → Run
  | ⟨graph, versions, best⟩ =>
      let (graph, kept) := versions.foldl (fun (graph, kept) v =>
        if v.status = .ended then (graph, kept) else keep g graph v kept) (graph, [])
      ⟨graph, kept.take maxVersions, best⟩

/-- How a run ends. -/
def outcome (run : Run) : Outcome :=
  match run.best with
  | some tree => .read tree
  | none => if run.versions.any (·.status = .stuck true) then .unfinished else .refused

/-- Goes on to the end of the text, for at most so many rounds. -/
def rounds (goal : Nat) (source : Source) : (fuel : Nat) → (last : Nat) → Run → Outcome
  | 0, _, run => run.outcome
  | fuel + 1, last, run =>
      let (run, last) := run.advanceFrom g goal source (64 + source.size) 0 last
      let run := run.condense g
      if run.versions.any (·.status = .active) then
        rounds goal source fuel last
          { run with versions := run.versions.filter (·.status = .active) }
      else run.outcome

end Run

/-- Reads a text as a construct.  Every round reads at least one terminal on
each version. -/
def Grammar.parse (g : Grammar) (goal : Nat) (source : Source) : Outcome :=
  Run.rounds g goal source (source.size + 1) 0
    ⟨#[⟨g.start goal, 0, 0, []⟩], [⟨0, .active⟩], none⟩

end RouteGraft.Parsing
