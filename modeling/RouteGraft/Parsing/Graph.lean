import RouteGraft.Parsing.State
import RouteGraft.Parsing.Tree

/-!
# Stacks that share their parts

A parser that follows one reading of a text keeps a stack of states, with a
tree between each two of them.  One that follows several keeps a `Graph`: its
vertices are states at places of the text, and a link leads from a vertex back
to one in front of it, along the tree that stands between them.  A stack is a
path back to the first vertex.  Stacks that agree on top share one vertex, and
its links tell them apart further down.

`link` adds a link to a vertex.  Where a link with a tree that looks the same
is there already, the two stand for readings of the same piece of the text.  If
they also come from the same vertex, the preferred one is kept.  If they come
from vertices that agree, these vertices are joined and one link is enough.

Links lead from later to earlier places, since every tree has a place of its
own.  So joining, which works its way back, ends at the start of the text.
-/

namespace RouteGraft.Parsing

/-- The way back from a vertex. -/
structure Link where
  /-- The vertex in front. -/
  source : Nat
  /-- The tree in between. -/
  tree : Tree
  deriving Repr, Inhabited

/-- A state at a place of the text. -/
structure Vertex where
  state : State
  /-- The place. -/
  place : Nat
  /-- How much the readings up to here are preferred. -/
  preference : Int
  /-- The ways back, oldest first. -/
  links : List Link
  deriving Repr, Inhabited

/-- The vertices of some stacks, by their numbers. -/
abbrev Graph := Array Vertex

namespace Graph

/-- The number of ways back that one vertex can have. -/
def maxLinks : Nat := 8

/-- The number of paths that are followed at once. -/
def maxPaths : Nat := 64

variable (g : Grammar) (graph : Graph)

/-- A vertex by its number. -/
def vertex (v : Nat) : Vertex := graph.getD v default

/-- Whether two vertices can be taken for one. -/
def mergeable (v w : Nat) : Bool :=
  (graph.vertex v).place = (graph.vertex w).place
    && g.agree (graph.vertex v).state (graph.vertex w).state

/-- How much the readings through a link are preferred. -/
def preferenceOf (l : Link) : Int := (graph.vertex l.source).preference + l.tree.preference

/-- Adds a link to a vertex.  It works its way back over at most so many
places. -/
def link : (fuel : Nat) → Graph → (v : Nat) → Link → Graph
  | 0, graph, _, _ => graph
  | fuel + 1, graph, v, l =>
      let preference := graph.preferenceOf l
      let rival? := (graph.vertex v).links.find? fun e =>
        e.tree.alike g.terminals l.tree
          && (e.source = l.source || graph.mergeable g e.source l.source)
      match rival? with
      | some e =>
          if e.source = l.source then
            if l.tree.preference > e.tree.preference then
              graph.modify v fun x =>
                { x with
                  preference
                  links := x.links.map fun f =>
                    if f.source = l.source && f.tree.alike g.terminals l.tree then l else f }
            else graph
          else
            let joined := (graph.vertex e.source).state.join (graph.vertex l.source).state
            let links := (graph.vertex l.source).links
            let graph := graph.modify e.source fun x => { x with state := joined }
            let graph := links.foldl (fun graph k => link fuel graph e.source k) graph
            graph.modify v fun x => { x with preference := max x.preference preference }
      | none =>
          if (graph.vertex v).links.length = maxLinks then graph
          else
            graph.modify v fun x =>
              { x with links := x.links ++ [l], preference := max x.preference preference }

/-- Takes a vertex for another one, to which its links are added. -/
def merge (v w : Nat) : Graph :=
  if v = w then graph
  else
    let joined := (graph.vertex v).state.join (graph.vertex w).state
    let links := (graph.vertex w).links
    let fuel := (graph.vertex v).place + 1
    links.foldl (fun graph k => link g fuel graph v k)
      (graph.modify v fun x => { x with state := joined })

/-- A new vertex behind another one. -/
def push (v : Nat) (state : State) (tree : Tree) : Graph :=
  Array.push graph ⟨state, tree.stop, graph.preferenceOf ⟨v, tree⟩, [⟨v, tree⟩]⟩

/-- Where some paths go on, over the first link of each and then over the
others, and the trees along them. -/
def back (paths : List (Nat × List Tree)) : List (Nat × List Tree) :=
  let along (trees : List Tree) (l : Link) : Nat × List Tree := (l.source, l.tree :: trees)
  let nearest := paths.flatMap fun (v, trees) =>
    ((graph.vertex v).links.take 1).map (along trees)
  let others := paths.flatMap fun (v, trees) =>
    ((graph.vertex v).links.drop 1).map (along trees)
  (nearest ++ others).take maxPaths

/-- The paths over so many links back from a vertex: where they end, and the
trees along them. -/
def paths (v : Nat) : (length : Nat) → List (Nat × List Tree)
  | 0 => [(v, [])]
  | n + 1 => graph.back (paths v n)

/-- The paths by the vertex where they end. -/
def grouped (paths : List (Nat × List Tree)) : List (Nat × List (List Tree)) :=
  paths.foldl (fun groups (v, trees) => add v trees groups) []
where
  /-- One more path. -/
  add (v : Nat) (trees : List Tree) :
      List (Nat × List (List Tree)) → List (Nat × List (List Tree))
    | [] => [(v, [trees])]
    | (w, more) :: rest =>
        if v = w then (w, more ++ [trees]) :: rest else (w, more) :: add v trees rest

end Graph

end RouteGraft.Parsing
