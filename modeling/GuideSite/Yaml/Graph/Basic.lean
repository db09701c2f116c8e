import GuideSite.Yaml.Kind
import GuideSite.Yaml.Node.Grammar

/-!
# Graphs of nodes

A node with aliases is a graph: each vertex is a node with a kind of its own, and an alias is one more edge to the
vertex with its anchor. Edges may lead back, so a node may hold itself.

* `Graph.ofNode?`: the graph of a node, and the vertex that stands for the whole.
-/

namespace GuideSite.Yaml

/-- The content of a vertex; the nodes inside of it are vertices by their numbers. -/
inductive Content
  | scalar (text : String)
  | sequence (items : List Nat)
  | mapping (entries : List (Nat × Nat))
  deriving DecidableEq, Repr

/-- A node of a graph. -/
structure Vertex where
  kind : Kind
  content : Content
  /-- The entries of a mapping that come from other mappings, as far as they have been taken over. -/
  taken : List (Nat × Nat) := []
  deriving DecidableEq, Repr

/-- Vertices by their numbers. -/
abbrev Graph := Array Vertex

namespace Graph

/-! ## Parts -/

/-- The kind of a vertex. -/
def kind (g : Graph) (v : Nat) : Kind := (g[v]?.map Vertex.kind).getD .unknown

/-- The entries of a vertex that is a mapping. -/
def entries? (g : Graph) (v : Nat) : Option (List (Nat × Nat)) :=
  match g[v]?.map Vertex.content with
  | some (.mapping entries) => some entries
  | _ => none

/-- The items of a vertex that is a sequence. -/
def items? (g : Graph) (v : Nat) : Option (List Nat) :=
  match g[v]?.map Vertex.content with
  | some (.sequence items) => some items
  | _ => none

/-- The graph with a new content of a vertex. -/
def setContent (g : Graph) (v : Nat) (content : Content) : Graph :=
  g.modify v fun x => { x with content }

/-! ## Nodes -/

/-- As what a node with some properties is read, if its tag says so. -/
def kindOf (p : Properties) (stock : Kind) : Kind :=
  match p.tag with
  | some tag => if isOpenTag p.tag then stock else .ofTag tag
  | none => stock

/-- The graph of the nodes so far, and the vertices of their anchors, the last one first. -/
structure Sketch where
  graph : Graph := #[]
  anchors : List (String × Nat) := []

/-- The sketch with one more vertex, and its number. -/
def Sketch.add (s : Sketch) (p : Properties) (stock : Kind) (content : Content) : Nat × Sketch :=
  let v := s.graph.size
  (v, {
    graph := s.graph.push ⟨kindOf p stock, content, []⟩
    anchors := (p.anchor.map (·, v)).toList ++ s.anchors })

/-- The sketch with a new content of a vertex. -/
def Sketch.fill (s : Sketch) (v : Nat) (content : Content) : Sketch :=
  { s with graph := s.graph.setContent v content }

mutual

/-- The vertex of a node, and the sketch with it. -/
def addNode? (version : Version) (s : Sketch) : Node → Option (Nat × Sketch)
  | .reference name => (s.anchors.lookup name).map (·, s)
  | .scalar p text plain =>
    some (s.add p (if plain then .ofText version text.toList else .text) (.scalar text))
  | .sequence p items => do
    let (v, s) := s.add p .sequence (.sequence [])
    let (items, s) ← addNodes? version s items
    return (v, s.fill v (.sequence items))
  | .mapping p entries => do
    let (v, s) := s.add p .mapping (.mapping [])
    let (entries, s) ← addEntries? version s entries
    return (v, s.fill v (.mapping entries))

/-- The vertices of a list of nodes, and the sketch with them. -/
def addNodes? (version : Version) (s : Sketch) : List Node → Option (List Nat × Sketch)
  | [] => some ([], s)
  | n :: ns => do
    let (v, s) ← addNode? version s n
    let (vs, s) ← addNodes? version s ns
    return (v :: vs, s)

/-- The vertices of a list of entries, and the sketch with them. -/
def addEntries? (version : Version) (s : Sketch) : List (Node × Node) → Option (List (Nat × Nat) × Sketch)
  | [] => some ([], s)
  | (k, v) :: es => do
    let (k, s) ← addNode? version s k
    let (v, s) ← addNode? version s v
    let (es, s) ← addEntries? version s es
    return ((k, v) :: es, s)

end

/-- The graph of a node, and its vertex. -/
def ofNode? (version : Version) (n : Node) : Option (Nat × Graph) :=
  (addNode? version {} n).map fun (v, s) => (v, s.graph)

end Graph

end GuideSite.Yaml
