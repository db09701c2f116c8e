import GuideSite.Value.Display
import GuideSite.Yaml.Cell.Value
import GuideSite.Yaml.Graph.Merge
import GuideSite.Yaml.Scalar

/-!
# Values of graphs

The vertices of a graph become values from the outside to the inside: a scalar at once, a collection as an empty cell
that is filled after all cells that were made before it. Only the keys of mappings are made in depth, each complete
before its value is begun; a vertex that is needed to make itself counts as nothing there. So the fault found is the
first one in this order.

* `Graph.value`: the value of a vertex.
-/

namespace GuideSite.Yaml

/-- How far the values of a graph are made. -/
structure Making where
  version : Version
  graph : Graph
  cells : Cells := #[]
  /-- What the vertices stand for, as far as they are made. -/
  made : Array (Option Datum)
  /-- The vertices that are being made. -/
  begun : List Nat := []
  /-- The vertices whose cells are still to be filled, the last one first. -/
  waiting : List (Nat × Nat) := []

/-- A step of making values. -/
abbrev Make := StateT Making (Except Fault)

/-- How to make a vertex, in depth or not. -/
abbrev Maker := (deep : Bool) → Nat → Make Datum

namespace Make

/-! ## Scalars -/

/-- The text of a scalar. A mapping with the key of a value by itself has the text of that value. -/
def textOf (g : Graph) : (depth : Nat) → Nat → Except Fault String
  | 0, _ => .error .endless
  | depth + 1, v =>
    match g[v]?.map Vertex.content with
    | some (.scalar text) => .ok text
    | some (.mapping entries) =>
      match entries.find? fun e => g.kind e.1 == .self with
      | some (_, value) => textOf g depth value
      | none => .error .malformed
    | _ => .error .malformed

/-- The maker of a value that is no number: the vertex, unless the text is the mark of no number, which is one for
all. -/
def makerOf (v : Nat) (text : String) (value : Value) : Option Nat :=
  match value, Kind.floatDigits text.toList with
  | .float .nan, .ok digits => if Kind.isNanMark (Kind.dropSign digits) then none else some v
  | _, _ => none

/-- The value of a vertex that is no collection. A date needs a text of its own, and a mark or a vertex of no standard
type has no value. -/
def scalar (version : Version) (g : Graph) (v : Nat) : Except Fault Atom := do
  let text ← match g.kind v, g[v]?.map Vertex.content with
    | .merge, _ => throw .malformed
    | .self, _ => throw .malformed
    | .unknown, _ => throw .malformed
    | .time, some (.scalar text) => pure text
    | .time, _ => throw .malformed
    | _, _ => textOf g (g.size + 1) v
  let value ← (g.kind v).scalar version text
  return ⟨value, makerOf v text value⟩

/-! ## Cells -/

/-- The empty cell for a kind of collection. -/
def emptyCell? : Kind → Option Cell
  | .sequence => some (.list [])
  | .mapping => some (.map [])
  | .set => some (.set [])
  | .orderedMap => some (.orderedMap [])
  | .pairs => some (.list [])
  | _ => none

/-- One more cell. -/
def newCell (c : Cell) : Make Nat :=
  modifyGet fun s => (s.cells.size, { s with cells := s.cells.push c })

/-- A cell with a new content. -/
def setCell (id : Nat) (c : Cell) : Make Unit :=
  modify fun s => { s with cells := s.cells.setIfInBounds id c }

/-! ## Keys -/

/-- The key that a datum is: a value without parts, or a tuple of keys. Every other collection is none. Tuples are not
nested deeper than there are cells, so `depth` need not be greater. -/
def keyIn (cells : Cells) : (depth : Nat) → Datum → Except Fault Key
  | _, .atom a => .ok (.atom a)
  | 0, .cell _ => .error .endless
  | depth + 1, .cell id => match cells[id]? with
    | some (.tuple items) => (items.mapM (keyIn cells depth)).map .tuple
    | some c => .error (.key c.kind)
    | none => .error .malformed

/-- The key that a datum is. -/
def keyOf (d : Datum) : Make Key := do
  let cells := (← get).cells
  (keyIn cells cells.size d : Except Fault Key)

/-- What a key of a mapping is made of: of the items of a list, or of itself. Any other collection is no key. -/
def keyParts (d : Datum) : Make (Datum ⊕ List Datum) := do
  match d with
  | .atom a => return .inl (.atom a)
  | .cell id =>
    match (← get).cells[id]? with
    | some (.list items) => return .inr items
    | _ => throw .malformed

/-- The key that is made of some parts. -/
def keyOfParts : Datum ⊕ List Datum → Make Key
  | .inl d => keyOf d
  | .inr items => do return .tuple (← items.mapM keyOf)

/-- The datum can be shown; an integer may have too many digits. -/
def checkShown (d : Datum) : Make Unit := do
  if ((← get).cells.value d).display?.isNone then throw .longInteger

/-- A key that comes again is a fault, which is told with both values. -/
def refuseAgain (key : Key) (value old : Datum) : Make Unit := do
  if (Cells.keyValue key).display?.isNone then throw .longInteger
  checkShown value
  checkShown old
  throw .malformed

/-! ## Mappings -/

/-- The entries of some vertices, one after the other; `distinct` forbids that a key comes again. -/
def entries (make : Maker) (deep distinct : Bool) (es : List (Nat × Nat)) : Make (List (Key × Datum)) :=
  es.foldlM (fun done (k, v) => do
    let parts ← keyParts (← make true k)
    let value ← make deep v
    let key ← keyOfParts parts
    match findKey? key done with
    | some old => if distinct then do refuseAgain key value old
    | none => pure ()
    return putKey key value done) []

/-- The entries of a mapping. Once entries are taken over, a later entry may have the key of an earlier one. -/
def mapping (make : Maker) (deep : Bool) (v : Nat) : Make (List (Key × Datum)) := do
  let s ← get
  if (s.graph.entries? v).isNone then throw .malformed
  else
    let g ← (s.graph.takeOver v : Except Fault Graph)
    modify ({ · with graph := g })
    let own := (g.entries? v).getD []
    match (g[v]?.map Vertex.taken).getD [] with
    | [] => entries make deep true own
    | taken => do
      let first ← entries make deep false taken
      return putKeys first (← entries make deep false own)

/-- The entry that an item of a list of entries consists of. -/
def singleEntry (v : Nat) : Make (Nat × Nat) := do
  match (← get).graph.entries? v with
  | some [e] => return e
  | _ => throw .malformed

/-- The items of a vertex that is a sequence. -/
def itemsOf (v : Nat) : Make (List Nat) := do
  match (← get).graph.items? v with
  | some items => return items
  | none => throw .malformed

/-- The entries of a list of entries, which become those of the cell. No key may come again. -/
def fillOrderedMap (make : Maker) (deep : Bool) (cell : Nat) (items : List Nat) : Make Unit := do
  let _ ← items.foldlM (fun done item => do
    let (k, v) ← singleEntry item
    let key ← keyOf (← make deep k)
    if (findKey? key done).isSome then throw .repeated
    let done := done ++ [(key, ← make deep v)]
    setCell cell (.orderedMap done)
    return done) ([] : List (Key × Datum))

/-- The entries of a list of entries, which become the pairs of the cell. -/
def fillPairs (make : Maker) (deep : Bool) (cell : Nat) (items : List Nat) : Make Unit := do
  let _ ← items.foldlM (fun done item => do
    let (k, v) ← singleEntry item
    let key ← make deep k
    let pair ← newCell (.tuple [key, ← make deep v])
    let done := done ++ [.cell pair]
    setCell cell (.list done)
    return done) ([] : List Datum)

/-- The cell of a vertex filled. -/
def fill (make : Maker) (deep : Bool) (v cell : Nat) : Make Unit := do
  match (← get).graph.kind v with
  | .sequence => do setCell cell (.list (← (← itemsOf v).mapM (make deep)))
  | .mapping => do setCell cell (.map (← mapping make deep v))
  | .set => do setCell cell (.set (setOrder ((← mapping make deep v).map Prod.fst)))
  | .orderedMap => do fillOrderedMap make deep cell (← itemsOf v)
  | .pairs => do fillPairs make deep cell (← itemsOf v)
  | _ => throw .malformed

/-! ## Vertices -/

/-- What a vertex stands for that has not been met before: a value, or a cell that is filled at once or has to wait. -/
def fresh (make : Maker) (deep : Bool) (v : Nat) : Make Datum := do
  let s ← get
  match emptyCell? (s.graph.kind v) with
  | none => return .atom (← (scalar s.version s.graph v : Except Fault Atom))
  | some c =>
    let id ← newCell c
    if deep then fill make deep v id
    else modify fun s => { s with waiting := (v, id) :: s.waiting }
    return .cell id

/-- What a vertex stands for; one that is being made stands for nothing. Vertices are not nested deeper than they are
many, so `depth` need not be greater. -/
def vertex : (depth : Nat) → Maker
  | 0, _, _ => throw .endless
  | depth + 1, deep, v => do
    let s ← get
    match s.made[v]?.join with
    | some d => return d
    | none =>
      if v ∈ s.begun then return .atom ⟨.null, none⟩
      else
        modify fun s => { s with begun := v :: s.begun }
        let d ← fresh (vertex depth) deep v
        modify fun s => { s with begun := s.begun.erase v, made := s.made.setIfInBounds v (some d) }
        return d

/-- All waiting cells filled, and those that begin to wait on the way. Each vertex waits once at most. -/
def fillWaiting (make : Maker) : (vertices : Nat) → Make Unit
  | 0 => return
  | vertices + 1 => do
    match (← get).waiting.reverse with
    | [] => return
    | (v, id) :: rest =>
      modify fun s => { s with waiting := rest.reverse }
      fill make false v id
      fillWaiting make vertices

/-- What a vertex stands for, with all its parts. -/
def whole (depth : Nat) (v : Nat) : Make Datum := do
  let d ← vertex depth false v
  fillWaiting (vertex depth) depth
  return d

end Make

/-- The value of a vertex. -/
def Graph.value (version : Version) (g : Graph) (v : Nat) : Except Fault Value := do
  let start : Making := { version, graph := g, made := Array.replicate g.size none }
  let (d, s) ← (Make.whole (g.size + 1) v).run start
  return s.cells.value d

end GuideSite.Yaml
