import GuideSite.Yaml.Cell.Basic

/-!
# Values of cells

Once all cells are filled, each stands for a configuration value. A cell that is found again inside of itself is a loop,
and so are those that are met on the way; all other cells are read once.

* `Cells.value`: the value of a datum.
-/

namespace GuideSite.Yaml

/-- Cells by their numbers. -/
abbrev Cells := Array Cell

namespace Cells

mutual

/-- The value of a key. -/
def keyValue : Key → Value
  | .atom a => a.value
  | .tuple items => .tuple (keyValues items)

/-- The values of a list of keys. -/
def keyValues : List Key → List Value
  | [] => []
  | k :: ks => keyValue k :: keyValues ks

end

/-- The values of the cells that hold no loop, as far as they are read. -/
abbrev Reading := StateM (Array (Option Value))

/-- A value, and the cells around it that are found again inside of it. -/
abbrev Bound := Value × List Nat

/-- The value of a datum, where `visit` gives that of a cell. -/
def datum (visit : Nat → Reading Bound) : Datum → Reading Bound
  | .atom a => return (a.value, [])
  | .cell id => visit id

/-- The values of some data. -/
def data (visit : Nat → Reading Bound) (items : List Datum) : Reading (List Value × List Nat) := do
  let read ← items.mapM (datum visit)
  return (read.map Prod.fst, (read.flatMap Prod.snd).eraseDups)

/-- The values of some entries. -/
def entries (visit : Nat → Reading Bound) (es : List (Key × Datum)) : Reading (Value.Entries × List Nat) := do
  let (values, again) ← data visit (es.map Prod.snd)
  return ((es.map fun e => keyValue e.1).zip values, again)

/-- The value of the content of a cell. -/
def content (visit : Nat → Reading Bound) : Cell → Reading Bound
  | .list items => do
    let (values, again) ← data visit items
    return (.list values, again)
  | .tuple items => do
    let (values, again) ← data visit items
    return (.tuple values, again)
  | .set keys => return (.set (keyValues keys), [])
  | .map es => do
    let (es, again) ← entries visit es
    return (.map es, again)
  | .orderedMap es => do
    let (es, again) ← entries visit es
    return (.orderedMap es, again)

/-- The value of a cell inside of the cells `around` it. There are never more of those than cells, so `depth` need not
be greater. -/
def cell (cells : Cells) : (depth : Nat) → (around : List Nat) → (id : Nat) → Reading Bound
  | 0, _, _ => return (.null, [])
  | depth + 1, around, id => do
    if id ∈ around then return (.again id, [id])
    match (← get)[id]?.join, cells[id]? with
    | some known, _ => return (known, [])
    | none, none => return (.null, [])
    | none, some c =>
      let (value, again) ← content (cell cells depth (id :: around)) c
      if again = [] then
        modify fun known => known.set! id (some value)
        return (value, [])
      else return (.loop id value, again.erase id)

/-- The value of a datum. -/
def value (cells : Cells) (d : Datum) : Value :=
  (datum (cell cells (cells.size + 1) []) d (Array.replicate cells.size none)).1.1

end Cells

end GuideSite.Yaml
