import GuideSite.Value.Basic

/-!
# Cells

While a document is being read, its collections are cells that are filled one after the other; a collection that holds
itself is a cell that is found again inside of itself. What cannot be told apart as a key of a mapping counts as the
same key: numbers by what they amount to, points in time by their instant.
-/

namespace GuideSite.Yaml

/-- A value without parts. One that is no number is told from others of its kind by the vertex that it was made for, if
there is one. -/
structure Atom where
  value : Value
  maker : Option Nat := none

/-- A key of a mapping: a value without parts, or several keys together. -/
inductive Key
  | atom (a : Atom)
  | tuple (items : List Key)

/-- What a vertex stands for: a value without parts, or the cell of a number. -/
inductive Datum
  | atom (a : Atom)
  | cell (id : Nat)

/-- A collection, as far as it is filled. -/
inductive Cell
  | list (items : List Datum)
  | tuple (items : List Datum)
  | set (keys : List Key)
  | map (entries : List (Key × Datum))
  | orderedMap (entries : List (Key × Datum))

/-- The name of the kind of collection. -/
def Cell.kind : Cell → String
  | list _ => "list"
  | tuple _ => "tuple"
  | set _ => "set"
  | map _ => "dict"
  | orderedMap _ => "ordereddict"

/-! ## Same keys -/

/-- The integer that a number is equal to; truth values are numbers too. -/
def wholeNumber? : Value → Option Int
  | .bool b => some (if b then 1 else 0)
  | .int n => some n
  | .float x => x.toInt?
  | _ => none

/-- Two points in time are the same: both with a zone at one instant, or both without one and equal. -/
def sameTime (a b : Timestamp) : Bool :=
  match a.zone, b.zone with
  | some _, some _ => a.instant == b.instant
  | _, _ => a == b

/-- Two values without parts are the same. -/
def Atom.same (a b : Atom) : Bool :=
  match wholeNumber? a.value, wholeNumber? b.value with
  | some m, some n => m == n
  | none, none => match a.value, b.value with
    | .null, .null => true
    | .float .nan, .float .nan => a.maker == b.maker
    | .float x, .float y => x == y
    | .text s, .text t => s == t
    | .bytes s, .bytes t => s == t
    | .time s, .time t => sameTime s t
    | _, _ => false
  | _, _ => false

mutual

/-- Two keys are the same. -/
def Key.same : Key → Key → Bool
  | .atom a, .atom b => a.same b
  | .tuple items, .tuple others => sameKeys items others
  | _, _ => false

/-- Two lists of keys are the same. -/
def sameKeys : List Key → List Key → Bool
  | [], [] => true
  | a :: items, b :: others => a.same b && sameKeys items others
  | _, _ => false

end

/-! ## Order of a set -/

/-- The places of a set with so many keys: eight, or a power of two beyond twice the keys. -/
def setPlaces (keys : Nat) : Nat :=
  if keys < 5 then 8 else Nat.pow 2 ((2 * keys).log2 + 1)

/-- The place of a whole number among so many. -/
def placeOf (places : Nat) (n : Int) : Int :=
  let reduced := n.sign * (n.natAbs % (Nat.pow 2 61 - 1) : Nat)
  (if reduced = -1 then -2 else reduced) % places

/-- The keys of a set in their order. Whole numbers stand by their places; other keys stand as they are written. -/
def setOrder (keys : List Key) : List Key :=
  let number? : Key → Option Int
    | .atom a => wholeNumber? a.value
    | .tuple _ => none
  match keys.mapM number? with
  | some numbers =>
    let placed := (numbers.map (placeOf (setPlaces keys.length))).zip keys
    (placed.mergeSort fun a b => a.1 ≤ b.1).map Prod.snd
  | none => keys

/-! ## Entries -/

/-- The value under a key. -/
def findKey? (key : Key) (entries : List (Key × Datum)) : Option Datum :=
  (entries.find? fun e => e.1.same key).map Prod.snd

/-- The entries with a value under a key, in the place of the old value if the key is there. -/
def putKey (key : Key) (value : Datum) : List (Key × Datum) → List (Key × Datum)
  | [] => [(key, value)]
  | e :: es => if e.1.same key then (e.1, value) :: es else e :: putKey key value es

/-- The first entries with the others put after them. -/
def putKeys (entries others : List (Key × Datum)) : List (Key × Datum) :=
  others.foldl (fun es e => putKey e.1 e.2 es) entries

end GuideSite.Yaml
