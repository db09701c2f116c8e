import GuideSite.Double.Text
import GuideSite.Value.Timestamp

/-!
# Configuration values

A configuration document is a tree of values: nothing, truth values, numbers, texts, bytes, dates, lists, and mappings
whose keys are values too. The type says what a document may hold; what a site makes of it is decided by the modules of
`Config`.

A list or mapping may hold itself. Then a `loop` gives it a name, and inside of it `again` with this name stands for the
whole; `unfold` puts the whole in the place of its name, one level deep.
-/

namespace GuideSite

/-- A value of a configuration document. A mapping keeps its entries in the order they were written. -/
inductive Value
  | null
  | bool (b : Bool)
  | int (n : Int)
  | float (x : Double)
  | text (s : String)
  | bytes (data : List UInt8)
  | time (t : Timestamp)
  | list (items : List Value)
  /-- A list that is a key, or a key with its value in a list of such pairs. -/
  | tuple (items : List Value)
  | set (items : List Value)
  | map (entries : List (Value × Value))
  /-- A mapping that was written as a list of entries. -/
  | orderedMap (entries : List (Value × Value))
  | loop (name : Nat) (whole : Value)
  | again (name : Nat)
  deriving Repr

namespace Value

/-- The entries of a mapping. -/
abbrev Entries := List (Value × Value)

/-! ## Loops -/

mutual

/-- The value with a content in the place of a name. -/
def replace (name : Nat) (content : Value) : Value → Value
  | list items => list (replaceItems name content items)
  | tuple items => tuple (replaceItems name content items)
  | set items => set (replaceItems name content items)
  | map entries => map (replaceEntries name content entries)
  | orderedMap entries => orderedMap (replaceEntries name content entries)
  | loop n whole => if n = name then loop n whole else loop n (replace name content whole)
  | again n => if n = name then content else again n
  | v => v

/-- The items with a content in the place of a name. -/
def replaceItems (name : Nat) (content : Value) : List Value → List Value
  | [] => []
  | v :: vs => replace name content v :: replaceItems name content vs

/-- The entries with a content in the place of a name. -/
def replaceEntries (name : Nat) (content : Value) : List (Value × Value) → List (Value × Value)
  | [] => []
  | (k, v) :: es => (replace name content k, replace name content v) :: replaceEntries name content es

end

/-- The value with its parts in sight: a loop has itself in the place of its name. -/
def unfold : Value → Value
  | loop name whole => replace name (loop name whole) whole
  | v => v

mutual

/-- How many values the value is made of. No chain of values, each inside the one before, is longer, unless it comes
back to where it was. -/
def size : Value → Nat
  | list items => sizeItems items + 1
  | tuple items => sizeItems items + 1
  | set items => sizeItems items + 1
  | map entries => sizeEntries entries + 1
  | orderedMap entries => sizeEntries entries + 1
  | loop _ whole => size whole + 1
  | _ => 1

/-- How many values the items are made of. -/
def sizeItems : List Value → Nat
  | [] => 0
  | v :: vs => size v + sizeItems vs

/-- How many values the entries are made of. -/
def sizeEntries : List (Value × Value) → Nat
  | [] => 0
  | (k, v) :: es => size k + size v + sizeEntries es

end

/-! ## Parts -/

/-- The items of a list. -/
def items? (v : Value) : Option (List Value) :=
  match v.unfold with
  | list items => some items
  | _ => none

/-- The entries of a mapping of either kind. -/
def entries? (v : Value) : Option Entries :=
  match v.unfold with
  | map entries => some entries
  | orderedMap entries => some entries
  | _ => none

/-- The value under a text key, if the key is there. -/
def find? (key : String) : Entries → Option Value
  | [] => none
  | (.text k, v) :: rest => if k = key then some v else find? key rest
  | _ :: rest => find? key rest

/-- The value under a text key; a key that is not there has the empty value. -/
def get (entries : Entries) (key : String) : Value :=
  (find? key entries).getD .null

/-! ## Kinds -/

/-- The values that count as not given: nothing, false, zero, and an empty text, list or mapping. -/
def isVoid : Value → Bool
  | null => true
  | bool b => !b
  | int n => n == 0
  | float x => x.isZero
  | text s => s == ""
  | bytes data => data.isEmpty
  | time _ => false
  | list items => items.isEmpty
  | tuple items => items.isEmpty
  | set items => items.isEmpty
  | map entries => entries.isEmpty
  | orderedMap entries => entries.isEmpty
  | loop _ whole => whole.isVoid
  | again _ => false

/-- The name of the kind of value. -/
def kind : Value → String
  | null => "NoneType"
  | bool _ => "bool"
  | int _ => "int"
  | float _ => "float"
  | text _ => "str"
  | bytes _ => "bytes"
  | time t => if t.clock.isSome then "datetime" else "date"
  | list _ => "list"
  | tuple _ => "tuple"
  | set _ => "set"
  | map _ => "dict"
  | orderedMap _ => "ordereddict"
  | loop _ whole => whole.kind
  | again _ => "object"

end Value

end GuideSite
