import GuideSite.Data.NameSet
import GuideSite.Text.Blank
import GuideSite.Value.Shown

/-!
# Section flags

A page says which sections of the site it belongs to by a set of names, its section flags; `reference.gcm` is a section
inside `reference`. The flags are written as names, or as a mapping of names to truth values in which a nested mapping
addresses the inner sections and speaks for the outer one under the key `enabled`.
-/

namespace GuideSite

/-- The sections that a page belongs to. -/
abbrev SectionFlags := NameSet

namespace SectionFlags

/-- The flags of a list of names, without blanks around them and without blank names. -/
def ofNames (names : List String) : SectionFlags :=
  .ofList ((names.map Text.strip).filter (· ≠ ""))

/-! ## Mappings -/

/-- The key under which a nested mapping speaks for itself. -/
def selfKey : String := "enabled"

/-- The truth value of a flag; nothing counts as false. -/
def truth (name : String) : Value → Except Error Bool
  | .null => .ok false
  | .bool b => .ok b
  | v => do throw (.flag ⟨name, ← v.shown⟩)

/-- The key is `selfKey`, as it stands. -/
def isSelfKey : Value → Bool
  | .text k => k == selfKey
  | _ => false

/-- The names that a value enables under `name`. A nested mapping enables names after its own and leaves out its
`selfKey`; `depth` is how far it may be nested. -/
def enabledAt : (depth : Nat) → (name : String) → Value → Except Error (List String)
  | 0, _, _ => .error .endlessFlags
  | depth + 1, name, v =>
    match v.entries? with
    | some entries => do
      let own ← truth name (Value.get entries selfKey)
      let inner ← (entries.filter fun e => !isSelfKey e.1).mapM fun (k, v) => do
        enabledAt depth (name ++ "." ++ Text.strip (← k.displayed)) v
      return if own then name :: inner.flatten else inner.flatten
    | none => do
      let own ← truth name v
      return if own then [name] else []

/-- The flags of a mapping of names to truth values. -/
def ofMapping (entries : Value.Entries) : Except Error SectionFlags := do
  let names ← entries.mapM fun (k, v) => do
    enabledAt (Value.sizeEntries entries + 1) (Text.strip (← k.displayed)) v
  return .ofList names.flatten

/-! ## Any value -/

/-- The texts that a value consists of: the characters of a text, the items of a list, the keys of a mapping. -/
def parts (v : Value) : Except Error (List String) :=
  match v.unfold with
  | .text s => .ok (s.toList.map fun c => String.ofList [c])
  | .bytes data => .ok (data.map fun b => toString b.toNat)
  | .list items => items.mapM Value.displayed
  | .tuple items => items.mapM Value.displayed
  | .set items => items.mapM Value.displayed
  | .map entries => entries.mapM fun e => e.1.displayed
  | .orderedMap entries => entries.mapM fun e => e.1.displayed
  | v => .error (.notSeveral v.kind)

/-- The flags of the names that a value consists of. -/
def ofParts (v : Value) : Except Error SectionFlags :=
  (parts v).map ofNames

/-- The flags that a value writes: words, a list of names, or a mapping; nothing writes none. -/
def ofValue (v : Value) : Except Error SectionFlags :=
  match v with
  | .null => .ok .empty
  | .text s => .ok (ofNames (Text.words s))
  | v => match v.entries? with
    | some entries => ofMapping entries
    | none => ofParts v

end SectionFlags

end GuideSite
