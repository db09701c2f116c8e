import GuideSite.Text.Quoted
import GuideSite.Value.Basic

/-!
# Values as text

Wherever a text is expected, any value will do: `display?` gives the text that stands for it. A text stands for itself;
a list and a mapping show their parts in quoted form, where `quoted?` puts texts between quotation marks. A value that
comes again inside of itself is shown by an ellipsis. Only an integer with too many digits has no text.
-/

namespace GuideSite.Value

/-! ## Parts -/

/-- The parts, with a comma between. -/
def commaSeparated (parts : List String) : String :=
  String.intercalate ", " parts

/-- The parts of a list between brackets of its own. -/
def bracketed (parts : List String) : String := "[" ++ commaSeparated parts ++ "]"

/-- The parts between braces. -/
def braced (parts : List String) : String := "\x7b" ++ commaSeparated parts ++ "\x7d"

/-- The parts of a tuple; a single one has a comma after it. -/
def parenthesized : List String → String
  | [part] => "(" ++ part ++ ",)"
  | parts => "(" ++ commaSeparated parts ++ ")"

/-- One byte between the quotation marks `mark`. -/
def quotedByte (mark : Char) (b : UInt8) : List Char :=
  let c := Char.ofNat b.toNat
  if b.toNat < 0x80 then Text.quotedChar mark c else Text.codeEscape b.toNat

/-- Bytes between quotation marks, after the letter that tells them from text. -/
def quotedBytes (data : List UInt8) : String :=
  let mark := Text.quotationMark (data.map fun b => Char.ofNat b.toNat)
  String.ofList ('b' :: mark :: (data.flatMap (quotedByte mark) ++ [mark]))

/-- What stands for a value that comes again inside of itself. -/
def ellipsis : Value → String
  | list _ => "[...]"
  | tuple _ => "(...)"
  | set _ => "set(...)"
  | map _ => "\x7b...\x7d"
  | _ => "..."

/-! ## Quoted form -/

mutual

/-- The value as it stands inside the loops named, each with its ellipsis. -/
def quotedIn? (loops : List (Nat × String)) : Value → Option String
  | null => some "None"
  | bool b => some (if b then "True" else "False")
  | int n => Text.ofInt? n
  | float x => some x.text
  | text s => some (Text.quoted s)
  | bytes data => some (quotedBytes data)
  | time t => some t.quoted
  | list items => (quotedItems? loops items).map bracketed
  | tuple items => (quotedItems? loops items).map parenthesized
  | set items => if items.isEmpty then some "set()" else (quotedItems? loops items).map braced
  | map entries => (quotedEntries? loops entries).map braced
  | orderedMap entries =>
    if entries.isEmpty then some "ordereddict()"
    else (quotedPairs? loops entries).map fun parts => "ordereddict(" ++ bracketed parts ++ ")"
  | loop name whole =>
    match loops.lookup name with
    | some ellipsis => some ellipsis
    | none => quotedIn? ((name, whole.ellipsis) :: loops) whole
  | again name => loops.lookup name

/-- The items of a list, each in quoted form. -/
def quotedItems? (loops : List (Nat × String)) : List Value → Option (List String)
  | [] => some []
  | v :: vs => do return (← quotedIn? loops v) :: (← quotedItems? loops vs)

/-- The entries of a mapping, each with a colon after its key. -/
def quotedEntries? (loops : List (Nat × String)) : List (Value × Value) → Option (List String)
  | [] => some []
  | (k, v) :: es => do
    let key ← quotedIn? loops k
    let value ← quotedIn? loops v
    return (key ++ ": " ++ value) :: (← quotedEntries? loops es)

/-- The entries of a mapping, each as a tuple. -/
def quotedPairs? (loops : List (Nat × String)) : List (Value × Value) → Option (List String)
  | [] => some []
  | (k, v) :: es => do
    let key ← quotedIn? loops k
    let value ← quotedIn? loops v
    return parenthesized [key, value] :: (← quotedPairs? loops es)

end

/-- The value as it stands inside a list or a mapping. -/
def quoted? (v : Value) : Option String := quotedIn? [] v

/-- The text that stands for a value. -/
def display? : Value → Option String
  | text s => some s
  | time t => some t.text
  | v => v.quoted?

end GuideSite.Value
