import GuideSite.Double.Arithmetic
import GuideSite.Text.Base64
import GuideSite.Text.Casing
import GuideSite.Text.Quoted
import GuideSite.Value.Basic
import GuideSite.Yaml.Kind

/-!
# Values of scalars

The value that the text of a scalar stands for when it is read as one of the kinds. Underscores in numbers do not count,
nor does the case of letters in numbers with a point and in truth values.

* `Kind.scalar`: the value of a text.
-/

namespace GuideSite.Yaml.Kind

/-! ## Parts -/

/-- The text starts with a minus. -/
def isNegative (cs : List Char) : Bool := cs.head? == some '-'

/-- The text in quoted form. -/
def shown (cs : List Char) : String := Text.quoted (String.ofList cs)

/-- The text without its underscores, of which something must be left. -/
def digitsOf (cs : List Char) : Except Fault (List Char) :=
  let digits := cs.filter (· != '_')
  if digits = [] then .error .noDigits else .ok digits

/-! ## Integers -/

/-- The integer that a text writes in a base; a text that writes none is shown up to a certain length. -/
def inBase (base : Nat) (cs : List Char) : Except Fault Int :=
  match Text.readInteger base cs with
  | .ok n => .ok n
  | .error (.tooLong digits) => .error (.digits digits)
  | .error .malformed => .error (.integer base (String.ofList ((shown cs).toList.take 200)))

/-- The integer of parts in base sixty. -/
def ofSixty (parts : List Int) : Int := parts.foldl (fun n part => 60 * n + part) 0

/-- The integer that a text without its sign stands for. In version 1.1 a zero announces base eight and colons base
sixty. -/
def unsignedInt (version : Version) (cs : List Char) : Except Fault Int :=
  match cs with
  | '0' :: 'b' :: rest => inBase 2 rest
  | '0' :: 'x' :: rest => inBase 16 rest
  | '0' :: 'o' :: rest => inBase 8 rest
  | cs =>
    if version = .first then
      if cs = [] then .error .noDigits
      else if cs.head? = some '0' then inBase 8 cs
      else if ':' ∈ cs then ((cs.splitOn ':').mapM (inBase 10)).map ofSixty
      else inBase 10 cs
    else inBase 10 cs

/-- The integer that a text stands for. -/
def intValue (version : Version) (cs : List Char) : Except Fault Int := do
  let digits ← digitsOf cs
  let n ← unsignedInt version (dropSign digits)
  return if isNegative digits then -n else n

/-! ## Numbers with a point -/

/-- The number that a text writes. -/
def readDouble (cs : List Char) : Except Fault Double :=
  match Double.ofText? (String.ofList cs) with
  | some x => .ok x
  | none => .error (.float (shown cs))

/-- The sum of parts in base sixty, the last part first. -/
def sumOfSixty (parts : List Double) : Double :=
  (parts.reverse.zipIdx.map fun (part, i) => part.mul (.ofNat (Nat.pow 60 i))).foldl Double.add (.finite false 0 0)

/-- The text, without its sign, is the mark of no number. -/
def isNanMark (cs : List Char) : Bool := isWord [".nan"] cs

/-- The number that a text without its sign stands for. In version 1.1 colons announce base sixty. -/
def unsignedFloat (version : Version) (cs : List Char) : Except Fault Double :=
  if isWord [".inf"] cs then .ok (.infinite false)
  else if isNanMark cs then .ok .nan
  else if version = .first ∧ ':' ∈ cs then ((cs.splitOn ':').mapM readDouble).map sumOfSixty
  else readDouble cs

/-- The letters of a number in lower case, without underscores. -/
def floatDigits (cs : List Char) : Except Fault (List Char) :=
  (digitsOf cs).map (Text.lowerChars [])

/-- The number that a text stands for. -/
def floatValue (version : Version) (cs : List Char) : Except Fault Double := do
  let digits ← floatDigits cs
  let x ← unsignedFloat version (dropSign digits)
  return if isNegative digits then x.neg else x

/-! ## Truth values -/

/-- The truth value that a text stands for. -/
def boolValue (cs : List Char) : Except Fault Bool :=
  let word := Text.lowerChars [] cs
  if isWord ["true", "yes", "y", "on"] word then .ok true
  else if isWord ["false", "no", "n", "off"] word then .ok false
  else .error (.bool (shown word))

/-! ## All kinds -/

/-- The value that a text stands for. A text is no collection, and the marks of keys stand for no value. -/
def scalar (kind : Kind) (version : Version) (text : String) : Except Fault Value :=
  let cs := text.toList
  match kind with
  | null => .ok .null
  | bool => (boolValue cs).map .bool
  | int => (intValue version cs).map .int
  | float => (floatValue version cs).map .float
  | time => do
    let moment ← orMalformed (Moment.ofChars? cs)
    (moment.toTimestamp.map Value.time).mapError .date
  | Kind.text => .ok (.text text)
  | bytes => (orMalformed (Text.Base64.decode? cs)).map .bytes
  | _ => .error .malformed

end GuideSite.Yaml.Kind
