import GuideSite.Text.Blank

/-!
# Written integers

An integer may be written the way a person does it: blanks around it, a sign, digits of any script, and single
underscores between digits. `readInteger` reads one in a base, and says what is wrong with a text that is none;
`ofInt?` writes one. Both have a limit on decimal digits.
-/

namespace GuideSite.Text

/-! ## Digits -/

/-- The zeros of the decimal digit sets beyond ASCII; the other nine digits of a set follow its zero. -/
def digitZeros : List Nat := [
  0x660, 0x6F0, 0x7C0, 0x966, 0x9E6, 0xA66, 0xAE6, 0xB66, 0xBE6, 0xC66, 0xCE6, 0xD66, 0xDE6, 0xE50, 0xED0,
  0xF20, 0x1040, 0x1090, 0x17E0, 0x1810, 0x1946, 0x19D0, 0x1A80, 0x1A90, 0x1B50, 0x1BB0, 0x1C40, 0x1C50, 0xA620,
  0xA8D0, 0xA900, 0xA9D0, 0xA9F0, 0xAA50, 0xABF0, 0xFF10, 0x104A0, 0x10D30, 0x11066, 0x110F0, 0x11136, 0x111D0,
  0x112F0, 0x11450, 0x114D0, 0x11650, 0x116C0, 0x11730, 0x118E0, 0x11950, 0x11C50, 0x11D50, 0x11DA0, 0x16A60,
  0x16AC0, 0x16B50, 0x1D7CE, 0x1D7D8, 0x1D7E2, 0x1D7EC, 0x1D7F6, 0x1E140, 0x1E2F0, 0x1E950, 0x1FBF0]

/-- The value of a decimal digit of any script. -/
def digit? (c : Char) : Option Nat :=
  if c.isDigit then some (c.toNat - '0'.toNat)
  else (digitZeros.find? fun z => z ≤ c.toNat && c.toNat < z + 10).map (c.toNat - ·)

/-- The value of a digit in a base up to sixteen; a decimal digit may be of any script. -/
def digitIn? (base : Nat) (c : Char) : Option Nat :=
  let value :=
    if 'a' ≤ c ∧ c ≤ 'f' then some (c.toNat - 'a'.toNat + 10)
    else if 'A' ≤ c ∧ c ≤ 'F' then some (c.toNat - 'A'.toNat + 10)
    else digit? c
  value.filter (· < base)

/-- The digits as those of ASCII; every other character stays. -/
def plainDigits (cs : List Char) : List Char :=
  cs.map fun c => match digit? c with
    | some d => Char.ofNat ('0'.toNat + d)
    | none => c

/-- A blank around a number: any but the information separators. -/
def isNumeralBlank (c : Char) : Bool :=
  isBlank c && !(28 ≤ c.toNat && c.toNat ≤ 31)

/-! ## Reading -/

/-- The most decimal digits that an integer may have. -/
def maxDigits : Nat := 4300

/-- Why a text writes no integer. -/
inductive NumeralFault
  | malformed
  /-- There are more decimal digits than may be. -/
  | tooLong (digits : Nat)
  deriving DecidableEq, Repr

/-- Each underscore stands between two digits. -/
def underscoresInside (cs : List Char) : Bool :=
  cs.head? != some '_' && cs.getLast? != some '_' && (cs.zip cs.tail).all fun (a, b) => !(a == '_' && b == '_')

/-- The number that digits in a base write, whatever else stands between them. -/
def digitsValue (base : Nat) (cs : List Char) : Nat :=
  (cs.filterMap (digitIn? base)).foldl (fun n d => base * n + d) 0

/-- An unsigned integer: digits in a base, and nothing after them. -/
def readUnsigned (base : Nat) (cs : List Char) : Except NumeralFault Nat :=
  let run := cs.takeWhile fun c => (digitIn? base c).isSome || c == '_'
  let count := (run.filter (· != '_')).length
  if !underscoresInside run then .error .malformed
  else if base = 10 ∧ maxDigits < count then .error (.tooLong count)
  else if run = [] ∨ run.length < cs.length then .error .malformed
  else .ok (digitsValue base run)

/-- The letter that announces a base after a zero. -/
def baseLetter? (base : Nat) : Option Char :=
  [(2, 'b'), (8, 'o'), (16, 'x')].lookup base

/-- The digits without an announcement of their base, after which an underscore may stand. -/
def dropBase (base : Nat) (cs : List Char) : List Char :=
  match cs with
  | z :: l :: rest =>
    if digit? z = some 0 ∧ baseLetter? base = some l.toLower then
      match rest with
      | '_' :: rest => rest
      | rest => rest
    else cs
  | _ => cs

/-- The integer that a text writes in a base. -/
def readInteger (base : Nat) (cs : List Char) : Except NumeralFault Int :=
  match trimChars isNumeralBlank cs with
  | '+' :: rest => (readUnsigned base (dropBase base rest)).map Int.ofNat
  | '-' :: rest => (readUnsigned base (dropBase base rest)).map fun n => -Int.ofNat n
  | cs => (readUnsigned base (dropBase base cs)).map Int.ofNat

/-- The integer that a text writes in decimal digits. -/
def readInt? (s : String) : Option Int :=
  (readInteger 10 s.toList).toOption

/-! ## Writing -/

/-- The decimal digits of an integer, unless they are too many. -/
def ofInt? (n : Int) : Option String :=
  if n.natAbs < Nat.pow 10 maxDigits then some (toString n) else none

end GuideSite.Text
