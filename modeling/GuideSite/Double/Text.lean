import GuideSite.Double.Shortest
import GuideSite.Text.Numeral

/-!
# Doubles as text

`text` writes a number with the fewest digits that read back, `ofText?` reads what a person may write: digits with a
point and a power of ten, the name of an infinity, or that of no number.
-/

namespace GuideSite.Double

/-! ## Writing -/

/-- The choices of a style that powers of ten do not decide. -/
structure Style where
  /-- The least number of digits before the point that calls for a power of ten. -/
  largeFrom : Int
  /-- The greatest number of zeros after the point that is still written out. -/
  zerosUpTo : Int
  /-- The least number of digits of a power of ten. -/
  powerDigits : Nat

/-- Numbers from `10 ^ 16` on and below `10 ^ -4` are written with a power of ten of at least two digits. -/
def configStyle : Style := ⟨17, 3, 2⟩

/-- A power of ten with its sign. -/
def powerText (width : Nat) (power : Int) : List Char :=
  let digits := Nat.toDigits 10 power.natAbs
  'e' :: (if power < 0 then '-' else '+') :: (List.replicate (width - digits.length) '0' ++ digits)

/-- The digits of a decimal, its point and, where the style calls for one, a power of ten. -/
def Decimal.text (style : Style) (d : Decimal) : List Char :=
  let digits := Nat.toDigits 10 d.digits
  let point : Int := digits.length + d.power
  if style.largeFrom ≤ point ∨ point < -style.zerosUpTo then
    match digits with
    | [] => []
    | first :: [] => first :: powerText style.powerDigits (point - 1)
    | first :: rest => first :: '.' :: rest ++ powerText style.powerDigits (point - 1)
  else if point ≤ 0 then '0' :: '.' :: (List.replicate (-point).toNat '0' ++ digits)
  else if digits.length ≤ point then digits ++ List.replicate (point.toNat - digits.length) '0' ++ ['.', '0']
  else digits.take point.toNat ++ '.' :: digits.drop point.toNat

/-- The number as text. -/
def text : Double → String
  | nan => "nan"
  | infinite s => if s then "-inf" else "inf"
  | finite s m e =>
    let digits := if m = 0 then ['0', '.', '0'] else (shortest m e).text configStyle
    String.ofList (if s then '-' :: digits else digits)

/-! ## Reading -/

/-- The value of ASCII digits. -/
def readDigits (cs : List Char) : Nat :=
  cs.foldl (fun n c => 10 * n + (c.toNat - '0'.toNat)) 0

/-- A text without its sign, and whether that is a minus. -/
def cutSign : List Char → Bool × List Char
  | '-' :: cs => (true, cs)
  | '+' :: cs => (false, cs)
  | cs => (false, cs)

/-- A power of ten that a text may start with, and the text after it: `e`, perhaps a sign, and digits. Without one the
power is zero. -/
def cutPower (cs : List Char) : Int × List Char :=
  match cs with
  | [] => (0, [])
  | c :: rest =>
    let (negative, rest) := cutSign rest
    let digits := rest.takeWhile (·.isDigit)
    if (c = 'e' ∨ c = 'E') ∧ digits ≠ [] then
      (if negative then -Int.ofNat (readDigits digits) else readDigits digits, rest.drop digits.length)
    else (0, cs)

/-- Digits with a point and a power of ten, at least one digit before the power; the text after them. -/
def cutUnsigned? (negative : Bool) (cs : List Char) : Option (Double × List Char) :=
  let whole := cs.takeWhile (·.isDigit)
  let (fraction, rest) := match cs.drop whole.length with
    | '.' :: rest => (rest.takeWhile (·.isDigit), rest.dropWhile (·.isDigit))
    | rest => ([], rest)
  if whole ++ fraction = [] then none
  else
    let (power, rest) := cutPower rest
    some (ofDecimal negative (readDigits (whole ++ fraction)) (power - fraction.length), rest)

/-- The text after a word that it starts with, whatever the case of its letters. -/
def cutWord? (word : String) (cs : List Char) : Option (List Char) :=
  if (cs.take word.length).map Char.toLower = word.toList then some (cs.drop word.length) else none

/-- The number that a text starts with, signed or not, and the text after it. -/
def cutNumber? (cs : List Char) : Option (Double × List Char) :=
  let (negative, cs) := cutSign cs
  match cutWord? "infinity" cs, cutWord? "inf" cs, cutWord? "nan" cs with
  | some rest, _, _ => some (infinite negative, rest)
  | none, some rest, _ => some (infinite negative, rest)
  | none, none, some rest => some (nan, rest)
  | none, none, none => cutUnsigned? negative cs

/-- The number that a text writes, blanks around it and digits of any script included. -/
def ofText? (s : String) : Option Double :=
  match cutNumber? (Text.plainDigits (Text.trimChars Text.isNumeralBlank s.toList)) with
  | some (x, []) => some x
  | _ => none

end GuideSite.Double
