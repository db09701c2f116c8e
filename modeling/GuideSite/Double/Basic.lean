/-!
# Double precision numbers

A `Double` is a number of 53 binary digits with an exponent, an infinity, or no number at all. It is kept in exact form,
so that reading and printing are arithmetic on natural numbers: `ofRatio` rounds a quotient to the nearest double, a tie
to the even one, and `ofDecimal` does so for decimal digits with a power of ten.
-/

namespace GuideSite

/-- A double precision number; a finite one is `mantissa · 2 ^ exponent` with a sign. -/
inductive Double
  | nan
  | infinite (negative : Bool)
  | finite (negative : Bool) (mantissa : Nat) (exponent : Int)
  deriving DecidableEq, Repr

namespace Double

/-- The least exponent, that of the numbers nearest to zero. -/
def minExponent : Int := -1074

/-- The greatest exponent of a finite number. -/
def maxExponent : Int := 971

/-- The least mantissa of full precision. -/
def minNormal : Nat := Nat.pow 2 52

/-- Either zero. -/
def isZero : Double → Bool
  | finite _ 0 _ => true
  | _ => false

/-- The same number with the other sign. -/
def neg : Double → Double
  | nan => nan
  | infinite s => infinite !s
  | finite s m e => finite (!s) m e

/-! ## Rounding -/

/-- The quotient rounded to the nearest integer, a tie to the even one. -/
def roundDiv (num den : Nat) : Nat :=
  let q := num / den
  let r := num % den
  if 2 * r < den then q else if den < 2 * r then q + 1 else q + q % 2

/-- The quotient `num / den` in units of `2 ^ exponent`. -/
def inUnits (num den : Nat) (exponent : Int) : Nat × Nat :=
  (num * Nat.pow 2 (-exponent).toNat, den * Nat.pow 2 exponent.toNat)

/-- The exponent that gives the quotient a mantissa of 53 digits, or the least one. -/
def ratioExponent (num den : Nat) : Int :=
  let guess := Int.ofNat num.log2 - Int.ofNat den.log2 - 52
  let (a, b) := inUnits num den guess
  max minExponent (if a / b < minNormal then guess - 1 else guess)

/-- The double nearest to `num / den`. -/
def ofRatio (negative : Bool) (num den : Nat) : Double :=
  if num = 0 then finite negative 0 minExponent
  else
    let e := ratioExponent num den
    let (a, b) := inUnits num den e
    let m := roundDiv a b
    let (m, e) := if m = 2 * minNormal then (minNormal, e + 1) else (m, e)
    if maxExponent < e then infinite negative else finite negative m e

/-- The double nearest to `digits · 10 ^ power`. Beyond the powers that a double reaches the answer is known at once. -/
def ofDecimal (negative : Bool) (digits : Nat) (power : Int) : Double :=
  let size := power + (Nat.toDigits 10 digits).length
  if digits = 0 ∨ size < -340 then finite negative 0 minExponent
  else if 340 < size then infinite negative
  else ofRatio negative (digits * Nat.pow 10 power.toNat) (Nat.pow 10 (-power).toNat)

/-! ## Integers -/

/-- The number without its fraction, sign included; only a finite number has one. -/
def truncate? : Double → Option Int
  | finite s m e =>
    let n := Int.ofNat (m * Nat.pow 2 e.toNat / Nat.pow 2 (-e).toNat)
    some (if s then -n else n)
  | _ => none

/-- The integer that the number is equal to. -/
def toInt? : Double → Option Int
  | finite s m e =>
    if m * Nat.pow 2 e.toNat % Nat.pow 2 (-e).toNat = 0 then truncate? (finite s m e) else none
  | _ => none

end Double

end GuideSite
