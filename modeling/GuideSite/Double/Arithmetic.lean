import GuideSite.Double.Basic

/-!
# Sums and products of doubles

The exact sum or product of two numbers, rounded to the nearest double.
-/

namespace GuideSite.Double

/-- The double nearest to `n · 2 ^ exponent`; a zero has the sign given. -/
def ofScaled (negativeZero : Bool) (n exponent : Int) : Double :=
  if n = 0 then finite negativeZero 0 minExponent
  else ofRatio (n < 0) (n.natAbs * Nat.pow 2 exponent.toNat) (Nat.pow 2 (-exponent).toNat)

/-- A mantissa with the sign of its number. -/
def signed (negative : Bool) (mantissa : Nat) : Int :=
  if negative then -Int.ofNat mantissa else mantissa

/-- The double nearest to the sum. Two infinities of different signs have none. -/
def add : Double → Double → Double
  | nan, _ => nan
  | _, nan => nan
  | infinite s, infinite t => if s = t then infinite s else nan
  | infinite s, _ => infinite s
  | _, infinite t => infinite t
  | finite s m e, finite t n f =>
    let least := min e f
    ofScaled (s && t) (signed s m * Nat.pow 2 (e - least).toNat + signed t n * Nat.pow 2 (f - least).toNat) least

/-- The double nearest to the product. An infinity times zero has none. -/
def mul : Double → Double → Double
  | nan, _ => nan
  | _, nan => nan
  | infinite s, infinite t => infinite (s != t)
  | infinite s, finite t n _ => if n = 0 then nan else infinite (s != t)
  | finite s m _, infinite t => if m = 0 then nan else infinite (s != t)
  | finite s m e, finite t n f => ofScaled (s != t) (signed s m * signed t n) (e + f)

/-- The double nearest to a natural number. -/
def ofNat (n : Nat) : Double := ofRatio false n 1

end GuideSite.Double
