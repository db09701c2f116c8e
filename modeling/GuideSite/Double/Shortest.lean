import GuideSite.Double.Basic

/-!
# Shortest decimals

`shortest m e` is the decimal with the fewest digits that reads back as the double `m · 2 ^ e`. The numbers that read
back form an interval around the double, its ends included when `m` is even. The grids of the powers of ten are
nested, so the search goes from coarse to fine, and the first grid with a point in the interval has one beside the
double itself; of two such points the nearer is taken, of two equally near the even one.
-/

namespace GuideSite.Double

/-- The decimal number `digits · 10 ^ power`. -/
structure Decimal where
  digits : Nat
  power : Int
  deriving DecidableEq, Repr

/-- The point of the grid of `10 ^ power` that reads back as `m · 2 ^ e`, if there is one. -/
def onGrid? (m : Nat) (e power : Int) : Option Nat :=
  let unit := Nat.pow 2 e.toNat * Nat.pow 10 (-power).toNat
  let den := Nat.pow 2 (-e).toNat * Nat.pow 10 power.toNat
  let num := m * unit
  let below := num / den
  let downward := num - below * den
  let upward := (below + 1) * den - num
  let reach := if m % 2 = 0 then unit else unit - 1
  let hitsBelow := (if m = minNormal ∧ minExponent < e then 4 else 2) * downward ≤ reach
  let hitsAbove := 2 * upward ≤ reach
  if hitsBelow then
    if hitsAbove ∧ (upward < downward ∨ upward = downward ∧ below % 2 = 1) then some (below + 1) else some below
  else if hitsAbove then some (below + 1)
  else none

/-- The first decimal found on the grids from `10 ^ power` downwards, `tries` of them at most. -/
def searchGrids (m : Nat) (e power : Int) : (tries : Nat) → Decimal
  | 0 => ⟨m * Nat.pow 2 e.toNat, 0⟩
  | tries + 1 =>
    match onGrid? m e power with
    | some d => ⟨d, power⟩
    | none => searchGrids m e (power - 1) tries

/-- The decimal with the fewest digits that reads back as `m · 2 ^ e`, for `m` other than zero. -/
def shortest (m : Nat) (e : Int) : Decimal :=
  searchGrids m e ((e + m.log2 + 2) * 30103 / 100000 + 2) 24

end GuideSite.Double
