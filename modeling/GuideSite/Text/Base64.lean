/-!
# Base 64

Bytes can be written with sixty-four characters: each character stands for six bits, four characters for three bytes,
and equals signs fill up the last group. `decode?` reads them and passes over every other character.
-/

namespace GuideSite.Text.Base64

/-- The six bits that a character stands for. -/
def sextet? (c : Char) : Option Nat :=
  if c.isUpper then some (c.toNat - 'A'.toNat)
  else if c.isLower then some (c.toNat - 'a'.toNat + 26)
  else if c.isDigit then some (c.toNat - '0'.toNat + 52)
  else if c = '+' then some 62
  else if c = '/' then some 63
  else none

/-- The sextets of a text, of whose last group `place` characters and after them `pads` equals signs stand before it.
Signs that fill up the group end the text; without them the group must be full. -/
def sextets? (place pads : Nat) : List Char → Option (List Nat)
  | [] => if place = 0 then some [] else none
  | c :: cs =>
    if c = '=' then
      if place < 2 then sextets? place pads cs
      else if 4 ≤ place + pads + 1 then some []
      else sextets? place (pads + 1) cs
    else match sextet? c with
      | some bits => (sextets? ((place + 1) % 4) 0 cs).map (bits :: ·)
      | none => sextets? place pads cs

/-- The bytes of sextets; the bits that fill no byte are left out. -/
def bytes : List Nat → List UInt8
  | a :: b :: c :: d :: rest =>
    let n := ((a * 64 + b) * 64 + c) * 64 + d
    UInt8.ofNat (n / 65536) :: UInt8.ofNat (n / 256) :: UInt8.ofNat n :: bytes rest
  | [a, b, c] =>
    let n := (a * 64 + b) * 64 + c
    [UInt8.ofNat (n / 1024), UInt8.ofNat (n / 4)]
  | [a, b] => [UInt8.ofNat ((a * 64 + b) / 16)]
  | _ => []

/-- The bytes that a text of ASCII writes. -/
def decode? (cs : List Char) : Option (List UInt8) :=
  if cs.all (·.toNat < 0x80) then (sextets? 0 0 cs).map bytes else none

end GuideSite.Text.Base64
