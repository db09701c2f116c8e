import GuideSite.Yaml.Fault
import GuideSite.Yaml.Plain

/-!
# Quoted scalars

A scalar between apostrophes writes an apostrophe twice; one between double quotes has escapes. The lines of both are
folded like those of plain scalars, with the blanks around a break left out, and no line may be a mark between
documents.
-/

namespace GuideSite.Yaml

/-! ## Folding -/

/-- The line breaks at the start of a text, blanks around them left out, and the text after them. -/
def quotedBreaks? (lineStart : Bool) : List Char → Option (List Char × List Char)
  | [] => some ([], [])
  | c :: cs =>
    if lineStart && startsMark (c :: cs) then none
    else if isSpaceOrTab c then quotedBreaks? false cs
    else if isBreak c then (quotedBreaks? true cs).map fun (breaks, after) => (breakChar c :: breaks, after)
    else some ([], c :: cs)

/-- The text that the blanks and breaks at the start of a text stand for, and the text after them. -/
def quotedGap? (cs : List Char) : Option (List Char × List Char) :=
  match cs.dropWhile isSpaceOrTab with
  | [] => none
  | c :: rest =>
    if isBreak c then (quotedBreaks? true rest).map fun (breaks, after) => (fold c breaks, after)
    else some (cs.takeWhile isSpaceOrTab, c :: rest)

/-! ## Escapes -/

/-- What a backslash and a character stand for. -/
def escapeChar? (c : Char) : Option Char :=
  [('0', 0x00), ('a', 0x07), ('b', 0x08), ('t', 0x09), ('\t', 0x09), ('n', 0x0A), ('v', 0x0B), ('f', 0x0C), ('r', 0x0D),
    ('e', 0x1B), (' ', 0x20), ('"', 0x22), ('/', 0x2F), ('\\', 0x5C), ('N', 0x85), ('_', 0xA0), ('L', 0x2028),
    ('P', 0x2029)].lookup c |>.map Char.ofNat

/-- The number of digits of a code point after a backslash and a character. -/
def escapeWidth? (c : Char) : Option Nat :=
  [('x', 2), ('u', 4), ('U', 8)].lookup c

/-- The value of a hexadecimal digit. -/
def hexValue? (c : Char) : Option Nat :=
  if c.isDigit then some (c.toNat - '0'.toNat)
  else if 'a' ≤ c ∧ c ≤ 'f' then some (c.toNat - 'a'.toNat + 10)
  else if 'A' ≤ c ∧ c ≤ 'F' then some (c.toNat - 'A'.toNat + 10)
  else none

/-- The number that exactly `width` hexadecimal digits write, and the text after them. -/
def hexNumber? (value : Nat) : Nat → List Char → Option (Nat × List Char)
  | 0, cs => some (value, cs)
  | _ + 1, [] => none
  | width + 1, c :: cs => (hexValue? c).bind fun d => hexNumber? (16 * value + d) width cs

/-- The first unit of a surrogate pair. -/
def isHighSurrogate (n : Nat) : Bool := 0xD800 ≤ n && n < 0xDC00

/-- The second unit of a surrogate pair. -/
def isLowSurrogate (n : Nat) : Bool := 0xDC00 ≤ n && n < 0xE000

/-- The character of a code point, in which a unit of a surrogate pair has no meaning of its own. -/
def charOf (n : Nat) : Except Fault Char :=
  if n.isValidChar then .ok (Char.ofNat n)
  else if n < 0x110000 then .ok '\uFFFD'
  else if n < Nat.pow 2 31 then .error .codePoint
  else .error .codePointSize

/-- The number that two escapes of a surrogate pair write together, the first of which is given; the text after them. -/
def surrogatePair? (n : Nat) : List Char → Option (Nat × List Char)
  | '\\' :: 'u' :: cs => do
    let (low, after) ← hexNumber? 0 4 cs
    if isHighSurrogate n && isLowSurrogate low then some (0x10000 + 0x400 * (n - 0xD800) + (low - 0xDC00), after)
    else none
  | _ => none

/-- The character that digits write, two escapes of a surrogate pair together. -/
def codePoint (width : Nat) (cs : List Char) : Except Fault (Char × List Char) := do
  let (n, after) ← orMalformed (hexNumber? 0 width cs)
  let (n, after) := (surrogatePair? n after).getD (n, after)
  return (← charOf n, after)

/-- The text that the characters after a backslash stand for, and the text after them. -/
def escape : List Char → Except Fault (List Char × List Char)
  | [] => .error .malformed
  | c :: cs =>
    match escapeChar? c, escapeWidth? c with
    | some e, _ => .ok ([e], cs)
    | none, some width => (codePoint width cs).map fun (e, after) => ([e], after)
    | none, none => if isBreak c then orMalformed (quotedBreaks? true cs) else .error .malformed

/-! ## Reading -/

/-- The text up to the closing apostrophe, and the text after it. -/
def singleQuoted (cs : List Char) : Except Fault (List Char × List Char) :=
  match cs with
  | [] => .error .malformed
  | '\'' :: '\'' :: cs => (singleQuoted cs).map fun (text, after) => ('\'' :: text, after)
  | '\'' :: cs => .ok ([], cs)
  | c :: cs =>
    if isSpaceOrTab c || isBreak c then do
      let (gap, after) ← orMalformed (quotedGap? (c :: cs))
      if _h : after.length < cs.length + 1 then
        (singleQuoted after).map fun (text, after) => (gap ++ text, after)
      else .error .malformed
    else (singleQuoted cs).map fun (text, after) => (c :: text, after)
termination_by cs.length

/-- The text up to the closing double quote, and the text after it. -/
def doubleQuoted (cs : List Char) : Except Fault (List Char × List Char) :=
  match cs with
  | [] => .error .malformed
  | '"' :: cs => .ok ([], cs)
  | '\\' :: cs => do
    let (part, after) ← escape cs
    if _h : after.length < cs.length + 1 then
      (doubleQuoted after).map fun (text, after) => (part ++ text, after)
    else .error .malformed
  | c :: cs =>
    if isSpaceOrTab c || isBreak c then do
      let (gap, after) ← orMalformed (quotedGap? (c :: cs))
      if _h : after.length < cs.length + 1 then
        (doubleQuoted after).map fun (text, after) => (gap ++ text, after)
      else .error .malformed
    else (doubleQuoted cs).map fun (text, after) => (c :: text, after)
termination_by cs.length

end GuideSite.Yaml
