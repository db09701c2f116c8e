import GuideSite.Text.Quoted

/-!
# String literals of scripts

Texts reach the scripts of a page as string literals in ASCII. A character beyond ASCII is written by its UTF-16
units, four hexadecimal digits each, so no line break or quotation mark of the text ends the literal.
-/

namespace GuideSite.Script

/-- The UTF-16 units of a character. -/
def units (c : Char) : List Nat :=
  let n := c.toNat
  if n < 0x10000 then [n]
  else [0xD800 + (n - 0x10000) / 0x400, 0xDC00 + (n - 0x10000) % 0x400]

/-- One unit as an escape. -/
def unitEscape (n : Nat) : List Char :=
  '\\' :: 'u' :: Text.hexDigits 4 n

/-- One character between double quotes. -/
def literalChar (c : Char) : List Char :=
  if c = '"' then ['\\', '"']
  else if c = '\\' then ['\\', '\\']
  else if c = '\n' then ['\\', 'n']
  else if c = '\r' then ['\\', 'r']
  else if c = '\t' then ['\\', 't']
  else if c.toNat = 0x08 then ['\\', 'b']
  else if c.toNat = 0x0C then ['\\', 'f']
  else if 0x20 ≤ c.toNat ∧ c.toNat < 0x7F then [c]
  else (units c).flatMap unitEscape

/-- One character between apostrophes, where a double quote is escaped all the same. -/
def apostropheChar (c : Char) : List Char :=
  if c = '\'' then ['\\', '\''] else literalChar c

/-- The literal of a text between apostrophes. -/
def apostropheLiteral (s : String) : String :=
  String.ofList ('\'' :: (s.toList.flatMap apostropheChar ++ ['\'']))

/-- One character between double quotes, where those with a meaning in markup are escaped too. -/
def markupSafeChar (c : Char) : List Char :=
  if c = '<' ∨ c = '>' ∨ c = '&' ∨ c = '\'' then unitEscape c.toNat else literalChar c

/-- The literal of a text between double quotes, without a character that has a meaning in markup. -/
def markupSafeLiteral (s : String) : String :=
  String.ofList ('"' :: (s.toList.flatMap markupSafeChar ++ ['"']))

end GuideSite.Script
