import GuideSite.Yaml.Charset

/-!
# Places in a text

A `Cursor` is a place in a text: what is left to read, and how far from the start, on which line and in which column it
stands. Only a line feed takes it to another line; the other breaks take up a column like any character.
-/

namespace GuideSite.Yaml

/-- A place in a text. -/
structure Cursor where
  rest : List Char
  index : Nat
  line : Nat
  column : Nat

/-- The column after a character: a line feed starts a new line, and a byte order mark takes up no room. -/
def columnAfter (column : Nat) (c : Char) : Nat :=
  if c = '\n' then 0 else if c = byteOrderMark then column else column + 1

namespace Cursor

/-- The start of a text. -/
def start (cs : List Char) : Cursor := ⟨cs, 0, 0, 0⟩

/-- The place one character on. -/
def next (p : Cursor) : Cursor :=
  match p.rest with
  | [] => p
  | c :: cs => ⟨cs, p.index + 1, if c = '\n' then p.line + 1 else p.line, columnAfter p.column c⟩

/-- The place some characters on. -/
def skip (p : Cursor) : Nat → Cursor
  | 0 => p
  | n + 1 => p.next.skip n

/-- The place where a given end of the text is left to read. -/
def upTo (p : Cursor) (after : List Char) : Cursor :=
  p.skip (p.rest.length - after.length)

end Cursor

/-- The text after spaces, comments and line breaks, and whether a line was ended on the way; inside flow collections
tabs are left out too. -/
def gap (tabs inComment : Bool) : List Char → List Char × Bool
  | [] => ([], false)
  | c :: cs =>
    if inComment && !isBreak c then gap tabs true cs
    else if isBreak c then ((gap tabs false cs).1, true)
    else if c = ' ' || (tabs && c = '\t') then gap tabs false cs
    else if c = '#' then gap tabs true cs
    else (c :: cs, false)

end GuideSite.Yaml
