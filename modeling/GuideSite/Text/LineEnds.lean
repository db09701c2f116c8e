/-!
# Line ends

A text file may end its lines in three ways: with a line feed, a carriage return, or both. A reader sees line feeds
only.
-/

namespace GuideSite.Text

/-- The characters with every line ended by a line feed. -/
def unifyChars : List Char → List Char
  | '\r' :: '\n' :: cs => '\n' :: unifyChars cs
  | '\r' :: cs => '\n' :: unifyChars cs
  | c :: cs => c :: unifyChars cs
  | [] => []

/-- The text with every line ended by a line feed. -/
def unifyLineEnds (s : String) : String :=
  String.ofList (unifyChars s.toList)

end GuideSite.Text
