/-!
# Characters of YAML

The classes of characters that decide where the parts of a YAML text start and end. Besides the line feed, the next-line
character and the line and paragraph separators break a line.
-/

namespace GuideSite.Yaml

/-- The byte order mark, which takes up no room on its line. -/
def byteOrderMark : Char := '\uFEFF'

/-- A character that a text may hold. -/
def isAllowed (c : Char) : Bool :=
  let n := c.toNat
  n == 0x09 || n == 0x0A || n == 0x0D || (0x20 ≤ n && n ≤ 0x7E) || n == 0x85 || (0xA0 ≤ n && n ≤ 0xFFFD) || 0x10000 ≤ n

/-- A line feed, a next-line character, or a line or paragraph separator. -/
def isBreak (c : Char) : Bool := c == '\n' || c == '\u0085' || c == '\u2028' || c == '\u2029'

/-- What a line break stands for: the next-line character is a line feed, any other one is itself. -/
def breakChar (c : Char) : Char := if c = '\u0085' then '\n' else c

/-- A space or a tab. -/
def isSpaceOrTab (c : Char) : Bool := c == ' ' || c == '\t'

/-- An indicator of flow collections. -/
def isFlowIndicator (c : Char) : Bool := [',', '[', ']', '{', '}'].contains c

/-- An indicator, with which no plain scalar starts unless the next character lifts it. -/
def isIndicator (c : Char) : Bool :=
  isFlowIndicator c || ['-', '?', ':', '#', '&', '*', '!', '|', '>', '\'', '"', '%', '@', '\u0060'].contains c

/-- A character of the name of an anchor. -/
def isAnchorChar (c : Char) : Bool :=
  let n := c.toNat
  !isFlowIndicator c && c != byteOrderMark && ((0x21 ≤ n && n ≤ 0x7E) || (0xA0 ≤ n && n ≤ 0xFFFD) || 0x10000 ≤ n)

/-- A letter, digit, hyphen or underscore of ASCII. -/
def isWordChar (c : Char) : Bool := c.isAlphanum || c == '-' || c == '_'

/-! ## What a text starts with -/

/-- The text starts with a blank: it is empty, or a space, tab or break comes first. -/
def startsBlank : List Char → Bool
  | [] => true
  | c :: _ => isSpaceOrTab c || isBreak c

/-- The text starts with a space or a break, or it is empty. -/
def startsSpace : List Char → Bool
  | [] => true
  | c :: _ => c == ' ' || isBreak c

/-- The text starts with the mark of a document start: three hyphens and a blank. -/
def startsDocument : List Char → Bool
  | '-' :: '-' :: '-' :: cs => startsBlank cs
  | _ => false

/-- The text starts with the mark of a document end: three points and a blank. -/
def endsDocument : List Char → Bool
  | '.' :: '.' :: '.' :: cs => startsBlank cs
  | _ => false

/-- The text starts with a mark between documents. -/
def startsMark (cs : List Char) : Bool := startsDocument cs || endsDocument cs

end GuideSite.Yaml
