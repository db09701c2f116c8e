import GuideSite.Double.Text

/-!
# Written complex numbers

A person may write a number with a real and an imaginary part: a number, a number before a `j`, or both, where the
second needs a sign and a bare sign will do for one. Single underscores may stand between digits, and blanks around
the whole.

* `isComplexText`: the text writes such a number.
-/

namespace GuideSite.Double

/-- The text without underscores, each of which stands between two digits; `before` is the character before the text. -/
def dropUnderscores? (before : Char) : List Char → Option (List Char)
  | [] => if before = '_' then none else some []
  | c :: cs =>
    if c = '_' then
      if before.isDigit then dropUnderscores? c cs else none
    else if before = '_' ∧ !c.isDigit then none
    else (dropUnderscores? c cs).map (c :: ·)

/-- The text after an imaginary unit, whatever its case. -/
def cutUnit? : List Char → Option (List Char)
  | c :: cs => if c = 'j' ∨ c = 'J' then some cs else none
  | [] => none

/-- The text after a sign. -/
def cutSign? : List Char → Option (List Char)
  | c :: cs => if c = '+' ∨ c = '-' then some cs else none
  | [] => none

/-- The text after an imaginary part that has no number of its own. -/
def cutBareUnit? (cs : List Char) : Option (List Char) :=
  cutUnit? ((cutSign? cs).getD cs)

/-- The text after an imaginary part, which starts with a sign. -/
def cutImaginary? (cs : List Char) : Option (List Char) :=
  match cutNumber? cs with
  | some (_, rest) => cutUnit? rest
  | none => cutBareUnit? cs

/-- The text after a complex number. -/
def cutComplex? (cs : List Char) : Option (List Char) :=
  match cutNumber? cs with
  | none => cutBareUnit? cs
  | some (_, rest) =>
    if (cutSign? rest).isSome then cutImaginary? rest else some ((cutUnit? rest).getD rest)

/-- The text writes a complex number. -/
def isComplexText (s : String) : Bool :=
  match dropUnderscores? ' ' (Text.plainDigits (Text.trimChars Text.isNumeralBlank s.toList)) with
  | some cs => cutComplex? cs == some []
  | none => false

end GuideSite.Double
