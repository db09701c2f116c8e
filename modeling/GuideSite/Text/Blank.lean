/-!
# Blank characters

A configuration is written by hand, so the blanks around a text and between names carry no meaning. `strip` drops those
around a text and `words` reads the names between them; both work on the blanks of `isBlank`, which takes in the Unicode
spaces and separators but no zero-width character.
-/

namespace GuideSite.Text

/-- A space, a line or paragraph break, a tab, or one of the four information separators. -/
def isBlank (c : Char) : Bool :=
  let n := c.toNat
  (9 ≤ n && n ≤ 13) || (28 ≤ n && n ≤ 32) || n == 0x85 || n == 0xA0 || n == 0x1680 || (0x2000 ≤ n && n ≤ 0x200A) ||
    n == 0x2028 || n == 0x2029 || n == 0x202F || n == 0x205F || n == 0x3000

/-- Every blank of ASCII that the core library knows is blank here. -/
theorem isBlank_of_isWhitespace {c : Char} (h : c.isWhitespace = true) : isBlank c = true := by
  simp only [Char.isWhitespace, Bool.or_eq_true, decide_eq_true_eq] at h
  rcases h with ((h | h) | h) | h <;> subst h <;> decide

/-! ## Stripping -/

/-- The text without the characters of a class at either end. -/
def trimChars (p : Char → Bool) (cs : List Char) : List Char :=
  ((cs.dropWhile p).reverse.dropWhile p).reverse

/-- The text without the blanks at either end. -/
def stripChars (cs : List Char) : List Char := trimChars isBlank cs

/-- The text without the blanks at either end. -/
def strip (s : String) : String :=
  String.ofList (stripChars s.toList)

/-- The text without the slashes it starts with. -/
def dropSlashes (s : String) : String :=
  String.ofList (s.toList.dropWhile (· == '/'))

/-! ## Words -/

/-- The longest runs without a blank, in order. -/
def wordChars (cs : List Char) : List (List Char) :=
  (cs.splitOnP isBlank).filter (· ≠ [])

/-- The words of a text: its longest runs without a blank, in order. -/
def words (s : String) : List String :=
  (wordChars s.toList).map String.ofList

end GuideSite.Text
