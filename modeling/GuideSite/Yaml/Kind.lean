import GuideSite.Yaml.Moment
import GuideSite.Yaml.Quoted

/-!
# Kinds of nodes

A node is read as one of the standard types: because its tag says so, or because its content looks like one. A scalar
may look like nothing, a truth value, a number, a date, or one of two marks that only keys may be.

* `Kind.ofText`, `Kind.ofTag`: as what a scalar that nothing is said about, or a node with a tag, is read.
-/

namespace GuideSite.Yaml

/-- As what a node is read. -/
inductive Kind
  | null
  | bool
  | int
  | float
  | time
  | text
  | bytes
  | sequence
  | mapping
  | set
  /-- A list of entries that stands for a mapping. -/
  | orderedMap
  /-- A list of entries that stands for a list of pairs. -/
  | pairs
  /-- The key that takes over the entries of other mappings. -/
  | merge
  /-- The key of a value by itself. -/
  | self
  /-- No standard type. -/
  | unknown
  deriving DecidableEq, Repr

namespace Kind

/-! ## Parts of numbers -/

/-- A digit or an underscore. -/
def isDigitOrUnderscore (c : Char) : Bool := c.isDigit || c == '_'

/-- An octal digit or an underscore. -/
def isOctalOrUnderscore (c : Char) : Bool := ('0' ≤ c && c ≤ '7') || c == '_'

/-- The text is not empty, and all of a class. -/
def isAll (p : Char → Bool) (cs : List Char) : Bool := cs != [] && cs.all p

/-- The text without a sign. -/
def dropSign : List Char → List Char
  | '-' :: cs => cs
  | '+' :: cs => cs
  | cs => cs

/-- The text is one of some words. -/
def isWord (words : List String) (cs : List Char) : Bool := words.any (·.toList == cs)

/-- The text is empty or a power of ten; `signed` demands a sign. -/
def isPower (signed : Bool) : List Char → Bool
  | [] => true
  | e :: cs => (e == 'e' || e == 'E') && (!signed || dropSign cs != cs) && isAll Char.isDigit (dropSign cs)

/-- The text starts with a digit, and only digits and underscores follow. -/
def isNumber (cs : List Char) : Bool := cs.head?.any Char.isDigit && cs.all isDigitOrUnderscore

/-- The text is a number below sixty, of one digit or two. -/
def isSixtieth : List Char → Bool
  | [a] => a.isDigit
  | [a, b] => '0' ≤ a && a ≤ '5' && b.isDigit
  | _ => false

/-- The text is a number below sixty with a point. -/
def isLastSixtieth (cs : List Char) : Bool :=
  isSixtieth (cs.takeWhile (· != '.')) && match cs.dropWhile (· != '.') with
    | '.' :: fraction => fraction.all isDigitOrUnderscore
    | _ => false

/-! ## Looks -/

/-- The text is a truth value. -/
def isBool (version : Version) (cs : List Char) : Bool :=
  isWord ["true", "True", "TRUE", "false", "False", "FALSE"] cs || (version == .first &&
    isWord ["y", "Y", "yes", "Yes", "YES", "n", "N", "no", "No", "NO", "on", "On", "ON", "off", "Off", "OFF"] cs)

/-- The text is a number with a point, in base sixty. -/
def isFloatOfSixty (cs : List Char) : Bool :=
  match cs.splitOn ':' with
  | first :: others =>
    isNumber first && others.dropLast.all isSixtieth && others.getLast?.any isLastSixtieth
  | [] => false

/-- The text is a number with a point or a power of ten, an infinity, or the mark of no number. -/
def isFloat (version : Version) (cs : List Char) : Bool :=
  let unsigned := dropSign cs
  let rest := unsigned.dropWhile isDigitOrUnderscore
  if unsigned.head?.any Char.isDigit then
    (match rest with
    | '.' :: rest => isPower false (rest.dropWhile isDigitOrUnderscore)
    | rest => rest != [] && isPower false rest) || (version == .first && isFloatOfSixty unsigned)
  else match unsigned with
    | '.' :: rest =>
      ((version != .first || unsigned == cs) && rest.head?.any isDigitOrUnderscore &&
          isPower true (rest.dropWhile isDigitOrUnderscore)) ||
        isWord ["inf", "Inf", "INF"] rest || (unsigned == cs && isWord ["nan", "NaN", "NAN"] rest)
    | _ => false

/-- The text is an integer in base sixty. -/
def isIntOfSixty (cs : List Char) : Bool :=
  match cs.splitOn ':' with
  | first :: others => isNumber first && first.head? != some '0' && others != [] && others.all isSixtieth
  | [] => false

/-- The text without its sign is an integer in decimal or octal digits, or in base sixty. -/
def isDigits (version : Version) (cs : List Char) : Bool :=
  if version = .first then
    isAll isOctalOrUnderscore cs || (isNumber cs && cs.head? != some '0') || isIntOfSixty cs
  else
    isAll isDigitOrUnderscore cs || match cs with
      | '0' :: 'o' :: rest => isAll isOctalOrUnderscore rest
      | _ => false

/-- The text is an integer. -/
def isInt (version : Version) (cs : List Char) : Bool :=
  let unsigned := dropSign cs
  (unsigned != cs || cs.head?.any Char.isDigit) && (isDigits version unsigned || match unsigned with
    | '0' :: 'b' :: rest => isAll (fun c => c == '0' || c == '1' || c == '_') rest
    | '0' :: 'x' :: rest => isAll (fun c => (hexValue? c).isSome || c == '_') rest
    | _ => false)

/-- As what a line is read. -/
def ofLine (version : Version) (cs : List Char) : Kind :=
  if isBool version cs then bool
  else if isFloat version cs then float
  else if isInt version cs then int
  else if isWord ["<<"] cs then merge
  else if isWord ["", "~", "null", "Null", "NULL"] cs then null
  else if Moment.isPlain cs then time
  else if isWord ["="] cs then self
  else if isWord ["!", "&", "*"] cs then unknown
  else text

/-- As what a text is read, at the end of which a line may end. -/
def ofText (version : Version) (cs : List Char) : Kind :=
  if cs = ['\n'] then text else ofLine version (Moment.dropLineEnd cs)

/-! ## Tags -/

/-- The tag of a standard type. -/
def standardTag (name : String) : String := "tag:yaml.org,2002:" ++ name

/-- The names of the standard types. -/
def standardNames : List (String × Kind) := [
  ("null", null), ("bool", bool), ("int", int), ("float", float), ("timestamp", time), ("str", text),
  ("binary", bytes), ("seq", sequence), ("map", mapping), ("set", set), ("omap", orderedMap), ("pairs", pairs),
  ("merge", merge), ("value", self)]

/-- As what a node with a tag is read. -/
def ofTag (tag : String) : Kind :=
  ((standardNames.find? fun n => tag == standardTag n.1).map Prod.snd).getD unknown

end Kind

end GuideSite.Yaml
