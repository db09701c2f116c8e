import GuideSite.Text.Casing.Table

/-!
# Title case and lower case

`titleCase` capitalises each word of a text. A word starts at a character with case that follows none: the start of
the text, a digit, a space or an apostrophe all begin a new one. The first character of a word takes its title form,
which may be several characters, and the others their lower form; a capital sigma at the end of a word becomes a final
sigma. `lowerCase` gives every character its lower form.
-/

namespace GuideSite.Text

/-! ## Character classes -/

/-- A character with case: upper, lower or title. -/
def isCased (c : Char) : Bool :=
  if c.toNat < 0x80 then c.isAlpha else CharRange.covers casedRanges c

/-- A character that the case of a word looks through. -/
def isCaseIgnorable (c : Char) : Bool :=
  CharRange.covers caseIgnorableRanges c

/-! ## Case forms -/

/-- The form of a character by a table of expansions, then of shifts; a character that neither knows stays. -/
def caseForm (expansions : List (Nat × List Nat)) (shifts : List CaseShift) (c : Char) : List Char :=
  match expansions.lookup c.toNat with
  | some forms => forms.map Char.ofNat
  | none => match CaseShift.image? shifts c.toNat with
    | some n => [Char.ofNat n]
    | none => [c]

/-- The title form, as it starts a word. -/
def titleForm (c : Char) : List Char :=
  if c.toNat < 0x80 then [c.toUpper] else caseForm titleExpansions titleShifts c

/-- The lower form. -/
def lowerForm (c : Char) : List Char :=
  if c.toNat < 0x80 then [c.toLower] else caseForm lowerExpansions lowerShifts c

/-- The first character that case does not look through has case. -/
def meetsCased (cs : List Char) : Bool :=
  match cs.dropWhile isCaseIgnorable with
  | c :: _ => isCased c
  | [] => false

/-- A sigma between `before`, nearest character first, and `after` ends its word. -/
def isFinalSigma (before after : List Char) : Bool :=
  meetsCased before && !meetsCased after

/-! ## Whole texts -/

/-- The title case of the rest of a text, after the characters `before`, nearest first. -/
def titleChars (before : List Char) : List Char → List Char
  | [] => []
  | c :: rest =>
    let form :=
      if before.head?.any isCased then
        if c = 'Σ' then [if isFinalSigma before rest then 'ς' else 'σ'] else lowerForm c
      else titleForm c
    form ++ titleChars (c :: before) rest

/-- The text with every word capitalised. -/
def titleCase (s : String) : String :=
  String.ofList (titleChars [] s.toList)

/-- The lower case of the rest of a text, after the characters `before`, nearest first. -/
def lowerChars (before : List Char) : List Char → List Char
  | [] => []
  | c :: rest =>
    let form := if c = 'Σ' then [if isFinalSigma before rest then 'ς' else 'σ'] else lowerForm c
    form ++ lowerChars (c :: before) rest

/-- The text in lower case. -/
def lowerCase (s : String) : String :=
  String.ofList (lowerChars [] s.toList)

end GuideSite.Text
