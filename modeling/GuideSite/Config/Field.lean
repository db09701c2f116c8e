import GuideSite.Data.Dictionary
import GuideSite.Flags

/-!
# Single settings

The readings of a value that the settings of a site share: a text that may be absent, a text that may not, a list of
names, a mapping of languages to texts, and section flags. Texts lose the blanks around them, and a blank text counts
as absent.
-/

namespace GuideSite.Config

/-- The text that stands for a value, unless it is blank or the value is nothing. -/
def optionalText : Value → Except Error (Option String)
  | .null => .ok none
  | v => do
    let text := Text.strip (← v.displayed)
    return if text = "" then none else some text

/-- The text that stands for a value, or a fault at its place. -/
def requiredText (place : Place) (field : String) (v : Value) : Except Error String := do
  match ← optionalText v with
  | some text => return text
  | none => throw (.config (.missing place field))

/-- The words of a text, or the items of a list that are not blank. Any other value has no names. -/
def names (v : Value) : Except Error (List String) :=
  match v.unfold with
  | .text s => .ok (Text.words s)
  | .list items => do
    let texts ← items.mapM Value.displayed
    return (texts.map Text.strip).filter (· ≠ "")
  | _ => .ok []

/-- The dictionary with the text of an entry under its language, unless one of them is blank. -/
def putLabel (labels : Dictionary String) (entry : Value × Value) : Except Error (Dictionary String) := do
  let language ← optionalText entry.1
  let text ← optionalText entry.2
  return match language, text with
    | some language, some text => labels.insert language text
    | _, _ => labels

/-- A mapping of languages to texts, without the blank ones. -/
def labels (place : Place) (v : Value) : Except Error (Dictionary String) :=
  match v with
  | .null => .ok ∅
  | v => match v.entries? with
    | some entries => entries.foldlM putLabel ∅
    | none => .error (.config (.translations place))

/-- An error of section flags at its place. -/
def flagsAt (place : Place) : Error → Error
  | .flag fault => .config (.flag place fault)
  | e => e

/-- The section flags of a setting: names, or a mapping of names to truth values. -/
def flags (place : Place) (v : Value) : Except Error SectionFlags :=
  match v.unfold with
  | .null => .ok ∅
  | .text s => .ok (.ofNames (Text.words s))
  | .list items => do return .ofNames (← items.mapM Value.displayed)
  | .map entries => (SectionFlags.ofMapping entries).mapError (flagsAt place)
  | .orderedMap entries => (SectionFlags.ofMapping entries).mapError (flagsAt place)
  | _ => .error (.config (.flags place))

end GuideSite.Config
