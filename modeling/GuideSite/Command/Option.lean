import GuideSite.Double.Complex
import GuideSite.Text.Casing

/-!
# Options of a command line

After its command, a command line holds options only: `--name value` or `--name=value`. An option that may be repeated
can also be given as an empty list, `--empty-name`. Names may be written with underscores for hyphens, and two hyphens
may stand at the end. An option that is not given is looked up in the environment, under `INPUT_NAME`.

* `Option.read?`: the options of a command line, unless it breaks these rules.
-/

namespace GuideSite.Command

/-- An option that a command knows. -/
structure Setting where
  name : String
  repeatable : Bool := false
  deriving DecidableEq, Repr

/-- The values given for an option. -/
structure Given where
  name : String
  values : List String
  deriving DecidableEq, Repr

/-- The values of the environment's variables. -/
abbrev Environment := String → Option String

/-! ## Words -/

/-- A word that starts like an option; numbers do not count, nor does anything that starts with a minus and a digit. -/
def startsOption (word : String) : Bool :=
  match word.toList with
  | '-' :: cs => !(cs.head?.any fun c => (Text.digit? c).isSome) && !Double.isComplexText word
  | _ => false

/-- The name of an option, with hyphens between its words. -/
def nameOf (cs : List Char) : String :=
  String.ofList (cs.map fun c => if c = '_' then '-' else c)

/-- The name of an option and the value after its equals sign, if there is one. -/
def splitOption? (word : String) : Option (String × Option String) :=
  match word.toList with
  | '-' :: '-' :: cs =>
    some (nameOf (cs.takeWhile (· ≠ '=')), match cs.dropWhile (· ≠ '=') with
      | [] => none
      | _ :: value => some (String.ofList value))
  | _ => none

/-- The option that a word gives as an empty list. -/
def emptied? (known : List Setting) (name : String) : Option Setting :=
  known.find? fun s => s.repeatable && name == "empty-" ++ s.name

/-- The word says yes or no. -/
def saysYes? (word : String) : Option Bool :=
  let word := Text.lowerCase word
  if ["yes", "y", "1", "true", "t"].contains word then some true
  else if ["no", "n", "0", "false", "f"].contains word then some false
  else none

/-- The options of the words of a command line, in order. -/
def givenOf? (known : List Setting) : List String → Option (List Given)
  | [] => some []
  | word :: rest =>
    if word = "--" then if rest = [] then some [] else none
    else do
      let (name, value) ← splitOption? word
      if known.any (·.name == name) then
        match value, rest with
        | some value, rest => (givenOf? known rest).map (⟨name, [value]⟩ :: ·)
        | none, value :: rest =>
          if startsOption value then none else (givenOf? known rest).map (⟨name, [value]⟩ :: ·)
        | none, [] => none
      else do
        let s ← emptied? known name
        let empties ← match value with
          | none => some true
          | some value => saysYes? value
        let given ← givenOf? known rest
        return if empties then ⟨s.name, []⟩ :: given else given

/-! ## The environment -/

/-- The variable of an option. -/
def variableOf (name : String) : String :=
  "INPUT_" ++ String.ofList (name.toList.map fun c => if c = '-' then '_' else c.toUpper)

/-- The values that the environment has for an option; those of one that may be repeated are the words of the
variable. -/
def fromEnvironment (env : Environment) (s : Setting) : Option (List String) :=
  match env (variableOf s.name) with
  | none => none
  | some text =>
    if s.repeatable then
      let words := Text.words text
      if words = [] then none else some words
    else some [text]

/-! ## Values -/

/-- The values of every option: those given, or else those of the environment. -/
def valuesOf (env : Environment) (given : List Given) (s : Setting) : Option (List String) :=
  match given.filter (·.name == s.name) with
  | [] => fromEnvironment env s
  | gs => some (gs.flatMap (·.values))

/-- The values of the options of a command line by their names; only an option that may be repeated is given twice. -/
def read? (known : List Setting) (env : Environment) (words : List String) :
    Option (String → Option (List String)) := do
  let given ← givenOf? known words
  let once := known.all fun s => s.repeatable || (given.filter (·.name == s.name)).length ≤ 1
  if once then
    some fun name => (known.find? (·.name == name)).bind (valuesOf env given)
  else none

end GuideSite.Command
