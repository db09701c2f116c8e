import GuideSite.Text.Numeral
import GuideSite.Yaml.Block
import GuideSite.Yaml.Quoted
import GuideSite.Yaml.Token

/-!
# Anchors, tags and directives

The words around the nodes of a text: the names of anchors and aliases, the tags before nodes, and the directives before
documents.
-/

namespace GuideSite.Yaml

/-! ## Anchors -/

/-- The name of an anchor or alias, and the text after it. -/
def anchorName? (cs : List Char) : Option (String × List Char) :=
  let name := cs.takeWhile isAnchorChar
  let after := cs.drop name.length
  if name ≠ [] ∧ (startsSpace after ∨ startsBlank after ∨ after.head?.any isFlowIndicator) then
    some (String.ofList name, after)
  else none

/-! ## Tags -/

/-- A character of a tag that stands for itself; a number sign does so only after version 1.1. -/
def isTagChar (version : Version) (c : Char) : Bool :=
  c.isAlphanum || "-;/?:@&=+$,_.!~*'()[]".toList.contains c || (version.isLater && c == '#')

/-- The bytes of a tag, in which a percent sign and two digits write one, and the text after it. -/
def tagBytes? (version : Version) : List Char → Option (List UInt8 × List Char)
  | [] => some ([], [])
  | '%' :: a :: b :: cs => do
    let high ← hexValue? a
    let low ← hexValue? b
    (tagBytes? version cs).map fun (bytes, after) => (UInt8.ofNat (16 * high + low) :: bytes, after)
  | c :: cs =>
    if c = '%' then none
    else if isTagChar version c then
      (tagBytes? version cs).map fun (bytes, after) => (UInt8.ofNat c.toNat :: bytes, after)
    else some ([], c :: cs)

/-- A tag without its handle, and the text after it. -/
def tagRest? (version : Version) (cs : List Char) : Option (String × List Char) := do
  let (bytes, after) ← tagBytes? version cs
  let text ← String.fromUTF8? (ByteArray.mk bytes.toArray)
  if bytes = [] then none else some (text, after)

/-- A handle, and the text after it: an exclamation mark, or a word between two. -/
def tagHandle? : List Char → Option (String × List Char)
  | '!' :: cs =>
    if cs.head? = some ' ' then some ("!", cs)
    else
      let word := cs.takeWhile isWordChar
      match cs.drop word.length with
      | '!' :: after => some (String.ofList ('!' :: (word ++ ['!'])), after)
      | _ => none
  | _ => none

/-- A tag after its handle `short` of exclamation marks, and the text after it. A longer handle that starts with the
last mark takes its place. -/
def tagAfter? (version : Version) (short : String) (cs : List Char) : Option (TagText × List Char) :=
  match cs with
  | '<' :: cs => do
    let (rest, after) ← tagRest? version cs
    match after with
    | '>' :: after => some (⟨none, rest⟩, after)
    | _ => none
  | cs =>
    if startsBlank cs then some (⟨none, short⟩, cs)
    else do
      let word := cs.takeWhile fun c => !(c == ' ' || isBreak c)
      let (handle, cs) ← if word.contains '!' then tagHandle? ('!' :: cs) else some (short, cs)
      let (rest, after) ← tagRest? version cs
      some (⟨some handle, rest⟩, after)

/-- A tag after its exclamation mark, and the text after it, which starts with a space or a break. -/
def tag? (version : Version) (cs : List Char) : Option (TagText × List Char) := do
  let (tag, after) ← match cs with
    | '!' :: cs => tagAfter? version "!!" cs
    | cs => tagAfter? version "!" cs
  if startsSpace after then some (tag, after) else none

/-! ## Directives -/

/-- A number, and the text after it. -/
def versionNumber (cs : List Char) : Except Fault (Nat × List Char) :=
  let digits := cs.takeWhile Char.isDigit
  if digits = [] then .error .malformed
  else if Text.maxDigits < digits.length then .error (.digits digits.length)
  else .ok (Text.digitsValue 10 digits, cs.drop digits.length)

/-- The numbers of a version, and the text after them. -/
def versionDirective (cs : List Char) : Except Fault (Version × List Char) := do
  let (major, after) ← versionNumber (cs.dropWhile (· == ' '))
  match after with
  | '.' :: cs => do
    let (minor, after) ← versionNumber cs
    if startsSpace after then return (⟨major, minor⟩, after) else throw .malformed
  | _ => throw .malformed

/-- The handle of a tag and what it stands for, and the text after them. -/
def tagDirective? (version : Version) (cs : List Char) : Option (Directive × List Char) := do
  let (handle, after) ← tagHandle? (cs.dropWhile (· == ' '))
  if after.head? = some ' ' then do
    let (start, after) ← tagRest? version (after.dropWhile (· == ' '))
    if startsSpace after then some (.tag handle start, after) else none
  else none

/-- A character of the name of a directive. -/
def isDirectiveChar (c : Char) : Bool := isWordChar c || c == ':' || c == '.'

/-- A directive after its percent sign, and the text after its line; `version` is that of the text so far. -/
def directive (version : Version) (cs : List Char) : Except Fault (Directive × List Char) := do
  let name := cs.takeWhile isDirectiveChar
  let after := cs.drop name.length
  if name = [] ∨ !startsSpace after then throw .malformed
  else
    let (directive, after) ←
      if name = "YAML".toList then (versionDirective after).map fun (v, after) => (Directive.version v, after)
      else if name = "TAG".toList then orMalformed (tagDirective? version after)
      else pure (Directive.other, after.dropWhile (!isBreak ·))
    return (directive, ← orMalformed (commentLine? after))

end GuideSite.Yaml
