import GuideSite.Text.Numeral
import GuideSite.Text.Quoted
import GuideSite.Yaml.Node.Basic
import GuideSite.Yaml.Quoted
import GuideSite.Yaml.Token

/-!
# Nodes from tokens

The grammar of nodes over tokens. Wherever the tokens leave out a key, a value or an entry, the empty node stands for
it. Tokens are looked at in their order, so of several faults of a text the first one is found.

* `Node.ofTokens`: the single document of a list of tokens.
-/

namespace GuideSite.Yaml

/-! ## Tags -/

/-- What the handles of tags stand for. -/
abbrev TagHandles := List (String × String)

/-- The handles that every document knows. -/
def standardHandles : TagHandles := [("!", "!"), ("!!", "tag:yaml.org,2002:")]

/-- The character that digits after a percent sign write. -/
def tagChar (digits : List Char) : Except Fault Char :=
  match Text.readInteger 16 digits with
  | .ok n => if n < 0 then .error .codePoint else charOf n.toNat
  | .error _ => .error (.integer 16 (Text.quoted (String.ofList digits)))

/-- The rest of a tag, in which a percent sign and the two characters after it write one. -/
def decodeTag : List Char → Except Fault (List Char)
  | [] => .ok []
  | '%' :: a :: b :: cs => do return (← tagChar [a, b]) :: (← decodeTag cs)
  | '%' :: cs => do return [← tagChar cs]
  | c :: cs => do return c :: (← decodeTag cs)

/-- The tag that a text writes; its handle must be known. -/
def TagText.resolve (handles : TagHandles) (t : TagText) : Except Fault String := do
  let start ← match t.handle with
    | none => pure ""
    | some handle => orMalformed (handles.lookup handle)
  return start ++ String.ofList (← decodeTag t.rest.toList)

/-- A tag that says nothing, so that the content decides. -/
def isOpenTag (tag : Option String) : Bool := tag.all (· == "!")

/-- What the directives of a document say. -/
structure Settings where
  version : Version := .standard
  handles : TagHandles := standardHandles

namespace Node

/-! ## Ends of content -/

/-- The entry of a block sequence is empty before these tokens. -/
def endsItem : List Token → Bool
  | .blockEntry :: _ => true
  | .blockEnd :: _ => true
  | _ => false

/-- A key or value of a block mapping is empty before these tokens. -/
def endsPart : List Token → Bool
  | .key :: _ => true
  | .value :: _ => true
  | .blockEnd :: _ => true
  | _ => false

/-- The entry of a sequence without indentation of its own is empty before these tokens. -/
def endsPlainItem (ts : List Token) : Bool := endsItem ts || endsPart ts

/-- A value of a flow collection is empty before these tokens. -/
def endsFlowValue (close : Token) : List Token → Bool
  | [] => false
  | t :: _ => t == .flowEntry || t == close

/-- A key of a flow collection is empty before these tokens. -/
def endsFlowKey (close : Token) (ts : List Token) : Bool :=
  ts.head? == some .value || endsFlowValue close ts

/-! ## Grammar -/

/-- Where a node stands. -/
inductive Position
  /-- In a block collection or alone. -/
  | block
  /-- In a block mapping, where a sequence need not be indented. -/
  | blockPart
  /-- In brackets. -/
  | flow
  deriving DecidableEq

/-- Why tokens are refused that no rule allows. -/
def refusal : List Token → Fault
  | .fault f :: _ => f
  | _ => .malformed

/-- Content that is left out, which only properties make a node. -/
def emptyContent (p : Properties) (ts : List Token) : Except Fault (Node × List Token) :=
  match ts with
  | .fault f :: _ => .error f
  | ts => if p = {} then .error .malformed else .ok (.scalar p "" (isOpenTag p.tag), ts)

mutual

/-- The node at the start of some tokens, and the tokens after it. -/
def node (s : Settings) (pos : Position) (ts : List Token) : Except Fault (Node × List Token) :=
  match ts with
  | .reference name :: ts => .ok (.reference name, ts)
  | .anchor a :: .tag t :: ts => do content s pos { anchor := a, tag := ← t.resolve s.handles } ts
  | .tag _ :: .fault f :: _ => .error f
  | .tag t :: .anchor a :: ts => do content s pos { anchor := a, tag := ← t.resolve s.handles } ts
  | .anchor a :: ts => content s pos { anchor := a } ts
  | .tag t :: ts => do content s pos { tag := ← t.resolve s.handles } ts
  | ts => content s pos {} ts
termination_by (ts.length, 2)

/-- The content of a node after its properties. -/
def content (s : Settings) (pos : Position) (p : Properties) (ts : List Token) : Except Fault (Node × List Token) :=
  match pos, ts with
  | _, .scalar text plain :: ts =>
    .ok (.scalar p text ((plain && p.tag.isNone) || p.tag == some "!"), ts)
  | _, .flowSequenceStart :: ts => (flowItems s ts).map fun (items, ts) => (.sequence p items, ts)
  | _, .flowMappingStart :: ts => (flowEntries s ts).map fun (entries, ts) => (.mapping p entries, ts)
  | .flow, ts => emptyContent p ts
  | .blockPart, .blockEntry :: ts =>
    (plainItems s (.blockEntry :: ts)).map fun (items, ts) => (.sequence p items, ts)
  | _, .blockSequenceStart :: ts => (blockItems s ts).map fun (items, ts) => (.sequence p items, ts)
  | _, .blockMappingStart :: ts => (blockEntries s ts).map fun (entries, ts) => (.mapping p entries, ts)
  | _, ts => emptyContent p ts
termination_by (ts.length, 1)

/-- The items of a block sequence, up to its end. -/
def blockItems (s : Settings) (ts : List Token) : Except Fault (List Node × List Token) :=
  match ts with
  | .blockEnd :: ts => .ok ([], ts)
  | .blockEntry :: ts => do
    let (item, after) ← if endsItem ts then pure (empty, ts) else node s .block ts
    if _h : after.length < ts.length + 1 then
      (blockItems s after).map fun (items, ts) => (item :: items, ts)
    else throw .malformed
  | ts => .error (refusal ts)
termination_by (ts.length, 0)

/-- The items of a sequence without indentation of its own. -/
def plainItems (s : Settings) (ts : List Token) : Except Fault (List Node × List Token) :=
  match ts with
  | .blockEntry :: ts => do
    let (item, after) ← if endsPlainItem ts then pure (empty, ts) else node s .block ts
    if _h : after.length < ts.length + 1 then
      (plainItems s after).map fun (items, ts) => (item :: items, ts)
    else throw .malformed
  | ts => .ok ([], ts)
termination_by (ts.length, 0)

/-- The entries of a block mapping, up to its end. After version 1.1 an entry may have no key. -/
def blockEntries (s : Settings) (ts : List Token) : Except Fault (List (Node × Node) × List Token) :=
  match ts with
  | .blockEnd :: ts => .ok ([], ts)
  | .key :: ts => do
    let (key, after) ← if endsPart ts then pure (empty, ts) else node s .blockPart ts
    if _h : after.length < ts.length + 1 then
      let (value, rest) ← blockValue s after
      if _h' : rest.length < ts.length + 1 then
        (blockEntries s rest).map fun (entries, ts) => ((key, value) :: entries, ts)
      else throw .malformed
    else throw .malformed
  | .value :: ts => do
    if s.version = .first then throw .malformed
    else
      let (value, rest) ← if endsPart ts then pure (empty, ts) else node s .blockPart ts
      if _h : rest.length < ts.length + 1 then
        (blockEntries s rest).map fun (entries, ts) => ((empty, value) :: entries, ts)
      else throw .malformed
  | ts => .error (refusal ts)
termination_by (ts.length, 0)

/-- The value of an entry of a block mapping. -/
def blockValue (s : Settings) (ts : List Token) : Except Fault (Node × List Token) :=
  match ts with
  | .value :: ts => if endsPart ts then .ok (empty, ts) else node s .blockPart ts
  | ts => .ok (empty, ts)
termination_by (ts.length, 0)

/-- The items of a flow sequence, up to its end. -/
def flowItems (s : Settings) (ts : List Token) : Except Fault (List Node × List Token) :=
  match ts with
  | .flowSequenceEnd :: ts => .ok ([], ts)
  | ts => do
    let (item, after) ← flowItem s ts
    if _h : after.length < ts.length then
      (moreItems s after).map fun (items, ts) => (item :: items, ts)
    else throw .malformed
termination_by (ts.length, 4)

/-- The items of a flow sequence after one of them, each after a comma. -/
def moreItems (s : Settings) (ts : List Token) : Except Fault (List Node × List Token) :=
  match ts with
  | .flowSequenceEnd :: ts => .ok ([], ts)
  | .flowEntry :: ts => flowItems s ts
  | ts => .error (refusal ts)
termination_by (ts.length, 0)

/-- An item of a flow sequence. One with a colon is a mapping of its own. -/
def flowItem (s : Settings) (ts : List Token) : Except Fault (Node × List Token) :=
  match ts with
  | .key :: ts => do
    let (key, after) ← if endsFlowKey .flowSequenceEnd ts then pure (empty, ts) else node s .flow ts
    if _h : after.length < ts.length + 1 then
      let (value, rest) ← flowValue s .flowSequenceEnd after
      return (.mapping {} [(key, value)], rest)
    else throw .malformed
  | ts => node s .flow ts
termination_by (ts.length, 3)

/-- The value of an entry of a flow collection. -/
def flowValue (s : Settings) (close : Token) (ts : List Token) : Except Fault (Node × List Token) :=
  match ts with
  | .value :: ts => if endsFlowValue close ts then .ok (empty, ts) else node s .flow ts
  | ts => .ok (empty, ts)
termination_by (ts.length, 0)

/-- The entries of a flow mapping, up to its end. -/
def flowEntries (s : Settings) (ts : List Token) : Except Fault (List (Node × Node) × List Token) :=
  match ts with
  | .flowMappingEnd :: ts => .ok ([], ts)
  | ts => do
    let (entry, after) ← flowEntry s ts
    if _h : after.length < ts.length then
      (moreEntries s after).map fun (entries, ts) => (entry :: entries, ts)
    else throw .malformed
termination_by (ts.length, 4)

/-- The entries of a flow mapping after one of them, each after a comma. -/
def moreEntries (s : Settings) (ts : List Token) : Except Fault (List (Node × Node) × List Token) :=
  match ts with
  | .flowMappingEnd :: ts => .ok ([], ts)
  | .flowEntry :: ts => flowEntries s ts
  | ts => .error (refusal ts)
termination_by (ts.length, 0)

/-- An entry of a flow mapping; one without a colon has no value, and after version 1.1 one may have no key. -/
def flowEntry (s : Settings) (ts : List Token) : Except Fault ((Node × Node) × List Token) :=
  match ts with
  | .key :: ts => do
    let (key, after) ← if endsFlowKey .flowMappingEnd ts then pure (empty, ts) else node s .flow ts
    if _h : after.length < ts.length + 1 then
      (flowValue s .flowMappingEnd after).map fun (value, ts) => ((key, value), ts)
    else throw .malformed
  | .value :: ts =>
    if s.version = .first then .error .malformed
    else (flowValue s .flowMappingEnd (.value :: ts)).map fun (value, ts) => ((empty, value), ts)
  | ts => (node s .flow ts).map fun (key, ts) => ((key, empty), ts)
termination_by (ts.length, 3)

end

/-! ## Documents -/

/-- What the directives at the start of some tokens say, and the tokens after them. There is one version at most, and it
is a version 1; `version` is the one met so far. -/
def directives (version : Option Version) (handles : TagHandles) :
    List Token → Except Fault (Settings × List Token)
  | .directive (.version v) :: ts =>
    if version.isSome ∨ v.major ≠ 1 then .error .malformed else directives (some v) handles ts
  | .directive (.tag handle start) :: ts =>
    if handles.any (·.1 == handle) then .error .malformed else directives version (handles ++ [(handle, start)]) ts
  | .directive .other :: ts => directives version handles ts
  | .fault f :: _ => .error f
  | ts =>
    let version := version.getD .standard
    if version.isKnown then .ok (⟨version, handles ++ standardHandles⟩, ts)
    else .error (.version version.major version.minor)

/-- A document with a mark of its start is empty before these tokens. -/
def endsContent : List Token → Bool
  | [] => true
  | .directive _ :: _ => true
  | .documentStart :: _ => true
  | .documentEnd :: _ => true
  | _ => false

/-- The tokens after a document are its end and nothing else; in version 1.1 it may end several times. What follows
would be another document, whose directives are looked at before it is refused. -/
def checkEnd (version : Version) (ts : List Token) : Except Fault Unit := do
  let after := match ts with
    | .documentEnd :: ts => if version = .first then ts.dropWhile (· == .documentEnd) else ts
    | ts => ts
  if after ≠ [] then
    let (_, after) ← directives none [] after
    throw (refusal after)

/-- The settings and the node of the single document of a list of tokens, if there is a document. -/
def ofTokens (ts : List Token) : Except Fault (Option (Settings × Node)) := do
  if ts = [] then return none
  else
    let explicit := match ts with
      | .directive _ :: _ => true
      | .documentStart :: _ => true
      | _ => false
    let (settings, after) ← if explicit then directives none [] ts else pure ({}, ts)
    let (node, after) ← match explicit, after with
      | true, .documentStart :: ts => if endsContent ts then pure (empty, ts) else node settings .block ts
      | true, ts => throw (refusal ts)
      | false, ts => node settings .block ts
    checkEnd settings.version after
    return some (settings, node)

end Node

end GuideSite.Yaml
