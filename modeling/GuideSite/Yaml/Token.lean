import GuideSite.Yaml.Fault
import GuideSite.Yaml.Version

/-!
# Tokens of YAML

A YAML text is read as a list of tokens in which the indentation has become explicit: a collection in block style
starts and ends with a token of its own, and a key that is only known by the colon after it has a token before it. Where
the text cannot be read any further, the last token is the fault found there.
-/

namespace GuideSite.Yaml

/-- A tag as it is written: a handle that stands for the start of the tag, if there is one, and the rest. -/
structure TagText where
  handle : Option String
  rest : String
  deriving DecidableEq, Repr

/-- A line of settings before a document. -/
inductive Directive
  /-- The version of the language. -/
  | version (v : Version)
  /-- The start of the tags that are written with a handle. -/
  | tag (handle start : String)
  | other
  deriving DecidableEq, Repr

/-- A token. -/
inductive Token
  | directive (d : Directive)
  | documentStart
  | documentEnd
  | blockSequenceStart
  | blockMappingStart
  | blockEnd
  | blockEntry
  | key
  | value
  | flowSequenceStart
  | flowSequenceEnd
  | flowMappingStart
  | flowMappingEnd
  | flowEntry
  | reference (name : String)
  /-- An alias without an anchor of its name before it. -/
  | dangling
  | anchor (name : String)
  | tag (t : TagText)
  | scalar (text : String) (plain : Bool)
  | fault (f : Fault)
  deriving DecidableEq, Repr

namespace Token

/-- The tokens in which each alias without an anchor before it is dangling; `known` are the anchors so far. -/
def bindAliases (known : List String) : List Token → List Token
  | [] => []
  | .reference name :: ts => (if name ∈ known then .reference name else .dangling) :: bindAliases known ts
  | .anchor name :: ts => .anchor name :: bindAliases (name :: known) ts
  | t :: ts => t :: bindAliases known ts

end Token

end GuideSite.Yaml
