import GuideSite.Text.LineEnds
import GuideSite.Yaml.Cell.Making
import GuideSite.Yaml.Layout

/-!
# Documents of YAML

A text holds one document or none, and a document stands for a configuration value. The text is read as tokens, the
tokens as a node, the node as a graph and the graph as a value.
-/

namespace GuideSite.Yaml

/-- The value that a text stands for; no document stands for nothing. -/
def read (s : String) : Except Fault Value := do
  match ← Node.ofTokens (Token.ofChars (Text.unifyChars s.toList)) with
  | none => return .null
  | some (settings, node) =>
    let (v, g) ← orMalformed (Graph.ofNode? settings.version node)
    g.value settings.version v

end GuideSite.Yaml
