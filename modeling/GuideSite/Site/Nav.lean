import GuideSite.Data.Dictionary
import GuideSite.Language

/-!
# The table of contents

A table of contents is a list of `NavNode`s, each with a link, a title, labels in other languages, and the nodes below
it.
-/

namespace GuideSite

/-- An entry of the table of contents. The title is its label in the standard language. -/
structure NavNode where
  title : String
  link : String
  labels : Dictionary String
  children : List NavNode

namespace NavNode

/-- A node with nodes below it is shown as a section that can be folded. -/
def isSection (n : NavNode) : Bool := !n.children.isEmpty

/-- Every label of the node by its language. The title comes first and is the label of the standard language, even where
the labels have another one. -/
def labelVariants (n : NavNode) : Dictionary String :=
  ⟨(Language.standard, n.title) :: (n.labels.erase Language.standard).entries, by
    refine List.nodup_cons.2 ⟨?_, (n.labels.erase Language.standard).nodup⟩
    simp [Dictionary.erase]⟩

/-- The label in a language, or the title. -/
def labelFor (n : NavNode) (language : String) : String :=
  (n.labelVariants.find? language).getD n.title

end NavNode

end GuideSite
