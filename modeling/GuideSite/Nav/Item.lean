import GuideSite.Site.Nav

/-!
# Navigation items

A `NavItem` is a node of the table of contents as one page shows it: the link starts from that page, and the label is
spelled out in every language, one of them visible.
-/

namespace GuideSite

/-- A label in one language. -/
structure LabelSpan where
  language : String
  text : String
  visible : Bool
  deriving DecidableEq, Repr

/-- A node as a page shows it. -/
structure NavItem where
  href : String
  spans : List LabelSpan
  isSection : Bool
  children : List NavItem
  deriving Repr

/-- The language in which the label of a node is visible. -/
def NavNode.shownLanguage (n : NavNode) (language : String) : String :=
  if language ∈ n.labelVariants.keys then language else Language.standard

/-- The labels of a node in the order of languages. -/
def NavNode.spans (n : NavNode) (order : List String) (language : String) : List LabelSpan :=
  (Language.sort order n.labelVariants.keys).map fun code =>
    ⟨code, (n.labelVariants.find? code).getD "", code == n.shownLanguage language⟩

namespace NavItem

mutual

/-- The item of a node, on a page that reaches the root by `toRoot`. -/
def ofNode (order : List String) (toRoot language : String) : NavNode → NavItem
  | ⟨title, link, labels, children⟩ =>
    let node : NavNode := ⟨title, link, labels, children⟩
    ⟨toRoot ++ link, node.spans order language, node.isSection, ofNodes order toRoot language children⟩

/-- The items of a list of nodes. -/
def ofNodes (order : List String) (toRoot language : String) : List NavNode → List NavItem
  | [] => []
  | n :: ns => ofNode order toRoot language n :: ofNodes order toRoot language ns

end

end NavItem

end GuideSite
