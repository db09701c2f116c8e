import GuideSite.Markup.Basic
import GuideSite.Nav.Item
import GuideSite.Script.Calls

/-!
# The navigation tree as markup

The tree is a list of list items; a section is a header with a list below it. A script after the tree makes the sections
foldable and can change the visible language later.
-/

namespace GuideSite.Nav

open Markup

/-- A label in one language; all but the visible one are hidden. -/
def spanMarkup (span : LabelSpan) : Fragment :=
  element "span"
    (if span.visible then [⟨"class", span.language⟩] else [⟨"class", span.language⟩, ⟨"style", "display:none"⟩])
    [.text span.text]

/-- The link of an item around its labels. -/
def linkMarkup (href : String) (spans : List LabelSpan) : Fragment :=
  element "a" [⟨"href", href⟩] (spans.flatMap spanMarkup)

mutual

/-- An item on lines of its own. -/
def itemMarkup : NavItem → Fragment
  | ⟨href, spans, isSection, children⟩ =>
    if isSection then
      [.opening "li" [⟨"class", "nav-section"⟩], newline 0] ++
      element "div" [⟨"class", "nav-section-header"⟩] (linkMarkup href spans) ++
      [newline 0, .opening "ul" [], newline 0] ++
      itemsMarkup children ++
      [.closing "ul", newline 0, .closing "li", newline 0]
    else
      element "li" [] (linkMarkup href spans) ++ [newline 0]

/-- The items of a list, one after the other. -/
def itemsMarkup : List NavItem → Fragment
  | [] => []
  | item :: items => itemMarkup item ++ itemsMarkup items

end

/-- The script after the tree. -/
def scriptMarkup (calls : Script.NavCalls) : Fragment :=
  element "script" [⟨"type", "text/javascript"⟩]
    [.verbatim ("\n<!--\n    " ++ calls.foldSections ++ "\n    " ++ calls.changeLanguage ++ "\n//-->\n")]

/-- The tree with its script. -/
def markup (calls : Script.NavCalls) (items : List NavItem) : Fragment :=
  element "ul" [⟨"id", "nav"⟩] (newline 0 :: itemsMarkup items) ++ [newline 0] ++ scriptMarkup calls

/-- The navigation of a page that reaches the root by `toRoot`, in a language. -/
def fragment (calls : Script.NavCalls) (order : List String) (nodes : List NavNode) (toRoot language : String) :
    Fragment :=
  markup calls (NavItem.ofNodes order toRoot language nodes)

/-- The navigation as text. -/
def render (calls : Script.NavCalls) (order : List String) (nodes : List NavNode) (toRoot language : String) : String :=
  Markup.render (fragment calls order nodes toRoot language)

end GuideSite.Nav
