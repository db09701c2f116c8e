import GuideSite.Markup.Basic
import GuideSite.Masthead.Item
import GuideSite.Script.Calls

/-!
# The masthead as markup

The header block holds the logo, the primary bar, the menu of other sites, the search box and the shortcuts; a block for
search results follows, and the secondary bar on pages that show it.
-/

namespace GuideSite.Masthead

open Markup

/-! ## Items -/

/-- The attributes of the link of an item. -/
def linkAttributes (item : MastheadItem) : List Attribute :=
  ⟨"href", item.href⟩ :: ((if item.selected then [⟨"class", "selected"⟩] else []) ++
    item.translations.map fun t => ⟨t.1, t.2⟩)

/-- The link of an item. -/
def linkMarkup (item : MastheadItem) : Fragment :=
  element "a" (linkAttributes item) [.text item.label]

/-- The class of an item, if it has one that is not empty. -/
def classAttributes : Option String → List Attribute
  | none => []
  | some name => if name = "" then [] else [⟨"class", name⟩]

/-- An item on a line of its own, which starts where the line before it ended. -/
def itemMarkup (indent : Nat) (item : MastheadItem) : Fragment :=
  newline indent :: element "li" (classAttributes item.cssClass) (linkMarkup item)

/-- The items of a bar, each on a line of its own. -/
def itemsMarkup (indent : Nat) (items : List MastheadItem) : Fragment :=
  items.flatMap (itemMarkup indent)

/-! ## Blocks -/

/-- What one page shows of a masthead. -/
structure View where
  toRoot : String
  logo : Logo
  primary : List MastheadItem
  secondary : List MastheadItem
  quicknav : List MastheadItem
  showsSecondary : Bool
  sectionClass : String
  moreHeading : String
  moreLinks : List ExternalLink
  search : Script.SearchHandlers

/-- An empty block, known by its class. -/
def emptyBlock (name : String) : Fragment := element "div" [⟨"class", name⟩] []

/-- The logo and the buttons for the shortcuts. -/
def logoMarkup (v : View) : Fragment :=
  element "div" [⟨"class", "col-3 logo"⟩] (
    newline 6 :: element "a" [⟨"href", v.toRoot ++ v.logo.link⟩] [
      newline 8,
      .single "img" [⟨"src", v.toRoot ++ v.logo.src⟩, ⟨"width", toString v.logo.width⟩,
        ⟨"height", toString v.logo.height⟩, ⟨"alt", v.logo.alt⟩],
      newline 6] ++
    newline 6 :: element "div" [⟨"class", "btn-quicknav"⟩, ⟨"id", "btn-quicknav"⟩] (
      newline 8 :: element "a" [⟨"href", "#"⟩, ⟨"class", "arrow-inactive"⟩] [.text "Quicknav"] ++
      newline 8 :: element "a" [⟨"href", "#"⟩, ⟨"class", "arrow-active"⟩] [.text "Quicknav"] ++
      [newline 6]) ++
    [newline 4])

/-- A link of the menu on a line of its own. -/
def moreLinkMarkup (link : ExternalLink) : Fragment :=
  newline 12 :: element "li" [] (element "a" [⟨"href", link.href⟩] [.text link.label])

/-- The menu of other sites. -/
def moreMarkup (v : View) : Fragment :=
  element "div" [⟨"class", "moremenu"⟩] (
    newline 8 :: element "div" [⟨"id", "more-btn"⟩] [] ++ [newline 6]) ++
  newline 6 :: element "div" [⟨"class", "morehover"⟩, ⟨"id", "moremenu"⟩] (
    newline 8 :: emptyBlock "top" ++
    newline 8 :: element "div" [⟨"class", "mid"⟩] (
      newline 10 :: element "div" [⟨"class", "header"⟩] [.text v.moreHeading] ++
      newline 10 :: element "ul" [] (v.moreLinks.flatMap moreLinkMarkup ++ [newline 10]) ++
      [newline 10, .single "br" [⟨"class", "clearfix"⟩], newline 8]) ++
    newline 8 :: emptyBlock "bottom" ++
    [newline 6])

/-- The search box. -/
def searchMarkup (s : Script.SearchHandlers) : Fragment :=
  element "div" [⟨"class", "search"⟩, ⟨"id", "search-container"⟩] (
    newline 8 :: element "div" [⟨"class", "search-inner"⟩] (
      newline 10 :: element "div" [⟨"id", "search-btn"⟩] [] ++
      newline 10 :: emptyBlock "left" ++
      newline 10 :: element "form" [⟨"onsubmit", s.submit⟩] [
        newline 12,
        .single "input" [⟨"id", "search_autocomplete"⟩, ⟨"type", "text"⟩, ⟨"value", ""⟩, ⟨"autocomplete", "off"⟩,
          ⟨"name", "q"⟩, ⟨"onfocus", s.focus⟩, ⟨"onblur", s.blur⟩, ⟨"onkeydown", s.keyDown⟩, ⟨"onkeyup", s.keyUp⟩],
        newline 10] ++
      newline 10 :: emptyBlock "right" ++
      newline 10 :: element "a" [⟨"class", "close hide"⟩] [.text "close"] ++
      newline 10 :: emptyBlock "left" ++
      newline 10 :: emptyBlock "right" ++
      [newline 8]) ++
    [newline 6]) ++
  newline 6 :: element "div" [⟨"id", "search_filtered_wrapper"⟩] (
    newline 8 :: element "div" [⟨"id", "search_filtered_div"⟩, ⟨"class", "no-display"⟩] (
      newline 10 :: element "ul" [⟨"id", "search_filtered"⟩] [newline 10] ++
      [newline 8]) ++
    [newline 6])

/-- The shortcuts. -/
def quicknavMarkup (v : View) : Fragment :=
  element "div" [⟨"id", "quicknav"⟩, ⟨"class", "col-9"⟩] (
    newline 6 :: element "ul" [] (
      newline 8 :: element "li" [⟨"class", v.sectionClass ++ " last"⟩] (
        newline 10 :: element "ul" [] (itemsMarkup 12 v.quicknav ++ [newline 10]) ++
        [newline 8]) ++
      [newline 6]) ++
    [newline 4])

/-- The header block. -/
def headerMarkup (v : View) : Fragment :=
  .verbatim "<!-- Header -->" :: newline 0 :: element "div" [⟨"id", "header"⟩] (
    newline 2 :: element "div" [⟨"class", "wrap"⟩, ⟨"id", "header-wrap"⟩] (
      newline 4 :: logoMarkup v ++
      newline 4 :: element "ul" [⟨"class", "nav-x col-9"⟩] (itemsMarkup 6 v.primary ++ [newline 4]) ++
      [newline 0, newline 4] ++ element "div" [⟨"class", "menu-container"⟩] (
        newline 6 :: moreMarkup v ++ newline 6 :: searchMarkup v.search ++ [newline 4]) ++
      [newline 0, newline 4] ++ quicknavMarkup v ++
      [newline 2]) ++
    [newline 0]) ++
  [newline 0, .verbatim "<!-- /Header -->"]

/-- The block for search results. -/
def resultsMarkup : Fragment :=
  element "div" [⟨"id", "searchResults"⟩, ⟨"class", "wrap"⟩, ⟨"style", "display:none;"⟩] (
    newline 2 :: element "h2" [⟨"id", "searchTitle"⟩] [.text "Results"] ++
    newline 2 :: element "div" [⟨"id", "leftSearchControl"⟩, ⟨"class", "search-control"⟩] [.text "Loading..."] ++
    [newline 0])

/-- The secondary bar. -/
def secondaryMarkup (v : View) : Fragment :=
  .verbatim "<!-- Secondary x-nav -->" :: newline 0 :: element "div" [⟨"id", "nav-x"⟩] (
    newline 2 :: element "div" [⟨"class", "wrap"⟩] (
      newline 4 :: element "ul" [⟨"class", "nav-x col-9 " ++ v.sectionClass⟩, ⟨"style", "width:100%"⟩]
        (itemsMarkup 6 v.secondary ++ [newline 4]) ++
      [newline 2]) ++
    [newline 0]) ++
  [newline 0, .verbatim "<!-- /Secondary x-nav -->", newline 0]

/-- The whole masthead. -/
def markup (v : View) : Fragment :=
  headerMarkup v ++ [newline 0, newline 0] ++ resultsMarkup ++ [newline 0] ++
    if v.showsSecondary then newline 0 :: secondaryMarkup v else []

/-! ## Rendering -/

/-- What a page with some flags shows, if it reaches the root by `toRoot`. -/
def view (m : Masthead) (order : List String) (calls : Script.SearchCalls) (toRoot : String) (flags : SectionFlags)
    (language : String) : View where
  toRoot := toRoot
  logo := m.logo
  primary := m.primary.map (.ofEntry order flags toRoot language)
  secondary := m.secondary.map (.ofEntry order flags toRoot language)
  quicknav := m.quicknav.map (.ofEntry order flags toRoot language)
  showsSecondary := m.showsSecondary flags
  sectionClass := m.sectionClass
  moreHeading := m.moreHeading
  moreLinks := m.moreLinks
  search := calls.handlers toRoot

/-- The masthead of a page. -/
def fragment (m : Masthead) (order : List String) (calls : Script.SearchCalls) (toRoot : String) (flags : SectionFlags)
    (language : String) : Fragment :=
  markup (m.view order calls toRoot flags language)

/-- The masthead of a page as text. -/
def render (m : Masthead) (order : List String) (calls : Script.SearchCalls) (toRoot : String) (flags : SectionFlags)
    (language : String) : String :=
  Markup.render (m.fragment order calls toRoot flags language)

end GuideSite.Masthead
