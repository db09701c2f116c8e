import GuideSite.Data.Dictionary
import GuideSite.Flags

/-!
# The masthead

The masthead stands at the head of every page: a logo, a primary bar, a secondary bar that only the pages of the
developer section have, shortcuts, and a menu of links to other sites. Which entries are highlighted depends on the
section flags of the page alone.
-/

namespace GuideSite

/-! ## Entries -/

/-- A link of the masthead with its translations and the rule by which it is highlighted. -/
structure MastheadEntry where
  label : String
  link : String
  selectedBy : List String := []
  excludedBy : List String := []
  translations : Dictionary String := ∅
  cssClass : Option String := none

namespace MastheadEntry

/-- The entry is highlighted: some flag selects it and none excludes it. -/
def isSelected (e : MastheadEntry) (flags : SectionFlags) : Bool :=
  flags.meets e.selectedBy && !flags.meets e.excludedBy

/-- The translation of the label, unless it is empty, or the label. -/
def labelFor (e : MastheadEntry) (language : String) : String :=
  match e.translations.find? language with
  | some text => if text = "" then e.label else text
  | none => e.label

end MastheadEntry

/-! ## The masthead -/

/-- The logo and what it links to. -/
structure Logo where
  src : String := "assets/images/dac_logo.png"
  alt : String := "Mindroid Developers"
  width : Int := 123
  height : Int := 25
  link : String := "index.html"
  deriving DecidableEq

/-- A link to another site. -/
structure ExternalLink where
  label : String
  href : String
  deriving DecidableEq

/-- The sections that make up the developer section. -/
def developerSections : List String :=
  ["training", "guide", "reference", "tools", "develop", "google"]

/-- The contents of the masthead. -/
structure Masthead where
  logo : Logo := {}
  primary : List MastheadEntry := []
  secondary : List MastheadEntry := []
  quicknav : List MastheadEntry := []
  moreHeading : String := "Links"
  moreLinks : List ExternalLink := []
  /-- The flags that bring in the secondary bar. -/
  barFlags : List String := developerSections
  sectionClass : String := "develop"

namespace Masthead

/-- Pages with these flags have the secondary bar. -/
def showsSecondary (m : Masthead) (flags : SectionFlags) : Bool :=
  flags.meets m.barFlags

/-- Where the guides start. -/
def guidesLink : String := "guide/components/index.html"

/-- Where the reference starts. -/
def referenceLink : String := "reference/packages.html"

/-- The stock entry for the developer section. -/
def developEntry : MastheadEntry where
  label := "Develop"
  link := "develop/index.html"
  selectedBy := developerSections
  translations := .ofList [("es", "Desarrollar"), ("ja", "開発"), ("ko", "개발"), ("ru", "Разработка"), ("zh-CN", "开发"),
    ("zh-TW", "開發")]
  cssClass := some "develop last"

/-- The stock entry for the guides. -/
def guidesEntry : MastheadEntry where
  label := "Guides"
  link := guidesLink
  selectedBy := ["guide"]

/-- The stock entry for the reference, which leaves out two inner sections. -/
def referenceEntry : MastheadEntry where
  label := "Reference"
  link := referenceLink
  selectedBy := ["reference"]
  excludedBy := ["reference.gcm", "reference.gms"]

/-- The masthead of a site that configures none. -/
def stock : Masthead where
  primary := [developEntry]
  secondary := [guidesEntry, referenceEntry]
  quicknav := [{ label := "Guides", link := guidesLink }, { label := "Reference", link := referenceLink }]
  moreLinks := [⟨"ESR Labs", "http://esrlabs.com/"⟩]

end Masthead

end GuideSite
