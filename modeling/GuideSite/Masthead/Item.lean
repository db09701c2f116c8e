import GuideSite.Language
import GuideSite.Site.Masthead

/-!
# Masthead items

A `MastheadItem` is an entry of the masthead as one page shows it: the link starts from that page, the label is in its
language, and the other languages are kept as attributes.
-/

namespace GuideSite

/-- An entry as a page shows it. -/
structure MastheadItem where
  label : String
  href : String
  selected : Bool
  cssClass : Option String
  /-- The translations, each under the name of its attribute. -/
  translations : List (String × String)
  deriving DecidableEq, Repr

namespace MastheadItem

/-- The attribute that keeps the translation for a language. -/
def attributeName (language : String) : String := language ++ "-lang"

/-- The translations of an entry in the order of languages. -/
def translationAttributes (order : List String) (translations : Dictionary String) : List (String × String) :=
  (Language.sort order translations.keys).map fun code =>
    (attributeName code, (translations.find? code).getD "")

/-- The item of an entry, on a page with some flags that reaches the root by `toRoot`. -/
def ofEntry (order : List String) (flags : SectionFlags) (toRoot language : String) (e : MastheadEntry) :
    MastheadItem where
  label := e.labelFor language
  href := toRoot ++ e.link
  selected := e.isSelected flags
  cssClass := e.cssClass
  translations := translationAttributes order e.translations

end MastheadItem

end GuideSite
