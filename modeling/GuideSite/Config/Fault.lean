/-!
# Faults of a configuration

What can be wrong with the settings of a site, and the words for it. A fault names its place; the words are in `message`
alone.
-/

namespace GuideSite

/-- A section flag with a value that is no truth value; `shown` is the value in quoted form. -/
structure FlagFault where
  name : String
  shown : String
  deriving DecidableEq, Repr

/-- What a flag fault says. -/
def FlagFault.message (f : FlagFault) : String :=
  s!"Section flag '{f.name}' must be a boolean, got {f.shown}."

/-- A place in a configuration. -/
inductive Place
  /-- A table-of-contents entry by its position, outermost first. -/
  | tocEntryAt (trail : List Nat)
  | tocEntry (title : String)
  /-- Some entry of a masthead bar. -/
  | barEntry (bar : String)
  | mastheadEntry (label : String)
  | moreLink
  | page (path : String)
  /-- A place in a caller's own words. -/
  | described (words : String)
  deriving DecidableEq, Repr

/-- The words for a place. -/
def Place.text : Place → String
  | .tocEntryAt trail => "TOC entry " ++ String.intercalate "/" (trail.map toString)
  | .tocEntry title => s!"TOC entry '{title}'"
  | .barEntry bar => s!"Masthead '{bar}' entry"
  | .mastheadEntry label => s!"Masthead entry '{label}'"
  | .moreLink => "Masthead link"
  | .page path => s!"Page '{path}'"
  | .described words => words

/-- A fault of a configuration. -/
inductive ConfigFault
  /-- A text that must be given is blank or absent. -/
  | missing (place : Place) (field : String)
  | translations (place : Place)
  | flag (place : Place) (fault : FlagFault)
  | flags (place : Place)
  | tocNotList
  | tocEmpty
  | tocEntry (trail : List Nat)
  | tocChildren (title : String)
  | masthead
  | logo
  | logoSize
  | bar (name : String)
  | barEntry (name : String)
  | moreLinks
  | moreLink
  | pages
  | pagePath
  | pageOutside (path : String)
  | pageSettings (path : String)
  | defaults
  | unknownPage (path : String) (known : List String)
  deriving DecidableEq, Repr

/-- What a fault says. -/
def ConfigFault.message : ConfigFault → String
  | .missing place field => s!"{place.text} requires '{field}'."
  | .translations place => s!"{place.text} translations must be a mapping of language to text."
  | .flag place fault => s!"{place.text}: {fault.message}"
  | .flags place => s!"{place.text} flags must be a list of names or a mapping."
  | .tocNotList => "The 'toc' section must be a list of navigation entries."
  | .tocEmpty => "The 'toc' section requires at least one entry."
  | .tocEntry trail => (Place.tocEntryAt trail).text ++ " must be a mapping."
  | .tocChildren title => s!"TOC entry '{title}' children must be a list."
  | .masthead => "Masthead configuration must be a mapping."
  | .logo => "Masthead logo must be a mapping."
  | .logoSize => "Masthead logo width and height must be integers."
  | .bar name => s!"Masthead '{name}' entries must be a list."
  | .barEntry name => s!"Masthead '{name}' entries require 'label' and 'link'."
  | .moreLinks => "Masthead 'more_links' must be a list."
  | .moreLink => "Masthead 'more_links' entries require 'label' and 'href'."
  | .pages => "The 'pages' section must be a mapping of path to page settings."
  | .pagePath => "Page paths must not be empty."
  | .pageOutside path => s!"Page '{path}' must stay inside the output directory."
  | .pageSettings path => s!"Page '{path}' settings must be a mapping."
  | .defaults => "The 'defaults' section must be a mapping."
  | .unknownPage path known =>
    let names := String.intercalate ", " known
    let listed := if names = "" then "none" else names
    s!"Unknown page '{path}'. Known pages: {listed}"

end GuideSite
