import GuideSite.Path.Basic
import GuideSite.Site.Masthead
import GuideSite.Site.Nav

/-!
# Sites

A site is a table of contents, a masthead, the pages to build, and the settings that all pages share.
-/

namespace GuideSite

/-- A page to build. A page without a language is in the language of the site. -/
structure Page where
  path : String
  title : String
  flags : SectionFlags := ∅
  language : Option String := none
  deriving DecidableEq

/-- A site; its pages are kept under the paths by which they are asked for. -/
structure Site where
  toc : List NavNode
  masthead : Masthead
  pages : Dictionary Page
  outputDir : Path
  language : String
  siteName : String
  languages : List String

namespace Site

/-- The name of a site that configures none. -/
def stockName : String := "Mindroid Developers"

/-- The output directory of a site that configures none. -/
def stockOutput : String := "public"

/-- The page under a path. -/
def page (site : Site) (path : String) : Except Error Page :=
  match site.pages.find? path with
  | some page => .ok page
  | none => .error (.config (.unknownPage path (site.pages.keys.mergeSort (fun a b => decide (a ≤ b)))))

end Site

/-- The language a page is rendered in. An empty one counts as none. -/
def Page.languageIn (page : Page) (site : Site) : String :=
  match page.language with
  | some language => if language = "" then site.language else language
  | none => site.language

end GuideSite
