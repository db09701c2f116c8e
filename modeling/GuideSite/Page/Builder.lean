import GuideSite.Files.Access
import GuideSite.Masthead.Markup
import GuideSite.Nav.Markup
import GuideSite.Page.Markup
import GuideSite.Path.Depth
import GuideSite.Site.Basic

/-!
# Building pages

A `PageBuilder` renders the pages of a site and writes them below an output directory. It holds the masthead and the
order of languages of its own, so a site may change after its builder was made.
-/

namespace GuideSite

/-- The sizes of the logo can be shown: they have not too many digits. -/
def Masthead.checkShown (m : Masthead) : Except Error Unit :=
  if (Text.ofInt? m.logo.width).isSome ∧ (Text.ofInt? m.logo.height).isSome then .ok () else .error .longInteger

/-- What the pages of a site are rendered with. -/
structure PageBuilder where
  masthead : Masthead
  languages : List String
  search : Script.SearchCalls
  navigation : Script.NavCalls

namespace PageBuilder

/-- The builder of a site with calls into its scripts. -/
def ofSite (site : Site) (search : Script.SearchCalls := .standard) (navigation : Script.NavCalls := .standard) :
    PageBuilder :=
  ⟨site.masthead, site.languages, search, navigation⟩

/-! ## Rendering -/

/-- The markup of a page. -/
def fragment (b : PageBuilder) (site : Site) (page : Page) : Markup.Fragment :=
  let toRoot := Path.toRoot page.path
  let language := page.languageIn site
  Page.markup ⟨page.title, site.siteName, toRoot, language⟩
    (b.masthead.fragment b.languages b.search toRoot page.flags language)
    (Nav.fragment b.navigation b.languages site.toc toRoot language)

/-- The text of a page. -/
def render (b : PageBuilder) (site : Site) (page : Page) : String :=
  Markup.render (b.fragment site page)

/-- The text of the page under a path. -/
def renderPage (b : PageBuilder) (site : Site) (path : String) : Except Error String := do
  let page ← site.page path
  b.masthead.checkShown
  return b.render site page

/-! ## Writing -/

/-- The pages to build: those asked for, or all of them. -/
def selected (site : Site) : (paths : Option (List String)) → Except Error (List Page)
  | none => .ok site.pages.values
  | some paths => paths.mapM site.page

/-- The tree after pages were written one by one, with their paths or the fault that ended it. -/
def writePages (b : PageBuilder) (site : Site) (cwd : Location) (out : Path) (t : FileTree) :
    List Page → FileTree × Except Error (List Path)
  | [] => (t, .ok [])
  | page :: pages =>
    let target := out / .parse page.path
    match t.writeWithDirectories cwd target (b.render site page) with
    | (t', some fault) => (t', .error (.file fault))
    | (t', none) =>
      let (t'', rest) := writePages b site cwd out t' pages
      (t'', rest.map (target :: ·))

/-- The tree after the selected pages were written below the output directory. A path that no page has is an error, and
then nothing is written. -/
def run (b : PageBuilder) (site : Site) (cwd : Location) (t : FileTree) (out : Option Path)
    (paths : Option (List String)) : FileTree × Except Error (List Path) :=
  match selected site paths with
  | .error e => (t, .error e)
  | .ok pages =>
    match if pages = [] then .ok () else b.masthead.checkShown with
    | .error e => (t, .error e)
    | .ok () => b.writePages site cwd (out.getD site.outputDir) t pages

end PageBuilder

end GuideSite
