import GuideSite.Command.Basic
import GuideSite.Config.Load
import GuideSite.Links.Directory
import GuideSite.Links.Remote
import GuideSite.Page.Builder

/-!
# Running commands

A command reads the configuration file, does its work on the file tree, and reports by lines of text and an exit
status. An error ends it without a report.
-/

namespace GuideSite.Command

/-- What a command reports. -/
structure Report where
  exit : Nat
  text : String
  deriving DecidableEq, Repr

/-- The world of a command: the working directory, and what the published site answers. -/
structure World where
  cwd : Location
  answer : String → Links.Reply

/-- The path of the working directory. -/
def World.path (w : World) : Path := ⟨.root, w.cwd.reverse⟩

/-! ## Text -/

/-- Lines of text. -/
def linesOf (lines : List String) : String := String.join (lines.map (· ++ "\n"))

/-- The text with a line end, unless it has one. -/
def endedLine (s : String) : String :=
  if s.toList.getLast? = some '\n' then s else s ++ "\n"

/-- The line for a written file. -/
def wroteLine (w : World) (p : Path) : String := "wrote " ++ p.display w.path

/-! ## Fragments -/

/-- The language asked for, or that of the site; an empty one is not asked for. -/
def languageOf (site : Site) : Option String → String
  | some language => if language = "" then site.language else language
  | none => site.language

/-- The navigation of a site. -/
def navText (site : Site) (toRoot language : String) : String :=
  Nav.render .standard site.languages site.toc toRoot language

/-- The masthead of a site for a page with some flags. -/
def mastheadText (site : Site) (toRoot : String) (flags : List String) (language : String) : String :=
  site.masthead.render site.languages .standard toRoot (.ofNames flags) language

/-- The report of a fragment, or of the file it was written to. -/
def emit (w : World) (t : FileTree) (fragment : String) : Option Path → FileTree × Except Error Report
  | none => (t, .ok ⟨0, endedLine fragment⟩)
  | some output =>
    match t.writeWithDirectories w.cwd output fragment with
    | (t', none) => (t', .ok ⟨0, linesOf [wroteLine w output]⟩)
    | (t', some fault) => (t', .error (.file fault))

/-! ## Links -/

/-- The report of a check of links. -/
def checkReport (site : Site) (missing : List String) : Report :=
  if missing = [] then ⟨0, linesOf [s!"checked {(Links.catalogue site).length} links"]⟩
  else ⟨1, linesOf (missing.map ("missing " ++ ·))⟩

/-- The report of the check of the directory or the published site that was asked for. -/
def checkLinks (w : World) (t : FileTree) (site : Site) (siteDir : Option Path) (baseUrl : Option String) :
    Except Error Report :=
  match baseUrl.filter (· ≠ "") with
  | some base => (Links.checkRemote site base w.answer).2.map (checkReport site)
  | none => (Links.missingIn site t w.cwd (siteDir.getD site.outputDir)).map (checkReport site)

/-! ## Commands -/

/-- A command for a loaded site. -/
def perform (w : World) (t : FileTree) (site : Site) : Command → FileTree × Except Error Report
  | generate pages outputDir =>
    let (t', written) := (PageBuilder.ofSite site).run site w.cwd t outputDir pages
    (t', written.map fun paths => ⟨0, linesOf (paths.map (wroteLine w))⟩)
  | nav toRoot language output => emit w t (navText site toRoot (languageOf site language)) output
  | masthead toRoot flags language output =>
    match site.masthead.checkShown with
    | .error e => (t, .error e)
    | .ok () => emit w t (mastheadText site toRoot flags (languageOf site language)) output
  | links siteDir baseUrl => (t, checkLinks w t site siteDir baseUrl)

/-- A command that asks for two sources of links at once. -/
def asksTwice : Command → Bool
  | links siteDir baseUrl => siteDir.isSome && baseUrl.any (· ≠ "")
  | _ => false

/-- The tree and the report after a command. -/
def run (w : World) (t : FileTree) (i : Invocation) : FileTree × Except Error Report :=
  if i.command.asksTwice then (t, .error .twoLinkSources)
  else match Config.siteAt t w.cwd i.config with
    | .error e => (t, .error e)
    | .ok site => perform w t site i.command

/-- The report of a command line that is used wrongly. -/
def misuse : Report := ⟨2, ""⟩

end GuideSite.Command
