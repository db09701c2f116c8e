import GuideSite.Command.Option
import GuideSite.Path.Basic

/-!
# Commands

The four commands and what can be said to them: `generate` builds pages, `nav` and `masthead` render a fragment of a
page, `links` checks the links of a site.

* `Command.ofWords?`: the command of a command line.
-/

namespace GuideSite

/-- A command with its options. -/
inductive Command
  | generate (pages : Option (List String)) (outputDir : Option Path)
  | nav (toRoot : String) (language : Option String) (output : Option Path)
  | masthead (toRoot : String) (flags : List String) (language : Option String) (output : Option Path)
  | links (siteDir : Option Path) (baseUrl : Option String)

namespace Command

/-- A command for the site of a configuration file. -/
structure Invocation where
  config : Path
  command : Command

/-- The configuration file if none is named. -/
def stockConfig : String := "config/site.yaml"

/-- The options of the commands by their names. -/
def settings : List (String × List Setting) := [
  ("generate", [⟨"config", false⟩, ⟨"page", true⟩, ⟨"output-dir", false⟩]),
  ("nav", [⟨"config", false⟩, ⟨"toroot", false⟩, ⟨"language", false⟩, ⟨"output", false⟩]),
  ("masthead", [⟨"config", false⟩, ⟨"toroot", false⟩, ⟨"flag", true⟩, ⟨"language", false⟩, ⟨"output", false⟩]),
  ("links", [⟨"config", false⟩, ⟨"site-dir", false⟩, ⟨"base-url", false⟩])]

/-- The command of a name with the values of its options. -/
def ofValues? (name : String) (values : String → Option (List String)) : Option Command :=
  let text? (option : String) := (values option).bind List.head?
  let path? (option : String) := (text? option).map Path.parse
  let toRoot := (text? "toroot").getD ""
  match name with
  | "generate" => some (.generate (values "page") (path? "output-dir"))
  | "nav" => some (.nav toRoot (text? "language") (path? "output"))
  | "masthead" => some (.masthead toRoot ((values "flag").getD []) (text? "language") (path? "output"))
  | "links" => some (.links (path? "site-dir") (text? "base-url"))
  | _ => none

/-- The command of a command line, unless it is used wrongly. -/
def ofWords? (env : Environment) : List String → Option Invocation
  | [] => none
  | name :: words => do
    let values ← read? (← settings.lookup name) env words
    let command ← ofValues? name values
    let config := ((values "config").bind List.head?).getD stockConfig
    return ⟨.parse config, command⟩

end Command

end GuideSite
