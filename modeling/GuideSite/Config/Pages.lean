import GuideSite.Config.Field
import GuideSite.Site.Basic
import GuideSite.Text.Casing

/-!
# The pages in a configuration

The `pages` setting maps paths below the output directory to the title, the section flags and the language of a page.
A page without a title is named after its file, or after the directory of an index file.
-/

namespace GuideSite.Config

/-! ## Titles -/

/-- Hyphens and underscores become spaces, and every word is capitalised. -/
def titleOfName (name : String) : String :=
  Text.titleCase (String.ofList (name.toList.map fun c => if c = '-' ∨ c = '_' then ' ' else c))

/-- A title made from a path. The anchor of an absolute path counts as a name before the others. -/
def titleOfPath (page : String) : Except Error String :=
  let path := Path.parse page
  match path.names.reverse with
  | [] => .error (.unnamedPage path.text)
  | last :: above =>
    let stem := Path.dropSuffix last
    let outer := if path.isAbsolute then above ++ [path.anchor.text] else above
    match outer with
    | next :: _ => .ok (titleOfName (if stem = "index" then next else stem))
    | [] => .ok (titleOfName stem)

/-! ## Pages -/

/-- The path of a page, as text without blanks around it and slashes before it. -/
def pagePath (key : Value) : Except Error String := do
  let path := Text.dropSlashes (Text.strip (← key.displayed))
  if path = "" then throw (.config .pagePath)
  else if ".." ∈ Path.segments path then throw (.config (.pageOutside path))
  else return path

/-- The settings of a page, which may all be absent. -/
def pageSettings (path : String) (v : Value) : Except Error Value.Entries :=
  match v with
  | .null => .ok []
  | v => match v.entries? with
    | some entries => .ok entries
    | none => .error (.config (.pageSettings path))

/-- The page of one entry. -/
def page (entry : Value × Value) : Except Error Page := do
  let path ← pagePath entry.1
  let settings ← pageSettings path entry.2
  let title ← match ← optionalText (Value.get settings "title") with
    | some title => pure title
    | none => titleOfPath path
  let flags ← flags (.page path) (Value.get settings "flags")
  return { path, title, flags, language := ← optionalText (Value.get settings "language") }

/-- The pages of a list of entries, after those of `known`. -/
def pagesFrom (known : Dictionary Page) : Value.Entries → Except Error (Dictionary Page)
  | [] => .ok known
  | entry :: rest => do
    let page ← page entry
    pagesFrom (known.insert page.path page) rest

/-- The pages of the `pages` setting. -/
def pages (v : Value) : Except Error (Dictionary Page) :=
  match v with
  | .null => .ok ∅
  | v => match v.entries? with
    | some entries => pagesFrom ∅ entries
    | none => .error (.config .pages)

end GuideSite.Config
