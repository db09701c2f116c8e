import GuideSite.Config.Masthead
import GuideSite.Config.Pages
import GuideSite.Config.Toc

/-!
# Sites from documents

A site is configured by one document: a mapping with the settings `defaults`, `toc`, `masthead` and `pages`, of which
only the table of contents must be there. The settings are checked in this order.
-/

namespace GuideSite.Config

/-- The `defaults` setting; a value that counts as not given has no entries. -/
def defaults (v : Value) : Except Error Value.Entries :=
  match v.entries? with
  | some entries => .ok entries
  | none => if v.isVoid then .ok [] else .error (.config .defaults)

/-- The output directory; only a key that is not there leaves the stock one. -/
def outputDir (entries : Value.Entries) : Except Error Path :=
  match Value.find? "output_dir" entries with
  | none => .ok (.parse Site.stockOutput)
  | some (.text s) => .ok (.parse s)
  | some (.bytes _) => .error .outputBytes
  | some v => .error (.outputDirectory v.kind)

/-- The site of the entries of a document. -/
def siteOfEntries (entries : Value.Entries) : Except Error Site := do
  let defaults ← defaults (Value.get entries "defaults")
  let toc ← toc (Value.get entries "toc")
  let masthead ← masthead (Value.get entries "masthead")
  let language ← textOr defaults "language" Language.standard
  let pages ← pages (Value.get entries "pages")
  let outputDir ← outputDir defaults
  let siteName ← textOr defaults "site_name" Site.stockName
  let languages ← names (Value.get defaults "languages")
  return {
    toc, masthead, pages, outputDir, language, siteName
    languages := orStock languages Language.stockOrder }

/-- The site of a document; a document that counts as not given is an empty mapping. -/
def site (v : Value) : Except Error Site :=
  match v.entries? with
  | some entries => siteOfEntries entries
  | none => if v.isVoid then siteOfEntries [] else .error .documentNotMapping

end GuideSite.Config
