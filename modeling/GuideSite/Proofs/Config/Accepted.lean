import GuideSite.Config.Document
import GuideSite.Proofs.Path.Trimmed
import GuideSite.Proofs.Reading.Sequence

/-!
# Accepted sites

What the reading of a document promises of the site it gives. Every page is kept under its own path, and this path is a
text without slashes before it and blanks after it that names nothing above the output directory.

* `exists_pageParts`, `siteOfEntries_eq_ok`: a page or a site is given only if each of its settings is.
* `isPagePath_of_site`: the paths of the pages of a site.
-/

namespace GuideSite

namespace Config

/-! ## Paths of pages -/

/-- A text that may be the path of a page. -/
structure IsPagePath (path : String) : Prop where
  ne_empty : path ≠ ""
  inside : ".." ∉ Path.segments path
  trimmed : ∃ text, path = Text.dropSlashes (Text.strip text)

namespace IsPagePath

variable {path : String}

theorem endsPlain (h : IsPagePath path) : Text.EndsPlain path := by
  obtain ⟨text, rfl⟩ := h.trimmed
  exact (Text.endsPlain_strip text).dropSlashes

/-- The path of a page starts nowhere else than the output directory. -/
theorem anchorOf_eq (h : IsPagePath path) : Path.anchorOf path = .relative := by
  obtain ⟨text, rfl⟩ := h.trimmed
  exact Path.anchorOf_dropSlashes (Text.strip text)

/-- The path of a page leads nowhere upwards. -/
theorem not_mem_names (h : IsPagePath path) : ".." ∉ (Path.parse path).names :=
  Path.not_mem_names_of_segments h.inside

/-- The file of a page is below the output directory, by the names of its path. -/
theorem join_eq (h : IsPagePath path) (out : Path) :
    out / .parse path = ⟨out.anchor, out.names ++ (Path.parse path).names⟩ :=
  Path.div_of_relative h.anchorOf_eq out

end IsPagePath

/-! ## Pages -/

theorem isPagePath_of_pagePath {key : Value} {path : String} (h : pagePath key = .ok path) : IsPagePath path := by
  obtain ⟨text, -, h⟩ := bind_eq_ok.1 h
  dsimp only at h
  split at h
  · exact absurd h nofun
  · rename_i hne
    split at h
    · exact absurd h nofun
    · rename_i hinside
      obtain rfl := Except.ok.inj h
      exact ⟨hne, hinside, text, rfl⟩

/-- What a page was read from: the key of an entry, and settings that may be absent. -/
structure PageParts (entry : Value × Value) (settings : Value.Entries) (p : Page) : Prop where
  path : pagePath entry.1 = .ok p.path
  given : pageSettings p.path entry.2 = .ok settings
  title : optionalText (Value.get settings "title") = .ok (some p.title) ∨ titleOfPath p.path = .ok p.title
  flags : Config.flags (.page p.path) (Value.get settings "flags") = .ok p.flags
  language : optionalText (Value.get settings "language") = .ok p.language

/-- A page is given only if each of its settings is. -/
theorem exists_pageParts {entry : Value × Value} {p : Page} (h : page entry = .ok p) :
    ∃ settings, PageParts entry settings p := by
  obtain ⟨path, hpath, h⟩ := bind_eq_ok.1 h
  obtain ⟨settings, hsettings, h⟩ := bind_eq_ok.1 h
  obtain ⟨given, hgiven, h⟩ := bind_eq_ok.1 h
  -- A title that is given and one made from the path go on in the same way.
  cases given
  all_goals
    obtain ⟨title, htitle, h⟩ := bind_eq_ok.1 h
    obtain ⟨flags, hflags, h⟩ := bind_eq_ok.1 h
    obtain ⟨language, hlanguage, h⟩ := bind_eq_ok.1 h
    obtain rfl := Except.ok.inj h
  case none => exact ⟨settings, hpath, hsettings, .inr htitle, hflags, hlanguage⟩
  case some found =>
    obtain rfl := Except.ok.inj htitle
    exact ⟨settings, hpath, hsettings, .inl hgiven, hflags, hlanguage⟩

theorem pagePath_of_page {entry : Value × Value} {p : Page} (h : page entry = .ok p) :
    pagePath entry.1 = .ok p.path :=
  have ⟨_, hparts⟩ := exists_pageParts h
  hparts.path

/-- Every page is kept under its own path, which is one that a page may have. -/
def KeepsPaths (pages : Dictionary Page) : Prop :=
  ∀ entry ∈ pages.entries, entry.2.path = entry.1 ∧ IsPagePath entry.1

theorem mem_putEntry {α : Type} {key : String} {value : α} {entry : String × α} {es : List (String × α)}
    (h : entry ∈ Dictionary.putEntry key value es) : entry = (key, value) ∨ entry ∈ es := by
  induction es with
  | nil => exact .inl (List.mem_singleton.1 h)
  | cons e es ih =>
    obtain ⟨k, v⟩ := e
    rw [Dictionary.putEntry] at h
    split at h
    · rename_i hk
      subst hk
      exact (List.mem_cons.1 h).imp_right (List.mem_cons_of_mem _)
    · obtain rfl | h := List.mem_cons.1 h
      · exact .inr (List.mem_cons_self ..)
      · exact (ih h).imp_right (List.mem_cons_of_mem _)

theorem forall_entries_insert {α : Type} {d : Dictionary α} {Q : String × α → Prop} (h : ∀ entry ∈ d.entries, Q entry)
    {key : String} {value : α} (hvalue : Q (key, value)) : ∀ entry ∈ (d.insert key value).entries, Q entry := by
  intro entry hmem
  obtain rfl | hmem := mem_putEntry hmem
  · exact hvalue
  · exact h entry hmem

/-- What the reading of each page says of the page under its path holds of all pages. -/
theorem pagesFrom_invariant {Q : String × Page → Prop} (hpage : ∀ entry p, page entry = .ok p → Q (p.path, p))
    {entries : Value.Entries} {known pages : Dictionary Page} (hknown : ∀ entry ∈ known.entries, Q entry)
    (h : pagesFrom known entries = .ok pages) : ∀ entry ∈ pages.entries, Q entry := by
  induction entries generalizing known with
  | nil =>
    cases h
    exact hknown
  | cons entry rest ih =>
    obtain ⟨p, hp, h⟩ := bind_eq_ok.1 h
    exact ih (forall_entries_insert hknown (hpage entry p hp)) h

theorem pages_invariant {Q : String × Page → Prop} (hpage : ∀ entry p, page entry = .ok p → Q (p.path, p))
    {v : Value} {ps : Dictionary Page} (h : pages v = .ok ps) : ∀ entry ∈ ps.entries, Q entry := by
  have hempty : ∀ entry ∈ (∅ : Dictionary Page).entries, Q entry := fun _ hmem => absurd hmem List.not_mem_nil
  unfold pages at h
  split at h
  · cases h
    exact hempty
  · split at h
    · exact pagesFrom_invariant hpage hempty h
    · cases h

theorem keepsPaths_pages {v : Value} {ps : Dictionary Page} (h : pages v = .ok ps) : KeepsPaths ps :=
  pages_invariant (fun _ _ hp => ⟨rfl, isPagePath_of_pagePath (pagePath_of_page hp)⟩) h

/-! ## Sites -/

/-- A site is given only if each of its settings is. -/
theorem siteOfEntries_eq_ok {entries : Value.Entries} {s : Site} (h : siteOfEntries entries = .ok s) :
    ∃ ds, defaults (Value.get entries "defaults") = .ok ds ∧
      toc (Value.get entries "toc") = .ok s.toc ∧
      masthead (Value.get entries "masthead") = .ok s.masthead ∧
      textOr ds "language" Language.standard = .ok s.language ∧
      pages (Value.get entries "pages") = .ok s.pages ∧
      outputDir ds = .ok s.outputDir ∧
      textOr ds "site_name" Site.stockName = .ok s.siteName ∧
      ∃ languages, names (Value.get ds "languages") = .ok languages ∧
        s.languages = orStock languages Language.stockOrder := by
  obtain ⟨ds, hds, h⟩ := bind_eq_ok.1 h
  obtain ⟨nodes, htoc, h⟩ := bind_eq_ok.1 h
  obtain ⟨m, hmasthead, h⟩ := bind_eq_ok.1 h
  obtain ⟨language, hlanguage, h⟩ := bind_eq_ok.1 h
  obtain ⟨ps, hpages, h⟩ := bind_eq_ok.1 h
  obtain ⟨out, hout, h⟩ := bind_eq_ok.1 h
  obtain ⟨siteName, hname, h⟩ := bind_eq_ok.1 h
  obtain ⟨languages, hlanguages, h⟩ := bind_eq_ok.1 h
  cases h
  exact ⟨ds, hds, htoc, hmasthead, hlanguage, hpages, hout, hname, languages, hlanguages, rfl⟩

theorem siteOfEntries_of_site {doc : Value} {s : Site} (h : site doc = .ok s) :
    ∃ entries, siteOfEntries entries = .ok s := by
  unfold site at h
  split at h
  · exact ⟨_, h⟩
  · split at h
    · exact ⟨_, h⟩
    · cases h

theorem keepsPaths_of_site {doc : Value} {s : Site} (h : site doc = .ok s) : KeepsPaths s.pages := by
  obtain ⟨entries, h⟩ := siteOfEntries_of_site h
  obtain ⟨ds, -, -, -, -, hpages, -⟩ := siteOfEntries_eq_ok h
  exact keepsPaths_pages hpages

/-- The pages of a site have paths that a page may have. -/
theorem isPagePath_of_site {doc : Value} {s : Site} (h : site doc = .ok s) {p : Page} (hp : p ∈ s.pages.values) :
    IsPagePath p.path := by
  obtain ⟨entry, hmem, rfl⟩ := List.mem_map.1 hp
  obtain ⟨hkey, hpath⟩ := keepsPaths_of_site h entry hmem
  rw [hkey]
  exact hpath

/-- A document with one entry in its table of contents, pages at some paths, and other settings. -/
def documentOf (paths : List String) (settings : Value.Entries) : Value :=
  .map ((.text "toc", .list [.map [(.text "title", .text "Guide"), (.text "link", .text "index.html")]]) ::
    (.text "pages", .map (paths.map fun path => (.text path, .map [(.text "title", .text "Guide")]))) :: settings)

end Config

end GuideSite
