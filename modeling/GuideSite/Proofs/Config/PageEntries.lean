import GuideSite.Proofs.Config.Naming
import GuideSite.Proofs.Config.Texts
import GuideSite.Proofs.Data.Dictionary

/-!
# The pages of entries

Every entry of the `pages` setting gives a page that says what the entry says. The pages are kept by their paths, and a
path is the key of an entry without the blanks around it and the slashes before it; so the pages that are kept are those
of the entries, one for each, just if no two keys have one path. Otherwise the page of the last entry with a path stands
in the place of the first.

* `isReadFrom_page`: the page of an entry.
* `exists_built`: the pages of all entries.
* `pages_kept`: what is kept of them.
-/

namespace GuideSite

namespace Config

/-- The page says what the entry says: its path is the key, its title the one that is given or else made from the path,
and its flags and its language are those of the entry. -/
structure IsReadFrom (entry : Value × Value) (p : Page) : Prop where
  path : ∃ shown, entry.1.display? = some shown ∧ p.path = Text.dropSlashes (Text.strip shown)
  title : (entry.2.under "title").GivesText p.title ∨
    (entry.2.under "title").IsBlank ∧ titleOfPath p.path = .ok p.title
  flags : ∀ name, name ∈ p.flags ↔ (entry.2.under "flags").WritesFlag name
  language : ∀ text, p.language = some text ↔ (entry.2.under "language").GivesText text

theorem exists_of_pagePath {key : Value} {path : String} (h : pagePath key = .ok path) :
    ∃ shown, key.display? = some shown ∧ path = Text.dropSlashes (Text.strip shown) := by
  obtain ⟨shown, hshown, h⟩ := bind_eq_ok.1 h
  refine ⟨shown, Value.displayed_eq_ok.1 hshown, ?_⟩
  dsimp only at h
  split at h
  · cases h
  · split at h
    · cases h
    · exact (Except.ok.inj h).symm

/-- The page of an entry says what the entry says. -/
theorem isReadFrom_page {entry : Value × Value} {p : Page} (h : page entry = .ok p) : IsReadFrom entry p := by
  obtain ⟨path, hpath, h⟩ := bind_eq_ok.1 h
  obtain ⟨settings, hsettings, h⟩ := bind_eq_ok.1 h
  simp only [← under_of_pageSettings hsettings] at h
  obtain ⟨given, hgiven, h⟩ := bind_eq_ok.1 h
  -- A title that is given and one made from the path go on in the same way.
  cases given
  all_goals
    obtain ⟨title, htitle, h⟩ := bind_eq_ok.1 h
    obtain ⟨found, hflags, h⟩ := bind_eq_ok.1 h
    obtain ⟨language, hlanguage, h⟩ := bind_eq_ok.1 h
    obtain rfl := Except.ok.inj h
    refine ⟨exists_of_pagePath hpath, ?_, mem_flags hflags, fun text => ?_⟩
    rotate_left
    · rw [← optionalText_eq_some, hlanguage, Except.ok.injEq]
  case none => exact .inr ⟨optionalText_eq_none.1 hgiven, htitle⟩
  case some =>
    obtain rfl := Except.ok.inj htitle
    exact .inl (optionalText_eq_some.1 hgiven)

/-! ## All entries -/

/-- The pages are read one by one and then kept by their paths. -/
theorem pagesFrom_eq (known : Dictionary Page) (entries : Value.Entries) : pagesFrom known entries =
    entries.mapM page >>= fun built => .ok (built.foldl (fun d p => d.insert p.path p) known) := by
  induction entries generalizing known with
  | nil => rfl
  | cons entry rest ih =>
    rw [pagesFrom, List.mapM_cons]
    cases hpage : page entry with
    | error e => rfl
    | ok p =>
      rw [bind_of_ok rfl, ih, bind_of_ok rfl]
      cases rest.mapM page <;> rfl

/-- The pages of a mapping are kept by their paths, as they are read from its entries. -/
theorem exists_built {v : Value} {entries : Value.Entries} {ps : Dictionary Page} (hentries : v.entries? = some entries)
    (h : pages v = .ok ps) :
    ∃ built, List.Forall₂ (fun entry p => page entry = .ok p) entries built ∧
      ps = .ofList (built.map fun p => (p.path, p)) := by
  have hread : pages v = pagesFrom ∅ entries := by
    unfold pages
    split
    · cases hentries
    · rw [hentries]
  rw [hread, pagesFrom_eq] at h
  obtain ⟨built, hbuilt, h⟩ := bind_eq_ok.1 h
  refine ⟨built, forall₂_of_mapM hbuilt, ?_⟩
  rw [← Except.ok.inj h, Dictionary.ofList, List.foldl_map]
  rfl

/-- **The pages that are kept are those of the entries, one for each and in their order, just if their paths differ.**
In any case each entry gives a page, and under a path stands the page of the last entry with it, in the place of the
first. -/
theorem pages_kept {v : Value} {entries : Value.Entries} {ps : Dictionary Page} (hentries : v.entries? = some entries)
    (h : pages v = .ok ps) :
    ∃ built, List.Forall₂ IsReadFrom entries built ∧
      (ps.entries = built.map (fun p => (p.path, p)) ↔ (built.map Page.path).Nodup) ∧
      ps.keys = (built.map Page.path).eraseDups ∧
      ∀ path, ps.find? path = (built.filter (·.path = path)).getLast? := by
  obtain ⟨built, hbuilt, rfl⟩ := exists_built hentries h
  have hpaths : (built.map fun p => (p.path, p)).map Prod.fst = built.map Page.path := by
    rw [List.map_map]
    rfl
  refine ⟨built, hbuilt.imp fun _ _ => isReadFrom_page, ?_, ?_, fun path => ?_⟩
  · rw [Dictionary.entries_ofList_iff, hpaths]
  · rw [Dictionary.keys_ofList, hpaths]
  · rw [Dictionary.find?_ofList, List.filter_map, List.getLast?_map, Option.map_map]
    exact congrFun Option.map_id _

/-- Keys that are no texts, or have blanks and slashes to drop. -/
def looseKeys : Value := .map [
  (.text " /guide/index.html", .null),
  (.bool true, .map [(.text "title", .text " Yes "), (.text "flags", .text "guide tools")]),
  (.text "true", .map [(.text "language", .text "de")])]

theorem pages_kept_loose : ∃ entries ps, looseKeys.entries? = some entries ∧ pages looseKeys = .ok ps ∧
    ps.keys = ["guide/index.html", "True", "true"] ∧
    ∃ built, List.Forall₂ IsReadFrom entries built ∧
      (ps.entries = built.map (fun p => (p.path, p)) ↔ (built.map Page.path).Nodup) ∧
      ps.keys = (built.map Page.path).eraseDups ∧
      ∀ path, ps.find? path = (built.filter (·.path = path)).getLast? :=
  ⟨_, _, rfl, rfl, rfl, @pages_kept looseKeys _ _ rfl rfl⟩

/-- Two entries with different keys give one page, that of the second. -/
theorem pages_kept_collapsed : ∃ ps,
    pages (.map [
      (.text "a.html", .map [(.text "title", .text "One")]), (.text "/a.html", .map [(.text "title", .text "Two")])]) =
        .ok ps ∧
      ps.entries = [("a.html", ⟨"a.html", "Two", ∅, none⟩)] :=
  ⟨_, rfl, rfl⟩

end Config

end GuideSite
