import GuideSite.Proofs.Config.Accepted
import GuideSite.Proofs.Links.Emitted
import GuideSite.Proofs.Path.Depth

/-!
# The way back from a page

Every link of a page starts with the steps from its directory to the root of the site. They are as many as there are
directories between the output directory and the file of the page, unless the path of the page hides one of them.

* `toRoot_eq_climb_iff`: when the steps of a page are right.
* `leads_toRoot`: where a link leads after them.
* `toRoot_steps`: both for the pages of a site and their links.
-/

namespace GuideSite.Links

section Steps

variable {path : String} (hpath : Config.IsPagePath path)

include hpath

/-- The steps are the right ones just if the path hides no directory: a hidden one is a step that is lacking. -/
theorem toRoot_eq_climb_iff : Path.toRoot path = Path.climb ((Path.parse path).names.length - 1) ↔
    Path.hidesDirectory path = false := by
  cases hhides : Path.hidesDirectory path with
  | false => exact iff_of_true (Path.toRoot_eq_climb hpath.endsPlain hpath.inside hhides) rfl
  | true =>
    obtain ⟨hmany, hsteps⟩ := Path.toRoot_of_hidesDirectory hpath.endsPlain hpath.inside hhides
    refine iff_of_false (fun heq => ?_) Bool.noConfusion
    have := Path.climb_injective (hsteps.symm.trans heq)
    omega

theorem toRoot_eq_empty_iff (hnames : (Path.parse path).names ≠ []) (hhides : Path.hidesDirectory path = false) :
    Path.toRoot path = "" ↔ (Path.parse path).names.length = 1 := by
  have hpos := List.length_pos_of_ne_nil hnames
  rw [(toRoot_eq_climb_iff hpath).2 hhides, show "" = Path.climb 0 from rfl, Path.climb_injective.eq_iff]
  omega

/-- After the steps of its page a link leads below the output directory, without a slash before it if there is a
step. -/
theorem leads_toRoot (hnames : (Path.parse path).names ≠ []) (hhides : Path.hidesDirectory path = false) (out : Path)
    (link : String) :
    Path.Leads (out / .parse path) (Path.toRoot path ++ link)
      (out / .parse (if Path.toRoot path = "" then link else Text.dropSlashes link)) := by
  have hleads := Path.leads_climb hpath.anchorOf_eq hnames (fun name h => List.of_mem_filter h) hpath.not_mem_names
    out link
  simp only [toRoot_eq_empty_iff hpath hnames hhides]
  rw [(toRoot_eq_climb_iff hpath).2 hhides]
  exact hleads

end Steps

/-- The links of a page, in its navigation and in its masthead. -/
def ofPage (site : Site) (navigation : Script.NavCalls) (search : Script.SearchCalls) (page : Page) : List String :=
  emitted site site.languages navigation search page.flags (Path.toRoot page.path) (page.languageIn site)

/-- **The steps of a page are those from its file to the output directory** just if its path hides no directory. Then
every link leads where it leads from the output directory; but a link with a slash before it loses the slash after a
step upwards. -/
theorem toRoot_steps {doc : Value} {site : Site} (hsite : Config.site doc = .ok site) {page : Page}
    (hpage : page ∈ site.pages.values) (hnames : (Path.parse page.path).names ≠ []) (out : Path) :
    (Path.toRoot page.path = Path.climb (Path.directoriesBetween out (out / .parse page.path)) ↔
      Path.hidesDirectory page.path = false) ∧
    (Path.hidesDirectory page.path = false →
      ∀ (navigation : Script.NavCalls) (search : Script.SearchCalls), ∀ href ∈ ofPage site navigation search page,
        ∃ link, href = Path.toRoot page.path ++ link ∧ (link = "" ∨ link ∈ catalogue site) ∧
          (Path.anchorOf link = .relative ∨ Path.toRoot page.path = "" →
            Path.Leads (out / .parse page.path) href (out / .parse link)) ∧
          (Path.toRoot page.path ≠ "" →
            Path.Leads (out / .parse page.path) href (out / .parse (Text.dropSlashes link)))) := by
  have hpath := Config.isPagePath_of_site hsite hpage
  rw [Path.directoriesBetween_join hpath.anchorOf_eq]
  refine ⟨toRoot_eq_climb_iff hpath, fun hhides navigation search href hhref => ?_⟩
  obtain ⟨link, rfl, hlink⟩ := exists_of_mem_emitted hhref
  have hleads := leads_toRoot hpath hnames hhides out link
  refine ⟨link, rfl, hlink, fun hcase => ?_, fun hsome => ?_⟩
  · obtain hrelative | hnone := hcase
    · rw [Path.dropSlashes_of_relative hrelative, ite_self] at hleads
      exact hleads
    · rw [if_pos hnone] at hleads
      exact hleads
  · rw [if_neg hsome] at hleads
    exact hleads

/-- A page two directories below the output directory. -/
theorem toRoot_steps_index : ∃ site page,
    Config.site (Config.documentOf ["guide/components/index.html"] []) = .ok site ∧ page ∈ site.pages.values ∧
      (Path.parse page.path).names ≠ [] ∧
      Path.toRoot page.path =
        Path.climb (Path.directoriesBetween (.parse "public") (.parse "public" / .parse page.path)) ∧
      ∀ href ∈ ofPage site .standard .standard page, ∃ link, href = Path.toRoot page.path ++ link ∧
        (Path.anchorOf link = .relative →
          Path.Leads (.parse "public" / .parse page.path) href (.parse "public" / .parse link)) := by
  obtain ⟨site, hsite, hpages⟩ : ∃ site, Config.site (Config.documentOf ["guide/components/index.html"] []) = .ok site ∧
      site.pages.values = [⟨"guide/components/index.html", "Guide", ∅, none⟩] := ⟨_, rfl, rfl⟩
  have hpage : ⟨"guide/components/index.html", "Guide", ∅, none⟩ ∈ site.pages.values := by
    rw [hpages]
    exact List.mem_singleton_self _
  obtain ⟨hcount, hlinks⟩ := toRoot_steps hsite hpage (by decide) (.parse "public")
  refine ⟨site, _, hsite, hpage, by decide, hcount.2 (by decide), fun href hmem => ?_⟩
  obtain ⟨link, heq, -, hleads, -⟩ := hlinks (by decide) .standard .standard href hmem
  exact ⟨link, heq, fun h => hleads (.inl h)⟩

/-- A page in a directory whose name is a blank has no step, though there is one to take. -/
theorem toRoot_steps_blank : ∃ site page,
    Config.site (Config.documentOf ["/ /x.html"] []) = .ok site ∧ page ∈ site.pages.values ∧
      (Path.parse page.path).names ≠ [] ∧
      Path.toRoot page.path ≠
        Path.climb (Path.directoriesBetween (.parse "public") (.parse "public" / .parse page.path)) := by
  refine ⟨_, ⟨" /x.html", "Guide", ∅, none⟩, rfl, ?_, ?_, ?_⟩
  · exact List.mem_singleton_self _
  · decide
  · decide

end GuideSite.Links
