import GuideSite.Proofs.Page.Building

/-!
# The files of pages

A page is asked for by its path as a text, and is written to the path that this text writes, in which empty segments and
`.` are lost. So pages share a file just if their paths differ in such segments only, and a page is written to the
output directory itself if its path has no other segments.

* `segments_injective`, `names_of_isNormal`: texts without such segments are told apart by their names.
* `join_eq_iff`, `isAbove_join_iff`: the files of two pages, and of one page and the output directory.
* `run_targets`: the files of the pages of a site.
-/

namespace GuideSite

namespace Path

/-! ## Normal forms -/

/-- The text has no segment that its path loses. -/
def IsNormal (s : String) : Prop := ∀ segment ∈ segments s, isName segment = true

instance (s : String) : Decidable (IsNormal s) := inferInstanceAs (Decidable (∀ segment ∈ segments s, _))

/-- A text can be put together again from its segments. -/
theorem segments_injective : Function.Injective segments := by
  intro s s' h
  have hsplit : s.toList.splitOn '/' = s'.toList.splitOn '/' := by
    rw [segments, segments] at h
    exact List.map_injective_iff.2 (fun _ _ => String.ofList_injective) h
  apply String.toList_inj.1
  calc
    s.toList = ['/'].intercalate (s.toList.splitOn '/') := (List.intercalate_splitOn '/').symm
    _ = ['/'].intercalate (s'.toList.splitOn '/') := by rw [hsplit]
    _ = s'.toList := List.intercalate_splitOn '/'

theorem names_of_isNormal {s : String} (h : IsNormal s) : (parse s).names = segments s := List.filter_eq_self.2 h

theorem names_ne_nil_of_isNormal {s : String} (h : IsNormal s) : (parse s).names ≠ [] := by
  rw [names_of_isNormal h, segments]
  simp

/-- Texts in normal form write different paths. -/
theorem eq_of_names_eq {s s' : String} (hs : IsNormal s) (hs' : IsNormal s') (h : (parse s).names = (parse s').names) :
    s = s' := by
  rw [names_of_isNormal hs, names_of_isNormal hs'] at h
  exact segments_injective h

/-! ## Files below a directory -/

section Join

variable {s s' : String} (hs : anchorOf s = .relative)

include hs

/-- Two relative paths lead to the same file below a directory just if they have the same names. -/
theorem join_eq_iff (hs' : anchorOf s' = .relative) (out : Path) :
    out / parse s = out / parse s' ↔ (parse s).names = (parse s').names := by
  rw [div_of_relative hs, div_of_relative hs', Path.mk.injEq]
  simp

/-- A relative path leads below a directory just if it has a name; else it leads to the directory itself. -/
theorem isAbove_join_iff (out : Path) : out.IsAbove (out / parse s) ↔ (parse s).names ≠ [] := by
  rw [div_of_relative hs, IsAbove]
  constructor
  · rintro ⟨-, -, hne⟩ hnil
    exact hne (by simp [hnil])
  · intro hne
    refine ⟨rfl, List.prefix_append .., ?_⟩
    intro heq
    exact hne (by simpa using heq)

end Join

end Path

namespace PageBuilder

open FileTree

variable {site : Site} {out : Path}

/-- The names of the pages are paths that a page may have. -/
theorem isPagePath_of_mem_keys {doc : Value} (hsite : Config.site doc = .ok site) {key : String}
    (h : key ∈ site.pages.keys) : Config.IsPagePath key := by
  obtain ⟨entry, hentry, rfl⟩ := List.mem_map.1 h
  exact (Config.keepsPaths_of_site hsite entry hentry).2

theorem selected_of_run {b : PageBuilder} {cwd : Location} {t : FileTree} {dir : Option Path}
    {paths : Option (List String)} {written : List Path} (h : (b.run site cwd t dir paths).2 = .ok written) :
    ∃ pages, selected site paths = .ok pages := by
  cases hselected : selected site paths with
  | ok pages => exact ⟨pages, rfl⟩
  | error e =>
    rw [run, hselected] at h
    cases h

/-- The paths that a build writes are those of the names that were asked for. -/
theorem written_of_run {b : PageBuilder} {cwd : Location} {t : FileTree} {dir : Option Path}
    {paths : Option (List String)} {written : List Path} (hkeeps : Config.KeepsPaths site.pages)
    (h : (b.run site cwd t dir paths).2 = .ok written) :
    written = (requested site paths).map fun name => dir.getD site.outputDir / .parse name := by
  obtain ⟨pages, hselected⟩ := selected_of_run h
  have hshown := shown_of_run hselected h
  rw [run_eq_writePages hselected hshown] at h
  rw [written_eq (Prod.ext rfl h), ← paths_of_selected hkeeps hselected, List.map_map]
  rfl

/-- **The files of the pages of a site.** Two pages share a file just if their paths have the same names, and a page is
written to the output directory itself just if its path has none. So if every path is in normal form, no two pages share
a file, and all files lie below the output directory; they are what a build writes. -/
theorem run_targets {doc : Value} (hsite : Config.site doc = .ok site) (out : Path) :
    (∀ key ∈ site.pages.keys, ∀ key' ∈ site.pages.keys,
      out / .parse key = out / .parse key' ↔ (Path.parse key).names = (Path.parse key').names) ∧
    (∀ key ∈ site.pages.keys, out.IsAbove (out / .parse key) ↔ (Path.parse key).names ≠ []) ∧
    ((∀ key ∈ site.pages.keys, Path.IsNormal key) →
      (∀ key ∈ site.pages.keys, ∀ key' ∈ site.pages.keys, key ≠ key' → out / .parse key ≠ out / .parse key') ∧
      ∀ key ∈ site.pages.keys, out.IsAbove (out / .parse key)) ∧
    ∀ b : PageBuilder, ∀ cwd t paths written, (b.run site cwd t (some out) paths).2 = .ok written →
      written = (requested site paths).map fun name => out / .parse name := by
  have hrelative : ∀ key ∈ site.pages.keys, Path.anchorOf key = .relative := fun key hkey =>
    (isPagePath_of_mem_keys hsite hkey).anchorOf_eq
  refine ⟨?_, ?_, ?_, ?_⟩
  · intro key hkey key' hkey'
    exact Path.join_eq_iff (hrelative key hkey) (hrelative key' hkey') out
  · intro key hkey
    exact Path.isAbove_join_iff (hrelative key hkey) out
  · intro hnormal
    constructor
    · intro key hkey key' hkey' hne heq
      have hnames := (Path.join_eq_iff (hrelative key hkey) (hrelative key' hkey') out).1 heq
      exact hne (Path.eq_of_names_eq (hnormal key hkey) (hnormal key' hkey') hnames)
    · intro key hkey
      exact (Path.isAbove_join_iff (hrelative key hkey) out).2 (Path.names_ne_nil_of_isNormal (hnormal key hkey))
  · intro b cwd t paths written hwritten
    exact written_of_run (Config.keepsPaths_of_site hsite) hwritten

/-- The pages of a site with paths in normal form have files of their own. -/
theorem run_targets_normal : ∃ site, Config.site (Config.documentOf ["a/x.html", "b"] []) = .ok site ∧
    site.pages.keys = ["a/x.html", "b"] ∧ (∀ key ∈ site.pages.keys, Path.IsNormal key) ∧
      ∀ out : Path, out / .parse "a/x.html" ≠ out / .parse "b" ∧ out.IsAbove (out / .parse "a/x.html") ∧
        out.IsAbove (out / .parse "b") := by
  obtain ⟨site, hsite, hkeys⟩ : ∃ site, Config.site (Config.documentOf ["a/x.html", "b"] []) = .ok site ∧
      site.pages.keys = ["a/x.html", "b"] := ⟨_, rfl, rfl⟩
  have hnormal : ∀ key ∈ site.pages.keys, Path.IsNormal key := by
    rw [hkeys]
    decide
  refine ⟨site, hsite, hkeys, hnormal, fun out => ?_⟩
  obtain ⟨-, -, hown, -⟩ := run_targets hsite out
  obtain ⟨hdistinct, hbelow⟩ := hown hnormal
  rw [hkeys] at hdistinct hbelow
  exact ⟨hdistinct _ (by simp) _ (by simp) (by decide), hbelow _ (by simp), hbelow _ (by simp)⟩

/-! ## Pages that share a file -/

/-- Segments that are lost make two pages share a file, and make one page take the place of the output directory. -/
theorem run_targets_shared :
    (∃ site, Config.site (Config.documentOf ["a/x.html", "a//x.html"] []) = .ok site ∧
      site.pages.keys = ["a/x.html", "a//x.html"] ∧
      ((ofSite site).run site [] .empty (some ⟨.relative, ["out"]⟩) none).2 =
        .ok [⟨.relative, ["out", "a", "x.html"]⟩, ⟨.relative, ["out", "a", "x.html"]⟩]) ∧
    ∃ site, Config.site (Config.documentOf ["."] []) = .ok site ∧ site.pages.keys = ["."] ∧
      ((ofSite site).run site [] .empty (some ⟨.relative, ["out"]⟩) none).2 = .ok [⟨.relative, ["out"]⟩] := by
  constructor
  · obtain ⟨site, hsite, hkeys, hpages, hshown⟩ :
        ∃ site, Config.site (Config.documentOf ["a/x.html", "a//x.html"] []) = .ok site ∧
          site.pages.keys = ["a/x.html", "a//x.html"] ∧
          site.pages.values = [⟨"a/x.html", "Guide", ∅, none⟩, ⟨"a//x.html", "Guide", ∅, none⟩] ∧
            (ofSite site).masthead.checkShown = .ok () := ⟨_, rfl, rfl, rfl, by decide +kernel⟩
    have hselected : selected site none = .ok site.pages.values := rfl
    have hrun := @run_empty site ⟨.relative, ["out"]⟩ (ofSite site) none _ hselected hshown
    rw [hpages] at hrun
    exact ⟨site, hsite, hkeys, hrun (by unfold ArePlain; decide) (by decide) (by unfold AreApart; decide)⟩
  · obtain ⟨site, hsite, hkeys, hpages, hshown⟩ : ∃ site, Config.site (Config.documentOf ["."] []) = .ok site ∧
        site.pages.keys = ["."] ∧ site.pages.values = [⟨".", "Guide", ∅, none⟩] ∧
          (ofSite site).masthead.checkShown = .ok () := ⟨_, rfl, rfl, rfl, by decide +kernel⟩
    have hselected : selected site none = .ok site.pages.values := rfl
    have hrun := @run_empty site ⟨.relative, ["out"]⟩ (ofSite site) none _ hselected hshown
    rw [hpages] at hrun
    exact ⟨site, hsite, hkeys, hrun (by unfold ArePlain; decide) (by decide) (by unfold AreApart; decide)⟩

end PageBuilder

end GuideSite
