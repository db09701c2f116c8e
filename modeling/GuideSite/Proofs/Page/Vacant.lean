import GuideSite.Config.Load
import GuideSite.Proofs.Files.Reaching
import GuideSite.Proofs.Page.Rebuilding

/-!
# Builds into vacant directories

A build of all pages into a directory that is empty or not there writes over nothing: the files below the directory are
those of the pages, and whatever else was in the tree can still be read, so the site can be loaded again.

* `PageBuilder.isFileAt_run`: the files below the directory after the build.
* `PageBuilder.keeps_run`: what was there before the build.
* `Config.siteAt_run`: the site can be loaded again.
-/

namespace GuideSite

/-! ## The files of a build -/

namespace PageBuilder

open FileTree

variable {b : PageBuilder} {site : Site} {cwd : Location} {out : Path} {t t' : FileTree} {written : List Path}

/-- Every page that was written has a file. -/
theorem file_of_writePages {pages : List Page} (hbelow : AreBelow out pages)
    (h : b.writePages site cwd out t pages = (t', .ok written)) :
    ∀ page ∈ pages, ∃ content, t'.find? ((page.target out).place cwd) = some (.file content) := by
  induction pages generalizing t written with
  | nil => exact nofun
  | cons page pages ih =>
    obtain ⟨⟨hdown, -⟩, hpages⟩ := List.forall_mem_cons.1 hbelow
    obtain ⟨t₁, rest, hwrite, hrest, -⟩ := writePages_cons_eq_ok h
    refine List.forall_mem_cons.2 ⟨?_, ih hpages hrest⟩
    -- The file of the page stays one when a later page is written there.
    refine writePages_invariant (P := fun t => ∃ content, t.find? ((page.target out).place cwd) = some (.file content))
      (fun later hlater t t' hwrite ⟨content, hcontent⟩ => ?_) hrest ⟨b.render site page, ?_⟩
    · have hfind := find?_written (hpages later hlater).1 hwrite ((page.target out).place cwd)
      by_cases hplace : (page.target out).place cwd = (later.target out).place cwd
      · rw [if_pos hplace] at hfind
        exact ⟨_, hfind⟩
      · exact ⟨content, file_after (hpages later hlater).1 hwrite hplace hcontent⟩
    · rw [find?_written hdown hwrite, if_pos rfl]

section Run

variable {doc : Value} (hsite : Config.site doc = .ok site) (hdown : ".." ∉ out.names)
  (hvacant : t.IsVacant cwd out) (hrun : b.run site cwd t (some out) none = (t', .ok written))

include hsite hdown hrun

/-- A build of all pages that succeeds writes them one after the other. -/
theorem writePages_of_run : AreBelow out site.pages.values ∧
    b.writePages site cwd out t site.pages.values = (t', .ok written) := by
  have hselected : selected site none = .ok site.pages.values := rfl
  refine ⟨areBelow_of_site hsite (fun _ hmem => hmem) hdown, ?_⟩
  rw [run_eq_writePages hselected (shown_of_run hselected (congrArg Prod.snd hrun))] at hrun
  exact hrun

include hvacant

/-- **The files of a build** of all pages into a vacant directory: there is one at a path below it just if the path is
that of a page. -/
theorem isFileAt_run {p : Path} (hanchor : out.anchor = p.anchor) (hinit : out.names <+: p.names)
    (hp : ".." ∉ p.names) : t'.isFileAt cwd p = true ↔ ∃ page ∈ site.pages.values, page.target out = p := by
  obtain ⟨hbelow, hwritten⟩ := writePages_of_run hsite hdown hrun
  have hchange := @changes_writePages b site cwd out t _ hbelow (p.place cwd)
  rw [hwritten] at hchange
  rw [isFileAt_iff hp]
  constructor
  · rintro ⟨hplain, hfits, content, hfile⟩
    have hbefore := hvacant.not_file hanchor hinit hplain hfits
    dsimp only at hchange
    generalize t.find? (p.place cwd) = before, t'.find? (p.place cwd) = after at hchange hbefore hfile
    cases hchange with
    | same => exact absurd hfile (hbefore content)
    | written _ page hmem hplace =>
      have hlike : p.anchor = (page.target out).anchor := hanchor.symm.trans (hbelow page hmem).2.symm
      exact ⟨page, hmem, ((Path.place_inj hlike).1 hplace).symm⟩
    | made => cases hfile
  · rintro ⟨page, hmem, rfl⟩
    obtain ⟨hplain, hfits, -⟩ := rooted_of_writePages hbelow hwritten page hmem
    exact ⟨hplain, hfits, file_of_writePages hbelow hwritten page hmem⟩

/-- Such a build keeps everything that was there, since it writes over no file. -/
theorem keeps_run : t.Keeps t' := by
  obtain ⟨hbelow, hwritten⟩ := writePages_of_run hsite hdown hrun
  have hchanges := @changes_writePages b site cwd out t _ hbelow
  rw [hwritten] at hchanges
  intro place entry hentry
  have hchange := hchanges place
  rw [hentry] at hchange
  dsimp only at hchange
  generalize t'.find? place = after at hchange ⊢
  cases hchange with
  | same => rfl
  | written _ page hmem hplace hbefore =>
    obtain ⟨hplain, hfits, -⟩ := rooted_of_writePages hbelow hwritten page hmem
    have hpath := Config.isPagePath_of_site hsite hmem
    cases entry with
    | directory => exact absurd rfl hbefore
    | file content =>
      have hinit : out.names <+: (page.target out).names := by
        rw [Page.target, hpath.join_eq out]
        exact List.prefix_append ..
      rw [hplace] at hentry
      exact absurd hentry (hvacant.not_file (hbelow page hmem).2.symm hinit hplain hfits content)

end Run

end PageBuilder

namespace Config

variable {site : Site} {t t' : FileTree} {cwd : Location}

/-- A site is loaded just if its file can be read and configures it. -/
theorem siteAt_eq_ok {p : Path} :
    siteAt t cwd p = .ok site ↔ ∃ text, t.readText cwd p = .ok text ∧ siteOfText text = .ok site := by
  have hread : siteAt t cwd p = .ok site ↔
      ((t.readText cwd p).mapError Error.file >>= siteOfText) = .ok site := by
    rw [siteAt, FileTree.readText]
    cases t.locate cwd p with
    | error obstacle => cases obstacle <;> simp [Except.mapError, bind, Except.bind]
    | ok place => cases hplace : t.find? place <;> simp [Except.mapError, bind, Except.bind, hplace]
  simp only [hread, bind_eq_ok, mapError_eq_ok]

/-- A site that was loaded is loaded again after all its pages were built into a vacant directory. -/
theorem siteAt_run {doc : Value} {b : PageBuilder} {out p : Path} {written : List Path}
    (hsite : Config.site doc = .ok site) (hdown : ".." ∉ out.names) (hvacant : t.IsVacant cwd out)
    (hrun : b.run site cwd t (some out) none = (t', .ok written)) (hload : siteAt t cwd p = .ok site) :
    siteAt t' cwd p = .ok site := by
  obtain ⟨text, hread, htext⟩ := siteAt_eq_ok.1 hload
  have hkeeps := PageBuilder.keeps_run hsite hdown hvacant hrun
  exact siteAt_eq_ok.2 ⟨text, hkeeps.readText_eq_ok hread, htext⟩

end Config

end GuideSite
