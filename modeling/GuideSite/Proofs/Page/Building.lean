import GuideSite.Proofs.Files.Writing
import GuideSite.Proofs.Page.Selecting

/-!
# Building pages one by one

The pages of a site are written in order, each in the tree that the pages before it left. A page adds its file and the
directories above it, so it stands in the way of another page just if one of the two files lies above the other; this is
what a step says about the rest of the run (`isFree_after`), and the run follows by induction.

* `writePages_eq_ok`: when all pages can be written.
* `find?_writePages`: the file of a page that no later page overwrites.
* `run_eq_ok`: when a build succeeds, and what it leaves.
-/

namespace GuideSite

/-- The file of a page below an output directory. -/
def Page.target (out : Path) (page : Page) : Path := out / .parse page.path

namespace PageBuilder

open FileTree

variable {b : PageBuilder} {site : Site} {cwd : Location} {out : Path} {t t' : FileTree}

/-! ## All files -/

/-- The files of the pages lie below the output directory, as far as their paths say. -/
def ArePlain (out : Path) (pages : List Page) : Prop :=
  ∀ page ∈ pages, (page.target out).IsPlain ∧ (page.target out).anchor = out.anchor

/-- No file of the pages leads upwards from the output directory. -/
def AreBelow (out : Path) (pages : List Page) : Prop :=
  ∀ page ∈ pages, ".." ∉ (page.target out).names ∧ (page.target out).anchor = out.anchor

theorem ArePlain.start {pages : List Page} (h : ArePlain out pages) {page : Page} (hmem : page ∈ pages)
    (hstart : t.find? (out.start cwd) = some .directory) :
    t.find? ((page.target out).start cwd) = some .directory := by
  rw [Path.start_eq (h page hmem).2, hstart]

theorem writePages_cons_eq_ok {page : Page} {pages : List Page} {written : List Path}
    (h : b.writePages site cwd out t (page :: pages) = (t', .ok written)) :
    ∃ t₁ rest, t.writeWithDirectories cwd (page.target out) (b.render site page) = (t₁, none) ∧
      b.writePages site cwd out t₁ pages = (t', .ok rest) ∧ written = page.target out :: rest := by
  rw [writePages] at h
  dsimp only at h
  split at h
  · cases h
  · rename_i t₁ hwrite
    cases hrest : b.writePages site cwd out t₁ pages with
    | mk t₂ result =>
      rw [hrest] at h
      cases result with
      | error e => cases h
      | ok rest =>
        obtain ⟨rfl, hwritten⟩ := Prod.mk.inj h
        exact ⟨t₁, rest, hwrite, hrest, (Except.ok.inj hwritten).symm⟩

theorem writePages_cons {page : Page} {t₁ : FileTree} {pages : List Page}
    (h : t.writeWithDirectories cwd (page.target out) (b.render site page) = (t₁, none)) :
    b.writePages site cwd out t (page :: pages) =
      ((b.writePages site cwd out t₁ pages).1,
        (b.writePages site cwd out t₁ pages).2.map (page.target out :: ·)) := by
  rw [Page.target] at h
  rw [writePages]
  dsimp only
  rw [h]
  rfl

/-- No file of the pages lies above another one. -/
def AreApart (out : Path) (pages : List Page) : Prop :=
  ∀ page ∈ pages, ∀ other ∈ pages, ¬(page.target out).IsAbove (other.target out)

theorem areApart_cons {page : Page} {pages : List Page} :
    AreApart out (page :: pages) ↔
      (∀ other ∈ pages, ¬(page.target out).IsAbove (other.target out) ∧
        ¬(other.target out).IsAbove (page.target out)) ∧ AreApart out pages := by
  constructor
  · intro h
    refine ⟨fun other hother => ⟨?_, ?_⟩, fun one hone other hother => ?_⟩
    · exact h page List.mem_cons_self other (List.mem_cons_of_mem _ hother)
    · exact h other (List.mem_cons_of_mem _ hother) page List.mem_cons_self
    · exact h one (List.mem_cons_of_mem _ hone) other (List.mem_cons_of_mem _ hother)
  · rintro ⟨hpage, hpages⟩ one hone other hother
    obtain rfl | hone' := List.mem_cons.1 hone
    · obtain rfl | hother' := List.mem_cons.1 hother
      · exact Path.not_isAbove_self _
      · exact (hpage other hother').1
    · obtain rfl | hother' := List.mem_cons.1 hother
      · exact (hpage one hone').2
      · exact hpages one hone' other hother'

/-- **All pages can be written** just if each of them could be written first and no file lies above another one. -/
theorem writePages_eq_ok {pages : List Page} (hplain : ArePlain out pages)
    (hstart : t.find? (out.start cwd) = some .directory) :
    (∃ written, (b.writePages site cwd out t pages).2 = .ok written) ↔
      (∀ page ∈ pages, t.IsFree cwd (page.target out)) ∧ AreApart out pages := by
  induction pages generalizing t with
  | nil => exact iff_of_true ⟨[], rfl⟩ ⟨nofun, nofun⟩
  | cons page pages ih =>
    obtain ⟨⟨hpage, hanchor⟩, hpages⟩ := List.forall_mem_cons.1 hplain
    have hpstart := hplain.start List.mem_cons_self hstart
    have hlike : ∀ other ∈ pages, (other.target out).anchor = (page.target out).anchor := fun other hmem =>
      (hpages other hmem).2.trans hanchor.symm
    -- What the other pages need after the first one, in words of the tree before it.
    have hrest : ∀ t₁, t.writeWithDirectories cwd (page.target out) (b.render site page) = (t₁, none) →
        ((∃ written, (b.writePages site cwd out t₁ pages).2 = .ok written) ↔
          (∀ other ∈ pages, t.IsFree cwd (other.target out) ∧ ¬(page.target out).IsAbove (other.target out) ∧
            ¬(other.target out).IsAbove (page.target out)) ∧ AreApart out pages) := by
      intro t₁ hwrite
      rw [ih hpages (directory_after hpage.down hwrite hstart)]
      exact and_congr_left' (forall₂_congr fun other hmem => isFree_after hpage (hlike other hmem) hpstart hwrite)
    rw [List.forall_mem_cons, areApart_cons]
    constructor
    · rintro ⟨written, h⟩
      have hrun : b.writePages site cwd out t (page :: pages) = (_, .ok written) := Prod.ext rfl h
      obtain ⟨t₁, rest, hwrite, hrun, -⟩ := writePages_cons_eq_ok hrun
      obtain ⟨hall, hapart⟩ := (hrest t₁ hwrite).1 ⟨rest, congrArg Prod.snd hrun⟩
      exact ⟨⟨isFree_of_writeWithDirectories hpage.down hwrite, fun other hmem => (hall other hmem).1⟩,
        fun other hmem => (hall other hmem).2, hapart⟩
    · rintro ⟨⟨hfree, hall⟩, hbetween, hapart⟩
      obtain ⟨t₁, hwrite⟩ : ∃ t₁, t.writeWithDirectories cwd (page.target out) (b.render site page) = (t₁, none) :=
        ⟨_, Prod.ext rfl ((writeWithDirectories_eq_none hpage hpstart).2 hfree)⟩
      obtain ⟨rest, hrun⟩ := (hrest t₁ hwrite).2 ⟨fun other hmem => ⟨hall other hmem, hbetween other hmem⟩, hapart⟩
      exact ⟨page.target out :: rest, by rw [writePages_cons hwrite, hrun]; rfl⟩

/-- The paths of the files are given in the order of the pages. -/
theorem written_eq {pages : List Page} {written : List Path}
    (h : b.writePages site cwd out t pages = (t', .ok written)) : written = pages.map (Page.target out) := by
  induction pages generalizing t written with
  | nil => exact (Except.ok.inj (congrArg Prod.snd h)).symm
  | cons page pages ih =>
    obtain ⟨t₁, rest, -, hrest, rfl⟩ := writePages_cons_eq_ok h
    rw [List.map_cons, ← ih hrest]

section Result

variable {pages : List Page} {written : List Path} {place : Location}

/-- What each page keeps when it is written, all of them keep. -/
theorem writePages_invariant {P : FileTree → Prop}
    (hstep : ∀ page ∈ pages, ∀ t t',
      t.writeWithDirectories cwd (page.target out) (b.render site page) = (t', none) → P t → P t')
    (h : b.writePages site cwd out t pages = (t', .ok written)) (ht : P t) : P t' := by
  induction pages generalizing t written with
  | nil =>
    obtain rfl : t = t' := congrArg Prod.fst h
    exact ht
  | cons page pages ih =>
    obtain ⟨hfirst, hrest⟩ := List.forall_mem_cons.1 hstep
    obtain ⟨t₁, rest, hwrite, h, -⟩ := writePages_cons_eq_ok h
    exact ih hrest h (hfirst t t₁ hwrite ht)

/-- A file that is not written again stays. -/
theorem file_writePages (hbelow : AreBelow out pages) (h : b.writePages site cwd out t pages = (t', .ok written))
    {kept : String} (hother : ∀ page ∈ pages, place ≠ (page.target out).place cwd)
    (hplace : t.find? place = some (.file kept)) : t'.find? place = some (.file kept) := by
  refine writePages_invariant (P := fun t => t.find? place = some (.file kept)) (fun page hmem t t' hwrite hkept => ?_)
    h hplace
  exact file_after (hbelow page hmem).1 hwrite (hother page hmem) hkept

/-- **The last page written at a path is what stands there.** -/
theorem find?_writePages {before after : List Page} {page : Page} (hbelow : AreBelow out (before ++ page :: after))
    (h : b.writePages site cwd out t (before ++ page :: after) = (t', .ok written))
    (hlast : ∀ later ∈ after, later.target out ≠ page.target out) :
    t'.find? ((page.target out).place cwd) = some (.file (b.render site page)) := by
  induction before generalizing t written with
  | nil =>
    obtain ⟨⟨hdown, hanchor⟩, hpages⟩ := List.forall_mem_cons.1 hbelow
    obtain ⟨t₁, rest, hwrite, hrest, -⟩ := writePages_cons_eq_ok h
    refine file_writePages hpages hrest (fun later hmem heq => ?_) ?_
    · exact hlast later hmem ((Path.place_inj ((hpages later hmem).2.trans hanchor.symm)).1 heq.symm)
    · rw [find?_written hdown hwrite, if_pos rfl]
  | cons first before ih =>
    obtain ⟨t₁, rest, -, hrest, -⟩ := writePages_cons_eq_ok h
    exact ih (List.forall_mem_cons.1 hbelow).2 hrest

end Result

/-! ## Builds -/

section Builds

variable {dir : Option Path} {paths : Option (List String)} {pages : List Page}

theorem run_eq_writePages (hselected : selected site paths = .ok pages)
    (hshown : pages ≠ [] → b.masthead.checkShown = .ok ()) :
    b.run site cwd t dir paths = b.writePages site cwd (dir.getD site.outputDir) t pages := by
  rw [run, hselected]
  dsimp only
  split
  · rename_i e hcheck
    split at hcheck
    · cases hcheck
    · rename_i hpages
      rw [hshown hpages] at hcheck
      cases hcheck
  · rfl

theorem shown_of_run (hselected : selected site paths = .ok pages) {written : List Path}
    (h : (b.run site cwd t dir paths).2 = .ok written) (hpages : pages ≠ []) : b.masthead.checkShown = .ok () := by
  rw [run, hselected] at h
  dsimp only at h
  rw [if_neg hpages] at h
  cases hcheck : b.masthead.checkShown with
  | ok shown => rfl
  | error e =>
    rw [hcheck] at h
    cases h

/-- The pages of an accepted site have files below the output directory. -/
theorem areBelow_of_site {doc : Value} (hsite : Config.site doc = .ok site)
    (hmem : ∀ page ∈ pages, page ∈ site.pages.values) (hdown : ".." ∉ out.names) : AreBelow out pages := by
  intro page hpage
  have hpath := Config.isPagePath_of_site hsite (hmem page hpage)
  have htarget : page.target out = ⟨out.anchor, out.names ++ (Path.parse page.path).names⟩ := hpath.join_eq out
  rw [htarget]
  refine ⟨fun hup => ?_, rfl⟩
  exact (List.mem_append.1 hup).elim hdown hpath.not_mem_names

end Builds

/-! ## Builds from nothing -/

/-- Pages whose files are apart can be built from nothing. -/
theorem run_empty {b : PageBuilder} {paths : Option (List String)} {pages : List Page}
    (hselected : selected site paths = .ok pages) (hshown : b.masthead.checkShown = .ok ())
    (hplain : ArePlain out pages) (hfits : ∀ page ∈ pages, (page.target out).Fits ∧ (page.target out).names ≠ [])
    (hapart : AreApart out pages) :
    (b.run site [] .empty (some out) paths).2 = .ok (pages.map (Page.target out)) := by
  have hstart : empty.find? (out.start []) = some .directory := by
    rw [Path.start, ite_self]
    rfl
  have hfree : ∀ page ∈ pages, empty.IsFree [] (page.target out) := fun page hmem =>
    isFree_empty (hfits page hmem).1 (hfits page hmem).2
  obtain ⟨written, hwritten⟩ := (@writePages_eq_ok b site [] out .empty pages hplain hstart).2 ⟨hfree, hapart⟩
  rw [run_eq_writePages hselected fun _ => hshown]
  rw [← written_eq (Prod.ext rfl hwritten)]
  exact hwritten

/-- A name that is too long. -/
def longName : String := String.ofList (List.replicate 256 'a')

theorem toList_longName : longName.toList = List.replicate 256 'a' := String.toList_ofList

/-- The settings of a masthead with a logo of a width that has too many digits. -/
def wideLogo : Value.Entries :=
  [(.text "masthead", .map [(.text "logo", .map [(.text "width", .int (Nat.pow 10 Text.maxDigits))])])]

end PageBuilder

end GuideSite
