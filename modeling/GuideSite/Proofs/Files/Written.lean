import GuideSite.Proofs.Files.Growing

/-!
# What a written file says

A path is read from the root or from the working directory, and this directory need not be there: it is made like those
below it, if it lies in a directory. So a file that was written says where its path starts, that nothing was in its way,
and what stands where after it. Nothing is assumed of the tree, and of the path only that it leads nowhere upwards.

* `rooted_of_writeWithDirectories`, `isFree_of_writeWithDirectories`: the tree before.
* `find?_written`: the tree after.
-/

namespace GuideSite.FileTree

variable {t t' : FileTree} {cwd : Location} {p : Path} {content : String}

/-! ## The start of a path -/

/-- A directory stands at the place, or can be made there. -/
def Rooted (t : FileTree) (place : Location) : Prop :=
  t.find? place = some .directory ∨ t.find? place = none ∧ t.find? place.tail = some .directory

theorem start_of_locate {q : Location} (h : t.locate cwd p = .ok q) (hnames : p.names ≠ []) :
    t.find? (p.start cwd) = some .directory := by
  rw [locate] at h
  split at h
  · cases h
  · split at h
    · cases h
    · obtain ⟨name, rest, hcons⟩ := List.exists_cons_of_ne_nil hnames
      rw [hcons, walk] at h
      split at h
      · assumption
      · cases h
      · cases h

theorem rooted_of_locate {q : Location} (h : t.locate cwd p = .ok q) (hplace : t.Rooted (p.place cwd)) :
    t.Rooted (p.start cwd) := by
  by_cases hnames : p.names = []
  · rw [Path.place_of_names_eq_nil hnames] at hplace
    exact hplace
  · exact .inl (start_of_locate h hnames)

/-- A failed attempt to make a directory is no fault where one is there already. -/
theorem isDirectoryAt_of_settled {obstacle : FileObstacle} (h : t.settled cwd p (.error obstacle) = (t', none)) :
    t' = t ∧ t.isDirectoryAt cwd p = true := by
  rw [settled] at h
  obtain ⟨rfl, hnone⟩ := Prod.mk.inj h
  refine ⟨rfl, ?_⟩
  by_contra hnot
  rw [if_neg hnot] at hnone
  cases hnone

/-- An attempt to make a directory that ends without a fault leaves one there, from a start that was there or was made.
-/
theorem rooted_of_settled (hdown : ".." ∉ p.names) (h : t.settled cwd p (t.makeDirectory cwd p) = (t', none)) :
    t.Rooted (p.start cwd) ∧ t'.find? (p.place cwd) = some .directory := by
  cases hlocate : t.locate cwd p with
  | error obstacle =>
    rw [makeDirectory, hlocate] at h
    have hdirectory := (isDirectoryAt_of_settled h).2
    simp [isDirectoryAt, entryAt?, hlocate] at hdirectory
  | ok place =>
    obtain rfl := place_of_locate hdown hlocate
    have hentry : t.isDirectoryAt cwd p = true ↔ t.find? (p.place cwd) = some .directory := by
      rw [isDirectoryAt, entryAt?, hlocate, beq_iff_eq]
    rw [makeDirectory, hlocate] at h
    dsimp only at h
    split at h
    · obtain ⟨rfl, hdirectory⟩ := isDirectoryAt_of_settled h
      exact ⟨rooted_of_locate hlocate (.inl (hentry.1 hdirectory)), hentry.1 hdirectory⟩
    · rename_i hmissing
      have hnone : t.find? (p.place cwd) = none := by simpa using hmissing
      split at h
      · rename_i hadmits
        obtain ⟨rfl, -⟩ := Prod.mk.inj h
        refine ⟨rooted_of_locate hlocate (.inr ⟨hnone, hadmits.2.1⟩), ?_⟩
        rw [find?_put, if_pos rfl]
      · have hdirectory := hentry.1 (isDirectoryAt_of_settled h).2
        rw [hnone] at hdirectory
        cases hdirectory

/-- The induction is on the names from the last one back, since a directory is tried before those above it. -/
theorem rooted_of_makeDirectoriesFrom {anchor : Anchor} {above : List String} (hdown : ".." ∉ above)
    (h : t.makeDirectoriesFrom cwd anchor above = (t', none)) :
    t.Rooted (Path.start cwd ⟨anchor, above.reverse⟩) ∧
      t'.find? (Path.place cwd ⟨anchor, above.reverse⟩) = some .directory := by
  induction above generalizing t' with
  | nil => exact rooted_of_settled List.not_mem_nil h
  | cons name above ih =>
    have hnames : ".." ∉ (name :: above).reverse := fun hmem => hdown (List.mem_reverse.1 hmem)
    by_cases hmissing : t.makeDirectory cwd ⟨anchor, (name :: above).reverse⟩ = .error .missing
    · rw [makeDirectoriesFrom, hmissing] at h
      dsimp only at h
      cases hfrom : t.makeDirectoriesFrom cwd anchor above with
      | mk t₁ fault =>
        rw [hfrom] at h
        cases fault with
        | some fault => cases h
        | none =>
          obtain ⟨hrooted, -⟩ := ih (fun hmem => hdown (List.mem_cons_of_mem _ hmem)) hfrom
          exact ⟨hrooted, (rooted_of_settled hnames h).2⟩
    · rw [makeDirectoriesFrom_of_ne hmissing] at h
      exact rooted_of_settled hnames h

theorem rooted_of_makeDirectories (hdown : ".." ∉ p.names) (h : t.makeDirectories cwd p = (t', none)) :
    t.Rooted (p.start cwd) ∧ t'.find? (p.place cwd) = some .directory := by
  have hrooted := @rooted_of_makeDirectoriesFrom t t' cwd p.anchor p.names.reverse
    (fun hmem => hdown (List.mem_reverse.1 hmem)) h
  rw [List.reverse_reverse] at hrooted
  exact hrooted

/-! ## Files -/

/-- A path at which a file was written is short enough, and its names are names of files. -/
theorem fits_of_writeText (hdown : ".." ∉ p.names) (h : t.writeText cwd p content = .ok t') : p.IsPlain ∧ p.Fits := by
  rw [writeText] at h
  split at h
  · cases h
  · rename_i place hlocate
    exact fits_of_locate hdown hlocate

/-- A file that was written has a name, and its path starts at a directory or where one could be made. -/
theorem rooted_of_writeWithDirectories (hdown : ".." ∉ p.names)
    (h : t.writeWithDirectories cwd p content = (t', none)) : t.Rooted (p.start cwd) ∧ p.names ≠ [] := by
  obtain ⟨t₁, hmake, hwrite⟩ := writeWithDirectories_eq h
  obtain ⟨hrooted, hdirectory⟩ := rooted_of_makeDirectories (not_mem_names_parent hdown) hmake
  refine ⟨hrooted, fun hnames => ?_⟩
  -- Without a name the path is its own parent, where a directory stands now.
  have hparent : p.parent.place cwd = p.place cwd := by
    rw [Path.place, Path.place, Path.start_parent, Path.parent, hnames]
    rfl
  obtain ⟨hadmits, -⟩ := writeText_eq_put hdown hwrite
  cases hadmits.2.2 (hparent ▸ hdirectory)

/-- What stands where after a file was written. -/
theorem find?_written (hdown : ".." ∉ p.names) (h : t.writeWithDirectories cwd p content = (t', none)) (q : Location) :
    t'.find? q = if q = p.place cwd then some (.file content)
      else if q <:+ p.place cwd then some .directory else t.find? q := by
  obtain ⟨-, hfile, hother⟩ := writeWithDirectories_puts hdown h
  split
  · rename_i hplace
    rw [hplace, hfile]
  · rename_i hplace
    split
    · rename_i hsuffix
      exact find?_of_suffix (Option.isSome_of_eq_some hfile) hsuffix hplace
    · rename_i hsuffix
      refine (hother q hplace).resolve_right fun hnew => hsuffix (hnew.1.trans ?_)
      rw [Path.place_parent (rooted_of_writeWithDirectories hdown h).2]
      exact List.tail_suffix _

/-- A file can be written at the path: it is short enough, its place is no directory, and no file is on the way. -/
structure IsFree (t : FileTree) (cwd : Location) (p : Path) : Prop where
  fits : p.Fits
  notDirectory : t.find? (p.place cwd) ≠ some .directory
  passable : t.Passable (p.place cwd).tail

/-- A file that was written could be written. -/
theorem isFree_of_writeWithDirectories (hdown : ".." ∉ p.names)
    (h : t.writeWithDirectories cwd p content = (t', none)) : t.IsFree cwd p := by
  obtain ⟨t₁, -, htext⟩ := writeWithDirectories_eq h
  obtain ⟨hplace, -, hother⟩ := writeWithDirectories_puts hdown h
  have hnil : p.place cwd ≠ [] := Path.place_ne_nil (rooted_of_writeWithDirectories hdown h).2
  refine ⟨(fits_of_writeText hdown htext).2, hplace, fun outer hsuffix kept hkept => ?_⟩
  obtain ⟨hsuffix, hne⟩ := (suffix_tail_iff hnil).1 hsuffix
  have hdirectory : t'.find? outer = some .directory := by
    rw [find?_written hdown h, if_neg hne, if_pos hsuffix]
  obtain hsame | ⟨-, hnone, -⟩ := hother outer hne
  · rw [hsame, hkept] at hdirectory
    cases hdirectory
  · rw [hkept] at hnone
    cases hnone

/-- Directories stay when a file is written. -/
theorem directory_after (hdown : ".." ∉ p.names) (h : t.writeWithDirectories cwd p content = (t', none))
    {place : Location} (hplace : t.find? place = some .directory) : t'.find? place = some .directory := by
  obtain ⟨hnot, -, hother⟩ := writeWithDirectories_puts hdown h
  have hne : place ≠ p.place cwd := by
    rintro rfl
    exact hnot hplace
  obtain hsame | ⟨-, hnone, -⟩ := hother place hne
  · rw [hsame, hplace]
  · rw [hplace] at hnone
    cases hnone

/-- Other files stay when a file is written. -/
theorem file_after (hdown : ".." ∉ p.names) (h : t.writeWithDirectories cwd p content = (t', none))
    {place : Location} (hne : place ≠ p.place cwd) {kept : String} (hplace : t.find? place = some (.file kept)) :
    t'.find? place = some (.file kept) := by
  obtain hsame | ⟨-, hnone, -⟩ := (writeWithDirectories_puts hdown h).2.2 place hne
  · rw [hsame, hplace]
  · rw [hplace] at hnone
    cases hnone

end GuideSite.FileTree
