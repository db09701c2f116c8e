import GuideSite.Proofs.Files.Written

/-!
# Writing below missing directories

Making a directory with those above it ends without a fault just if the path is short enough, no file is on the way, and
the path starts at a directory or where one can be made. Writing a file makes the directories above it first, so it
succeeds just if they can be made and its place is no directory.

* `makeDirectories_of_rooted`: when directories can be made.
* `writeWithDirectories_of_rooted`, `writeWithDirectories_eq_none`: when a file can be written.
* `isFree_after`: what can be written after another file.
-/

namespace GuideSite.FileTree

variable {t t' t'' : FileTree} {cwd : Location} {p q : Path}

/-! ## One directory -/

/-- A directory is made just if the path is short enough, nothing stands at its place, and the tree admits it there. -/
theorem makeDirectory_eq_ok (hplain : p.IsPlain) (hstart : t.find? (p.start cwd) = some .directory) :
    t.makeDirectory cwd p = .ok t' ↔ p.Fits ∧ t.find? (p.place cwd) = none ∧
      ∃ h : t.Admits (p.place cwd) .directory, t' = t.put (p.place cwd) .directory h := by
  rw [makeDirectory]
  cases hlocate : t.locate cwd p with
  | error obstacle =>
    refine iff_of_false (by simp) ?_
    rintro ⟨hfits, -, hadmits, -⟩
    rw [locate_of_admits hplain hstart hfits hadmits] at hlocate
    cases hlocate
  | ok q =>
    obtain ⟨rfl, hfits, -⟩ := (locate_eq_ok hplain hstart).1 hlocate
    dsimp only
    rw [and_iff_right hfits]
    split
    · rename_i hsome
      refine iff_of_false (by simp) fun h => ?_
      rw [h.1] at hsome
      cases hsome
    · rename_i hnone
      rw [and_iff_right (by simpa using hnone)]
      split
      · rename_i hadmits
        constructor
        · intro h
          exact ⟨hadmits, (Except.ok.inj h).symm⟩
        · rintro ⟨-, rfl⟩
          rfl
      · rename_i hadmits
        exact iff_of_false (by simp) (not_exists.2 fun h _ => hadmits h)

/-- In a directory, a directory can be made where no file stands. -/
theorem settled_of_tail (hplain : p.IsPlain) (hstart : t.find? (p.start cwd) = some .directory) (hfits : p.Fits)
    (htail : t.find? (p.place cwd).tail = some .directory) (hpassable : t.Passable (p.place cwd)) :
    (t.settled cwd p (t.makeDirectory cwd p)).2 = none := by
  cases hplace : t.find? (p.place cwd) with
  | none =>
    have hne : p.place cwd ≠ [] := fun hnil => by
      rw [hnil, find?_root] at hplace
      cases hplace
    rw [(makeDirectory_eq_ok hplain hstart).2 ⟨hfits, hplace, ⟨hne, htail, fun _ => rfl⟩, rfl⟩]
    rfl
  | some entry =>
    cases entry with
    | file content => exact absurd hplace (hpassable _ List.suffix_rfl content)
    | directory =>
      rw [makeDirectory, (locate_eq_ok hplain hstart).2 ⟨rfl, hfits, htail⟩]
      dsimp only
      rw [hplace, Option.isSome_some, if_pos rfl, settled, if_pos ((isDirectoryAt_iff hplain hstart).2 ⟨hfits, hplace⟩)]

/-- Where the directory above is missing, the attempt says so. -/
theorem makeDirectory_missing (hplain : p.IsPlain) (hstart : t.find? (p.start cwd) = some .directory) (hfits : p.Fits)
    (htail : t.find? (p.place cwd).tail ≠ some .directory) (hpassable : t.Passable (p.place cwd).tail) :
    t.makeDirectory cwd p = .error .missing := by
  obtain hok | hmissing := locate_of_passable hplain hfits hpassable
  · exact absurd ((locate_eq_ok hplain hstart).1 hok).2.2 htail
  · rw [makeDirectory, hmissing]

/-- Where no file is in the way, only a missing directory above is in the way of a directory. -/
theorem settled_of_passable (hplain : p.IsPlain) (hstart : t.find? (p.start cwd) = some .directory) (hfits : p.Fits)
    (hpassable : t.Passable (p.place cwd)) (hmake : t.makeDirectory cwd p ≠ .error .missing) :
    (t.settled cwd p (t.makeDirectory cwd p)).2 = none := by
  by_cases htail : t.find? (p.place cwd).tail = some .directory
  · exact settled_of_tail hplain hstart hfits htail hpassable
  · exact absurd (makeDirectory_missing hplain hstart hfits htail (hpassable.of_suffix (List.tail_suffix _))) hmake

/-- From a start that is missing nothing is reached. -/
theorem makeDirectory_of_missing (hplain : p.IsPlain) (hfits : p.Fits) (hnames : p.names ≠ [])
    (hstart : t.find? (p.start cwd) = none) : t.makeDirectory cwd p = .error .missing := by
  obtain ⟨name, rest, hcons⟩ := List.exists_cons_of_ne_nil hnames
  have hlocate : t.locate cwd p = .error .missing := by
    have htext := hfits.text
    rw [locate_of_plain hplain, if_neg (by omega), hcons, walk, hstart]
  rw [makeDirectory, hlocate]

/-- The start itself can be made if it is missing in a directory. -/
theorem settled_start_of_missing (hplain : p.IsPlain) (hfits : p.Fits) (hnames : p.names = [])
    (hstart : t.find? (p.start cwd) = none) (htail : t.find? (p.start cwd).tail = some .directory) :
    (t.settled cwd p (t.makeDirectory cwd p)).2 = none := by
  have hne : p.start cwd ≠ [] := by
    intro hnil
    rw [hnil] at hstart
    cases hstart
  have hlocate : t.locate cwd p = .ok (p.start cwd) := by
    have htext := hfits.text
    rw [locate_of_plain hplain, if_neg (by omega), hnames, walk]
  have hadmits : t.Admits (p.start cwd) .directory := ⟨hne, htail, fun _ => rfl⟩
  rw [makeDirectory, hlocate]
  dsimp only
  rw [if_neg (by simpa using hstart), dif_pos hadmits, settled]

/-! ## All directories on the way -/

theorem suffix_place_start (cwd : Location) (p : Path) : p.start cwd <:+ p.place cwd := List.suffix_append ..

/-- Directories can be made where no file is in the way. The induction is on the names from the last one back, since a
directory is tried before those above it. -/
theorem makeDirectoriesFrom_of_rooted {anchor : Anchor} {above : List String}
    (hplain : Path.IsPlain ⟨anchor, above.reverse⟩) (hfits : Path.Fits ⟨anchor, above.reverse⟩)
    (hrooted : t.Rooted (Path.start cwd ⟨anchor, above.reverse⟩))
    (hpassable : t.Passable (Path.place cwd ⟨anchor, above.reverse⟩)) :
    (t.makeDirectoriesFrom cwd anchor above).2 = none := by
  induction above with
  | nil =>
    obtain hstart | ⟨hstart, htail⟩ := hrooted
    · exact settled_of_tail hplain hstart hfits (find?_tail (Option.isSome_of_eq_some hstart)) hpassable
    · exact settled_start_of_missing hplain hfits rfl hstart htail
  | cons name above ih =>
    have hinit : above.reverse <+: (name :: above).reverse := by simp
    have hparent : Path.IsPlain ⟨anchor, above.reverse⟩ := hplain.of_initial hinit
    have hdown : ".." ∉ above := fun hmem => hparent.down (List.mem_reverse.2 hmem)
    have htail : (Path.place cwd ⟨anchor, (name :: above).reverse⟩).tail = Path.place cwd ⟨anchor, above.reverse⟩ := by
      rw [place_cons, List.tail_cons]
    by_cases hmissing : t.makeDirectory cwd ⟨anchor, (name :: above).reverse⟩ = .error .missing
    · have hgrows := @makeDirectoriesFrom_grows t cwd anchor above hdown
      have hnone := ih hparent (hfits.of_initial hinit) hrooted (hpassable.of_suffix (htail ▸ List.tail_suffix _))
      rw [makeDirectoriesFrom, hmissing]
      dsimp only
      cases hfrom : t.makeDirectoriesFrom cwd anchor above with
      | mk t₁ fault =>
        rw [hfrom] at hnone hgrows
        obtain rfl : fault = none := hnone
        -- The second attempt starts from the directory that the first one missed.
        obtain ⟨-, hdirectory⟩ := rooted_of_makeDirectoriesFrom hdown hfrom
        have hstart : t₁.find? (Path.start cwd ⟨anchor, (name :: above).reverse⟩) = some .directory :=
          find?_of_suffix_directory hdirectory (suffix_place_start cwd ⟨anchor, above.reverse⟩)
        exact settled_of_tail hplain hstart hfits (htail ▸ hdirectory) (hgrows.passable_iff.2 hpassable)
    · rw [makeDirectoriesFrom_of_ne hmissing]
      obtain hstart | ⟨hstart, -⟩ := hrooted
      · exact settled_of_passable hplain hstart hfits hpassable hmissing
      · exact absurd (makeDirectory_of_missing hplain hfits (by simp) hstart) hmissing

theorem makeDirectories_of_rooted (hplain : p.IsPlain) (hfits : p.Fits) (hrooted : t.Rooted (p.start cwd))
    (hpassable : t.Passable (p.place cwd)) : (t.makeDirectories cwd p).2 = none := by
  have hnone := @makeDirectoriesFrom_of_rooted t cwd p.anchor p.names.reverse
  rw [List.reverse_reverse] at hnone
  exact hnone hplain hfits hrooted hpassable

/-! ## Files -/

variable {content : String}

theorem names_ne_nil_of_notDirectory (hstart : t.find? (p.start cwd) = some .directory)
    (h : t.find? (p.place cwd) ≠ some .directory) : p.names ≠ [] :=
  fun hnames => h (by rw [Path.place_of_names_eq_nil hnames, hstart])

theorem isFree_empty (hfits : p.Fits) (hnames : p.names ≠ []) : empty.IsFree [] p := by
  have hplace : p.place [] ≠ [] := Path.place_ne_nil hnames
  refine ⟨hfits, ?_, ?_⟩
  · rw [find?_empty hplace]
    exact nofun
  · intro outer _ content hcontent
    by_cases houter : outer = []
    · subst houter
      cases hcontent
    · rw [find?_empty houter] at hcontent
      cases hcontent

theorem writeText_eq_ok (hplain : p.IsPlain) (hstart : t.find? (p.start cwd) = some .directory) :
    t.writeText cwd p content = .ok t' ↔
      p.Fits ∧ ∃ h : t.Admits (p.place cwd) (.file content), t' = t.put (p.place cwd) (.file content) h := by
  rw [writeText]
  cases hlocate : t.locate cwd p with
  | error obstacle =>
    refine iff_of_false (by simp) ?_
    rintro ⟨hfits, hadmits, -⟩
    rw [locate_of_admits hplain hstart hfits hadmits] at hlocate
    cases hlocate
  | ok q =>
    obtain ⟨rfl, hfits, -⟩ := (locate_eq_ok hplain hstart).1 hlocate
    dsimp only
    split
    · rename_i hadmits
      constructor
      · intro h
        exact ⟨hfits, hadmits, (Except.ok.inj h).symm⟩
      · rintro ⟨-, -, rfl⟩
        rfl
    · rename_i hadmits
      refine iff_of_false (by simp) ?_
      rintro ⟨-, h, -⟩
      exact hadmits h

/-- A file can be written where nothing is in its way and its path starts at a directory, or where one can be made. -/
theorem writeWithDirectories_of_rooted (hplain : p.IsPlain) (hrooted : t.Rooted (p.start cwd)) (hnames : p.names ≠ [])
    (hfree : t.IsFree cwd p) : (t.writeWithDirectories cwd p content).2 = none := by
  have hinit : p.parent.names <+: p.names := List.dropLast_prefix _
  have hparent : p.parent.IsPlain := hplain.of_initial hinit
  have hplace : p.parent.place cwd = (p.place cwd).tail := Path.place_parent hnames
  have hnil : p.place cwd ≠ [] := Path.place_ne_nil hnames
  have hnone := makeDirectories_of_rooted hparent (hfree.fits.of_initial hinit) hrooted (hplace ▸ hfree.passable)
  have hgrows := @makeDirectories_grows t cwd p.parent hparent.down
  cases hmake : t.makeDirectories cwd p.parent with
  | mk t₁ fault =>
    rw [hmake] at hnone hgrows
    obtain rfl : fault = none := hnone
    obtain ⟨-, hdirectory⟩ := rooted_of_makeDirectories hparent.down hmake
    have hstart : t₁.find? (p.start cwd) = some .directory :=
      find?_of_suffix_directory hdirectory (suffix_place_start cwd p.parent)
    have hadmits : t₁.Admits (p.place cwd) (.file content) := by
      refine ⟨hnil, hplace ▸ hdirectory, fun hfile => ?_⟩
      obtain hsame | ⟨hsuffix, -⟩ := hgrows (p.place cwd)
      · exact absurd (hsame ▸ hfile) hfree.notDirectory
      · rw [hplace] at hsuffix
        exact absurd rfl ((suffix_tail_iff hnil).1 hsuffix).2
    rw [writeWithDirectories, hmake]
    dsimp only
    rw [(writeText_eq_ok hplain hstart).2 ⟨hfree.fits, hadmits, rfl⟩]

/-- A file is written with the directories above it just if nothing is in the way. -/
theorem writeWithDirectories_eq_none (hplain : p.IsPlain) (hstart : t.find? (p.start cwd) = some .directory) :
    (t.writeWithDirectories cwd p content).2 = none ↔ t.IsFree cwd p := by
  constructor
  · intro h
    exact isFree_of_writeWithDirectories hplain.down (Prod.ext rfl h)
  · intro hfree
    exact writeWithDirectories_of_rooted hplain (.inl hstart)
      (names_ne_nil_of_notDirectory hstart hfree.notDirectory) hfree

/-! ## One file after another -/

section Apart

variable (hp : p.IsPlain) (hanchor : q.anchor = p.anchor) (hstart : t.find? (p.start cwd) = some .directory)
  (h : t.writeWithDirectories cwd p content = (t', none))

include hp hanchor hstart h

/-- What can be written after a file could be written before it, and neither lies above the other. -/
theorem isFree_before (hq : t'.IsFree cwd q) : t.IsFree cwd q ∧ ¬p.IsAbove q ∧ ¬q.IsAbove p := by
  have hfind := find?_written hp.down h
  have hqstart : t'.find? (q.start cwd) = some .directory := by
    rw [Path.start_eq hanchor]
    exact directory_after hp.down h hstart
  have hqnil : q.place cwd ≠ [] := Path.place_ne_nil (names_ne_nil_of_notDirectory hqstart hq.notDirectory)
  refine ⟨⟨hq.fits, fun hdirectory => ?_, fun outer hsuffix kept hfile => ?_⟩, fun habove => ?_, fun habove => ?_⟩
  · exact hq.notDirectory (directory_after hp.down h hdirectory)
  · by_cases heq : outer = p.place cwd
    · refine hq.passable outer hsuffix content ?_
      rw [hfind, if_pos heq]
    · exact hq.passable outer hsuffix kept (file_after hp.down h heq hfile)
  · have hplace := (suffix_tail_iff hqnil).2 ((Path.isAbove_iff habove.1).1 habove)
    refine hq.passable _ hplace content ?_
    rw [hfind, if_pos rfl]
  · obtain ⟨hsuffix, hne⟩ := (@Path.isAbove_iff cwd _ _ habove.1).1 habove
    refine hq.notDirectory ?_
    rw [hfind, if_neg hne, if_pos hsuffix]

/-- A file that is written takes nothing from a path that it does not lie above or below. -/
theorem isFree_of_apart (hq : t.IsFree cwd q) (hpq : ¬p.IsAbove q) (hqp : ¬q.IsAbove p) : t'.IsFree cwd q := by
  have hfind := find?_written hp.down h
  have hqstart : t.find? (q.start cwd) = some .directory := by
    rw [Path.start_eq hanchor, hstart]
  have hqnil : q.place cwd ≠ [] := Path.place_ne_nil (names_ne_nil_of_notDirectory hqstart hq.notDirectory)
  refine ⟨hq.fits, fun hdirectory => ?_, fun outer hsuffix kept hfile => ?_⟩
  · rw [hfind] at hdirectory
    split at hdirectory
    · cases hdirectory
    · rename_i hne
      split at hdirectory
      · rename_i hsuffix
        exact hqp ((Path.isAbove_iff hanchor).2 ⟨hsuffix, hne⟩)
      · exact hq.notDirectory hdirectory
  · rw [hfind] at hfile
    split at hfile
    · rename_i heq
      exact hpq ((Path.isAbove_iff hanchor.symm).2 (heq ▸ (suffix_tail_iff hqnil).1 hsuffix))
    · split at hfile
      · cases hfile
      · exact hq.passable outer hsuffix kept hfile

/-- After a file was written, another one can be written just if it could before and neither lies above the other. -/
theorem isFree_after : t'.IsFree cwd q ↔ t.IsFree cwd q ∧ ¬p.IsAbove q ∧ ¬q.IsAbove p :=
  ⟨isFree_before hp hanchor hstart h, fun ⟨hq, hpq, hqp⟩ => isFree_of_apart hp hanchor hstart h hq hpq hqp⟩

end Apart

end GuideSite.FileTree
