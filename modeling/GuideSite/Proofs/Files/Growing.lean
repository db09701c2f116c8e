import GuideSite.Proofs.Files.Places

/-!
# What writing leaves alone

To write a file, the missing directories above it are made first, the outermost one first, and then the file is put at
its place. However it ends, nothing else changes: a fault leaves some of these directories behind, and no more.

* `Grows`: a tree with directories added on the way to a place; it composes (`Grows.trans`).
* `makeDirectories_grows`: what making directories adds, with a fault or without.
* `writeWithDirectories_grows`: what is left after a fault.
* `writeWithDirectories_puts`: what is there without one.

Nothing is assumed of the tree or of the working directory, and of the path only that it leads nowhere upwards.
-/

namespace GuideSite.FileTree

variable {t t' t'' : FileTree} {cwd : Location} {p : Path}

/-! ## Growing -/

/-- The second tree is the first with directories added at a place or above it. -/
def Grows (t t' : FileTree) (place : Location) : Prop :=
  ∀ q, t'.find? q = t.find? q ∨ q <:+ place ∧ t.find? q = none ∧ t'.find? q = some .directory

theorem Grows.refl (t : FileTree) (place : Location) : Grows t t place := fun _ => .inl rfl

theorem Grows.trans {place : Location} (h : Grows t t' place) (h' : Grows t' t'' place) : Grows t t'' place := by
  intro q
  obtain heq' | ⟨hsuffix, hnone, hdirectory⟩ := h' q
  · rw [heq']
    exact h q
  · obtain heq | ⟨-, -, hsome⟩ := h q
    · exact .inr ⟨hsuffix, heq ▸ hnone, hdirectory⟩
    · rw [hsome] at hnone
      cases hnone

theorem Grows.mono {outer place : Location} (h : Grows t t' outer) (hsuffix : outer <:+ place) : Grows t t' place :=
  fun q => (h q).imp_right fun hq => ⟨hq.1.trans hsuffix, hq.2⟩

theorem Grows.put {place : Location} (hnone : t.find? place = none) (h : t.Admits place .directory) :
    Grows t (t.put place .directory h) place := by
  intro q
  rw [find?_put]
  split
  · rename_i heq
    subst heq
    exact .inr ⟨List.suffix_rfl, hnone, rfl⟩
  · exact .inl rfl

/-- Directories stay. -/
theorem Grows.directory {place q : Location} (h : Grows t t' place) (hq : t.find? q = some .directory) :
    t'.find? q = some .directory := by
  obtain heq | ⟨-, hnone, -⟩ := h q
  · rw [heq, hq]
  · rw [hq] at hnone
    cases hnone

/-- Files are those there were. -/
theorem Grows.file_iff {place q : Location} (h : Grows t t' place) {content : String} :
    t'.find? q = some (.file content) ↔ t.find? q = some (.file content) := by
  obtain heq | ⟨-, hnone, hdirectory⟩ := h q
  · rw [heq]
  · simp [hnone, hdirectory]

theorem Grows.passable_iff {place q : Location} (h : Grows t t' place) : t'.Passable q ↔ t.Passable q :=
  forall_congr' fun _ => imp_congr_right fun _ => forall_congr' fun _ => not_congr h.file_iff

/-! ## Making directories -/

/-- A path that leads nowhere upwards is found at its place, or not at all. -/
theorem place_of_locate (hdown : ".." ∉ p.names) {q : Location} (h : t.locate cwd p = .ok q) : q = p.place cwd := by
  rw [locate] at h
  split at h
  · cases h
  · split at h
    · cases h
    · exact ((walk_eq_ok hdown).1 h).1

/-- A path that leads to a place is short enough, and its names are names of files. -/
theorem fits_of_locate (hdown : ".." ∉ p.names) {q : Location} (h : t.locate cwd p = .ok q) : p.IsPlain ∧ p.Fits := by
  rw [locate] at h
  split at h
  · cases h
  · rename_i hclean
    split at h
    · cases h
    · rename_i hshort
      exact ⟨⟨hdown, by simpa using hclean⟩, ((walk_eq_ok hdown).1 h).2.1, by omega⟩

theorem makeDirectory_grows (hdown : ".." ∉ p.names) (h : t.makeDirectory cwd p = .ok t') :
    Grows t t' (p.place cwd) := by
  rw [makeDirectory] at h
  split at h
  · cases h
  · rename_i place hlocate
    obtain rfl := place_of_locate hdown hlocate
    split at h
    · cases h
    · rename_i hnone
      split at h
      · rename_i hadmits
        obtain rfl := Except.ok.inj h
        exact Grows.put (by simpa using hnone) hadmits
      · cases h

theorem settled_grows (hdown : ".." ∉ p.names) :
    Grows t (t.settled cwd p (t.makeDirectory cwd p)).1 (p.place cwd) := by
  cases hmake : t.makeDirectory cwd p with
  | ok made => exact makeDirectory_grows hdown hmake
  | error obstacle => exact Grows.refl t _

section Directories

variable {anchor : Anchor}

theorem place_cons (name : String) (above : List String) :
    Path.place cwd ⟨anchor, (name :: above).reverse⟩ = name :: Path.place cwd ⟨anchor, above.reverse⟩ := by
  simp [Path.place, Path.start, Path.isAbsolute]

theorem makeDirectoriesFrom_of_ne {name : String} {above : List String}
    (h : t.makeDirectory cwd ⟨anchor, (name :: above).reverse⟩ ≠ .error .missing) :
    t.makeDirectoriesFrom cwd anchor (name :: above) =
      t.settled cwd ⟨anchor, (name :: above).reverse⟩ (t.makeDirectory cwd ⟨anchor, (name :: above).reverse⟩) := by
  rw [makeDirectoriesFrom]
  split
  · rename_i hmissing
    exact absurd hmissing h
  · rfl

/-- The induction is on the names from the last one back, since a directory is tried before those above it. -/
theorem makeDirectoriesFrom_grows {above : List String} (hdown : ".." ∉ above) :
    Grows t (t.makeDirectoriesFrom cwd anchor above).1 (Path.place cwd ⟨anchor, above.reverse⟩) := by
  induction above with
  | nil => exact settled_grows List.not_mem_nil
  | cons name above ih =>
    have hnames : ".." ∉ (name :: above).reverse := fun hmem => hdown (List.mem_reverse.1 hmem)
    have hsuffix : Path.place cwd ⟨anchor, above.reverse⟩ <:+ Path.place cwd ⟨anchor, (name :: above).reverse⟩ := by
      rw [place_cons]
      exact List.suffix_cons ..
    have hgrows := (ih fun hmem => hdown (List.mem_cons_of_mem _ hmem)).mono hsuffix
    by_cases hmissing : t.makeDirectory cwd ⟨anchor, (name :: above).reverse⟩ = .error .missing
    · rw [makeDirectoriesFrom, hmissing]
      dsimp only
      cases hfrom : t.makeDirectoriesFrom cwd anchor above with
      | mk t₁ fault =>
        rw [hfrom] at hgrows
        cases fault with
        | some fault => exact hgrows
        | none => exact hgrows.trans (settled_grows hnames)
    · rw [makeDirectoriesFrom_of_ne hmissing]
      exact settled_grows hnames

/-- However it ends, making the directories of a path adds directories on the way to its place, and changes nothing
else. -/
theorem makeDirectories_grows (hdown : ".." ∉ p.names) : Grows t (t.makeDirectories cwd p).1 (p.place cwd) := by
  have hgrows := @makeDirectoriesFrom_grows t cwd p.anchor p.names.reverse fun hmem => hdown (List.mem_reverse.1 hmem)
  rw [List.reverse_reverse] at hgrows
  exact hgrows

end Directories

/-! ## Writing files -/

section Files

variable {content : String}

theorem writeText_eq_put (hdown : ".." ∉ p.names) (h : t.writeText cwd p content = .ok t') :
    ∃ hadmits : t.Admits (p.place cwd) (.file content), t' = t.put (p.place cwd) (.file content) hadmits := by
  rw [writeText] at h
  split at h
  · cases h
  · rename_i place hlocate
    obtain rfl := place_of_locate hdown hlocate
    split at h
    · rename_i hadmits
      exact ⟨hadmits, (Except.ok.inj h).symm⟩
    · cases h

/-- What a file that was written says: the directories above it were made, and it was put into the last of them. -/
theorem writeWithDirectories_eq (h : t.writeWithDirectories cwd p content = (t', none)) :
    ∃ t₁, t.makeDirectories cwd p.parent = (t₁, none) ∧ t₁.writeText cwd p content = .ok t' := by
  rw [writeWithDirectories] at h
  split at h
  · cases h
  · rename_i t₁ hmake
    split at h
    · rename_i t₂ hwrite
      obtain ⟨rfl, -⟩ := Prod.mk.inj h
      exact ⟨t₁, hmake, hwrite⟩
    · cases h

theorem not_mem_names_parent (hdown : ".." ∉ p.names) : ".." ∉ p.parent.names :=
  fun hmem => hdown ((List.dropLast_sublist p.names).subset hmem)

/-- After a fault there may be new directories above the file, and nothing else is new. -/
theorem writeWithDirectories_grows (hdown : ".." ∉ p.names) {fault : FileFault}
    (h : t.writeWithDirectories cwd p content = (t', some fault)) : Grows t t' (p.parent.place cwd) := by
  have hgrows : Grows t (t.makeDirectories cwd p.parent).1 (p.parent.place cwd) :=
    makeDirectories_grows (not_mem_names_parent hdown)
  rw [writeWithDirectories] at h
  split at h
  · rename_i t₁ fault₁ hmake
    rw [hmake] at hgrows
    obtain ⟨rfl, -⟩ := Prod.mk.inj h
    exact hgrows
  · rename_i t₁ hmake
    rw [hmake] at hgrows
    split at h
    · cases h
    · obtain ⟨rfl, -⟩ := Prod.mk.inj h
      exact hgrows

/-- Without a fault the file stands at its place, where no directory stood, there may be new directories above it, and
nothing else is new. -/
theorem writeWithDirectories_puts (hdown : ".." ∉ p.names) (h : t.writeWithDirectories cwd p content = (t', none)) :
    t.find? (p.place cwd) ≠ some .directory ∧ t'.find? (p.place cwd) = some (.file content) ∧
      ∀ q, q ≠ p.place cwd →
        t'.find? q = t.find? q ∨ q <:+ p.parent.place cwd ∧ t.find? q = none ∧ t'.find? q = some .directory := by
  obtain ⟨t₁, hmake, hwrite⟩ := writeWithDirectories_eq h
  have hgrows : Grows t (t.makeDirectories cwd p.parent).1 (p.parent.place cwd) :=
    makeDirectories_grows (not_mem_names_parent hdown)
  rw [hmake] at hgrows
  obtain ⟨hadmits, rfl⟩ := writeText_eq_put hdown hwrite
  refine ⟨?_, ?_, ?_⟩
  · intro hdirectory
    exact nomatch hadmits.2.2 (hgrows.directory hdirectory)
  · rw [find?_put, if_pos rfl]
  · intro q hne
    rw [find?_put, if_neg hne]
    exact hgrows q

end Files

end GuideSite.FileTree
