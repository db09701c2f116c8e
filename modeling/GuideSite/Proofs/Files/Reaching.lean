import GuideSite.Proofs.Files.Growing

/-!
# What a look-up finds

Whatever is in the way of a path, a look-up only says that nothing stands there. A path that is too long is the
exception, and ends the look-up with an error of its own: either it is too long as a whole, or one of its names is and
those before it lead to a directory, since else they end the look-up first.

* `locate_eq_nameTooLong`, `checkLength_eq_ok`: the paths that are too long to be looked up.
* `isFileAt_iff`: the files that are found.
* `IsVacant.not_file`: the places where there is no file.
* `Keeps.readText_eq_ok`: what can be read stays so while nothing is taken away.
-/

namespace GuideSite.FileTree

variable {t : FileTree} {cwd : Location} {p : Path}

/-! ## Paths that are too long -/

/-- The path is too long to be looked up: as a whole, or in a name behind names that lead to a directory. -/
structure IsTooLong (t : FileTree) (cwd : Location) (p : Path) : Prop where
  clean : ∀ name ∈ p.names, '\x00' ∉ name.toList
  long : maxPathSize < p.text.utf8ByteSize ∨ ∃ above name rest, p.names = above ++ name :: rest ∧
    t.isDirectoryAt cwd ⟨p.anchor, above⟩ = true ∧ maxNameSize < name.utf8ByteSize

/-- What splits a list splits it before its first part, or after that. -/
theorem exists_split_cons {α : Type} {Q : List α → α → Prop} {first : α} {others : List α} :
    (∃ above x rest, first :: others = above ++ x :: rest ∧ Q above x) ↔
      Q [] first ∨ ∃ above x rest, others = above ++ x :: rest ∧ Q (first :: above) x := by
  constructor
  · rintro ⟨above, x, rest, hsplit, hx⟩
    cases above with
    | nil =>
      obtain ⟨rfl, -⟩ := List.cons.inj hsplit
      exact .inl hx
    | cons first' above =>
      obtain ⟨rfl, hothers⟩ := List.cons.inj hsplit
      exact .inr ⟨above, x, rest, hothers, hx⟩
  · rintro (hfirst | ⟨above, x, rest, rfl, hx⟩)
    · exact ⟨[], first, others, rfl, hfirst⟩
    · exact ⟨first :: above, x, rest, rfl, hx⟩

theorem not_isTooLong_of_fits (hfits : p.Fits) : ¬t.IsTooLong cwd p := by
  rintro ⟨-, htext | ⟨above, name, rest, hnames, -, hname⟩⟩
  · exact absurd hfits.text (by omega)
  · have hmem : name ∈ p.names := by simp [hnames]
    exact absurd (hfits.names name hmem) (by omega)

/-- A name that is too long ends a walk just if the names before it lead to a directory. -/
theorem walk_eq_nameTooLong {names : List String} {place : Location} :
    t.walk place names = .error .nameTooLong ↔ ∃ above name rest, names = above ++ name :: rest ∧
      (∃ q, t.walk place above = .ok q ∧ t.find? q = some .directory) ∧ maxNameSize < name.utf8ByteSize := by
  induction names generalizing place with
  | nil => simp [walk]
  | cons first names ih =>
    rw [@exists_split_cons _ fun above name =>
      (∃ q, t.walk place above = .ok q ∧ t.find? q = some .directory) ∧ maxNameSize < name.utf8ByteSize]
    simp only [walk]
    cases hplace : t.find? place with
    | none => simp [hplace]
    | some entry =>
      cases entry with
      | file content => simp [hplace]
      | directory =>
        dsimp only
        by_cases hlong : maxNameSize < first.utf8ByteSize
        · simp [hlong, hplace]
        · simp only [hlong, if_false, and_false, false_or]
          exact ih

theorem isDirectoryAt_of_clean (hclean : ∀ name ∈ p.names, '\x00' ∉ name.toList)
    (htext : p.text.utf8ByteSize ≤ maxPathSize) :
    t.isDirectoryAt cwd p = true ↔ ∃ q, t.walk (p.start cwd) p.names = .ok q ∧ t.find? q = some .directory := by
  have hlocate : t.locate cwd p = t.walk (p.start cwd) p.names := by
    rw [locate, if_neg (by simpa using hclean), if_neg (by omega)]
    rfl
  rw [isDirectoryAt, entryAt?, hlocate]
  cases t.walk (p.start cwd) p.names with
  | error obstacle => simp
  | ok q => simp

/-- **Only a path that is too long** ends a look-up with this error. -/
theorem locate_eq_nameTooLong : t.locate cwd p = .error .nameTooLong ↔ t.IsTooLong cwd p := by
  by_cases hclean : ∀ name ∈ p.names, '\x00' ∉ name.toList
  · by_cases htext : maxPathSize < p.text.utf8ByteSize
    · rw [locate, if_neg (by simpa using hclean), if_pos htext]
      exact iff_of_true rfl ⟨hclean, .inl htext⟩
    · have habove : ∀ above name rest, p.names = above ++ name :: rest →
          (t.isDirectoryAt cwd ⟨p.anchor, above⟩ = true ↔
            ∃ q, t.walk (p.start cwd) above = .ok q ∧ t.find? q = some .directory) := by
        intro above name rest hnames
        have hinit : above <+: p.names := ⟨_, hnames.symm⟩
        exact isDirectoryAt_of_clean (fun name hmem => hclean name (hinit.subset hmem))
          (Path.size_text_initial hinit (by omega))
      rw [locate, if_neg (by simpa using hclean), if_neg htext]
      refine walk_eq_nameTooLong.trans ⟨?_, ?_⟩
      · rintro ⟨above, name, rest, hnames, hq, hlong⟩
        exact ⟨hclean, .inr ⟨above, name, rest, hnames, (habove above name rest hnames).2 hq, hlong⟩⟩
      · rintro ⟨-, hlong | ⟨above, name, rest, hnames, hdirectory, hlong⟩⟩
        · exact absurd hlong htext
        · exact ⟨above, name, rest, hnames, (habove above name rest hnames).1 hdirectory, hlong⟩
  · rw [locate, if_pos (by simpa using hclean)]
    exact iff_of_false (by simp) fun h => hclean h.clean

theorem checkLength_eq_ok : t.checkLength cwd p = .ok () ↔ ¬t.IsTooLong cwd p := by
  rw [checkLength, ← locate_eq_nameTooLong]
  split
  · rename_i hlong
    exact iff_of_false nofun fun h => h hlong
  · rename_i hshort
    exact iff_of_true rfl hshort

/-! ## Files -/

/-- A file that is found is one that stands at the place of a path that is not too long. -/
theorem isFileAt_iff (hdown : ".." ∉ p.names) :
    t.isFileAt cwd p = true ↔ p.IsPlain ∧ p.Fits ∧ ∃ content, t.find? (p.place cwd) = some (.file content) := by
  have hfile : t.isFileAt cwd p = true ↔ ∃ content, t.entryAt? cwd p = some (.file content) := by
    rw [isFileAt]
    split
    · rename_i content h
      exact iff_of_true rfl ⟨content, h⟩
    · rename_i h
      exact iff_of_false Bool.false_ne_true (not_exists.2 h)
  rw [hfile, entryAt?]
  cases hlocate : t.locate cwd p with
  | ok place =>
    obtain rfl := place_of_locate hdown hlocate
    obtain ⟨hplain, hfits⟩ := fits_of_locate hdown hlocate
    rw [and_iff_right hplain, and_iff_right hfits]
  | error obstacle =>
    refine iff_of_false (by simp) ?_
    rintro ⟨hplain, hfits, content, hcontent⟩
    rw [locate_of_isSome hplain hfits (Option.isSome_of_eq_some hcontent)] at hlocate
    cases hlocate

/-! ## Trees that keep what they hold -/

/-- What stands in the first tree stands in the second. -/
def Keeps (t t' : FileTree) : Prop := ∀ place entry, t.find? place = some entry → t'.find? place = some entry

section Keeps

variable {t' : FileTree} (h : Keeps t t')

include h

theorem Keeps.walk_eq_ok {names : List String} {place q : Location} (hwalk : t.walk place names = .ok q) :
    t'.walk place names = .ok q := by
  induction names generalizing place with
  | nil => exact hwalk
  | cons name names ih =>
    rw [walk] at hwalk ⊢
    split at hwalk
    · rename_i hdirectory
      rw [h place _ hdirectory]
      dsimp only
      split at hwalk
      · cases hwalk
      · rename_i hshort
        rw [if_neg hshort]
        exact ih hwalk
    · cases hwalk
    · cases hwalk

theorem Keeps.locate_eq_ok {place : Location} (hlocate : t.locate cwd p = .ok place) :
    t'.locate cwd p = .ok place := by
  rw [locate] at hlocate ⊢
  split at hlocate
  · cases hlocate
  · rename_i hclean
    rw [if_neg hclean]
    split at hlocate
    · cases hlocate
    · rename_i hshort
      rw [if_neg hshort]
      exact h.walk_eq_ok hlocate

theorem Keeps.readText_eq_ok {content : String} (hread : t.readText cwd p = .ok content) :
    t'.readText cwd p = .ok content := by
  rw [readText] at hread ⊢
  split at hread
  · cases hread
  · rename_i place hlocate
    rw [h.locate_eq_ok hlocate]
    dsimp only
    split at hread
    · rename_i hfile
      rw [h place _ hfile]
      exact hread
    · cases hread
    · cases hread

end Keeps

/-! ## Vacant paths -/

/-- The path leads to nothing, or to an empty directory. -/
def IsVacant (t : FileTree) (cwd : Location) (p : Path) : Prop :=
  ∀ place, t.locate cwd p = .ok place →
    t.find? place = none ∨ t.find? place = some .directory ∧ ∀ name, t.find? (name :: place) = none

theorem exists_suffix_cons {outer place : Location} (hsuffix : outer <:+ place) (hne : outer ≠ place) :
    ∃ name, name :: outer <:+ place := by
  obtain ⟨inner, rfl⟩ := hsuffix
  obtain rfl | ⟨inner, name, rfl⟩ := List.eq_nil_or_concat inner
  · exact absurd rfl hne
  · exact ⟨name, inner, by simp⟩

theorem find?_isSome_of_suffix {outer place : Location} (h : (t.find? place).isSome) (hsuffix : outer <:+ place) :
    (t.find? outer).isSome := by
  by_cases heq : outer = place
  · rw [heq, h]
  · rw [find?_of_suffix h hsuffix heq]
    rfl

/-- Neither at a vacant path nor below it is there a file. -/
theorem IsVacant.not_file {out : Path} (h : t.IsVacant cwd out) (hanchor : out.anchor = p.anchor)
    (hinit : out.names <+: p.names) (hplain : p.IsPlain) (hfits : p.Fits) (content : String) :
    t.find? (p.place cwd) ≠ some (.file content) := by
  intro hfile
  have hsuffix : out.place cwd <:+ p.place cwd := by
    rw [Path.place, Path.place, Path.start_eq hanchor]
    exact List.suffix_append_self_iff.2 (List.reverse_suffix.2 hinit)
  have hplace := find?_isSome_of_suffix (Option.isSome_of_eq_some hfile) hsuffix
  -- What exists is reached, so the path was found to be vacant.
  have hout : out = ⟨p.anchor, out.names⟩ := by rw [← hanchor]
  have hlocate : t.locate cwd out = .ok (out.place cwd) :=
    locate_of_isSome (hout ▸ hplain.of_initial hinit) (hout ▸ hfits.of_initial hinit) hplace
  obtain hnone | ⟨hdirectory, hempty⟩ := h _ hlocate
  · rw [hnone] at hplace
    cases hplace
  · have hne : out.place cwd ≠ p.place cwd := by
      intro heq
      rw [heq, hfile] at hdirectory
      cases hdirectory
    obtain ⟨name, hname⟩ := exists_suffix_cons hsuffix hne
    have hsome := find?_isSome_of_suffix (Option.isSome_of_eq_some hfile) hname
    rw [hempty name] at hsome
    cases hsome

/-- In the empty tree every path is vacant. -/
theorem isVacant_empty (cwd : Location) (p : Path) : empty.IsVacant cwd p := by
  intro place _
  by_cases hplace : place = []
  · subst hplace
    exact .inr ⟨rfl, fun name => find?_empty (List.cons_ne_nil name [])⟩
  · exact .inl (find?_empty hplace)

end GuideSite.FileTree
