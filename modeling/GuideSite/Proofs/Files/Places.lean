import GuideSite.Files.Access
import Mathlib.Data.List.Basic

/-!
# The places of paths

A path without `..` leads to one place, whatever the tree holds: its names below the place where it starts. The tree
only decides whether the place is reached.

* `locate_eq_ok`: the place is reached just if the path is short enough and the place lies in a directory.
* `locate_of_passable`: where no file is in the way, a place that is not reached is missing.
* `entryAt?_eq`: what stands at a path stands at its place.
-/

namespace GuideSite

namespace Path

/-! ## Places -/

/-- The path leads nowhere upwards, and its names are names of files. -/
structure IsPlain (p : Path) : Prop where
  down : ".." ∉ p.names
  clean : ∀ name ∈ p.names, '\x00' ∉ name.toList

instance (p : Path) : Decidable p.IsPlain :=
  decidable_of_iff (".." ∉ p.names ∧ ∀ name ∈ p.names, '\x00' ∉ name.toList) ⟨fun h => ⟨h.1, h.2⟩, fun h => ⟨h.1, h.2⟩⟩

/-- Neither the path nor one of its names is too long. -/
structure Fits (p : Path) : Prop where
  names : ∀ name ∈ p.names, name.utf8ByteSize ≤ FileTree.maxNameSize
  text : p.text.utf8ByteSize ≤ FileTree.maxPathSize

instance (p : Path) : Decidable p.Fits :=
  decidable_of_iff ((∀ name ∈ p.names, name.utf8ByteSize ≤ FileTree.maxNameSize) ∧
    p.text.utf8ByteSize ≤ FileTree.maxPathSize) ⟨fun h => ⟨h.1, h.2⟩, fun h => ⟨h.1, h.2⟩⟩

/-- The place where a path starts. -/
def start (cwd : Location) (p : Path) : Location := if p.isAbsolute then [] else cwd

/-- The place of a path that leads nowhere upwards. -/
def place (cwd : Location) (p : Path) : Location := p.names.reverse ++ p.start cwd

theorem place_of_names_eq_nil {cwd : Location} {p : Path} (h : p.names = []) : p.place cwd = p.start cwd := by
  rw [place, h]
  rfl

theorem place_ne_nil {cwd : Location} {p : Path} (h : p.names ≠ []) : p.place cwd ≠ [] :=
  List.append_ne_nil_of_left_ne_nil (by simpa using h) _

theorem start_parent (cwd : Location) (p : Path) : p.parent.start cwd = p.start cwd := rfl

/-- The parent of a path is at the place above. -/
theorem place_parent {cwd : Location} {p : Path} (h : p.names ≠ []) : p.parent.place cwd = (p.place cwd).tail := by
  rw [place, place, start_parent, List.tail_append_of_ne_nil (by simpa using h), List.tail_reverse]
  rfl

theorem start_eq {p q : Path} (h : p.anchor = q.anchor) (cwd : Location) : p.start cwd = q.start cwd := by
  rw [start, start, isAbsolute, isAbsolute, h]

/-- Paths that start alike are at different places. -/
theorem place_inj {cwd : Location} {p q : Path} (h : p.anchor = q.anchor) : p.place cwd = q.place cwd ↔ p = q := by
  rw [place, place, start_eq h, List.append_left_inj, List.reverse_inj]
  exact ⟨fun hnames => by cases p; cases q; simp_all, fun heq => by rw [heq]⟩

/-! ## Paths above -/

/-- The first path lies above the second. -/
def IsAbove (p q : Path) : Prop := p.anchor = q.anchor ∧ p.names <+: q.names ∧ p.names ≠ q.names

instance (p q : Path) : Decidable (p.IsAbove q) := inferInstanceAs (Decidable (_ ∧ _))

theorem not_isAbove_self (p : Path) : ¬p.IsAbove p := fun h => h.2.2 rfl

/-- One path is above another just if its place is. -/
theorem isAbove_iff {cwd : Location} {p q : Path} (h : p.anchor = q.anchor) :
    p.IsAbove q ↔ p.place cwd <:+ q.place cwd ∧ p.place cwd ≠ q.place cwd := by
  rw [IsAbove, and_iff_right h, place, place, start_eq h, List.suffix_append_self_iff, List.reverse_suffix,
    ne_eq, ne_eq, List.append_left_inj, List.reverse_inj]

/-! ## Prefixes -/

theorem IsPlain.of_initial {p : Path} {names : List String} (h : p.IsPlain) (hinit : names <+: p.names) :
    IsPlain ⟨p.anchor, names⟩ :=
  ⟨fun hmem => h.down (hinit.subset hmem), fun name hmem => h.clean name (hinit.subset hmem)⟩

theorem size_intercalate_append (xs ys : List String) :
    (String.intercalate "/" xs).utf8ByteSize ≤ (String.intercalate "/" (xs ++ ys)).utf8ByteSize := by
  by_cases hxs : xs = []
  · simp [hxs]
  · by_cases hys : ys = []
    · simp [hys]
    · rw [String.intercalate_append_of_ne_nil hxs hys, String.utf8ByteSize_append, String.utf8ByteSize_append]
      omega

/-- The text of what leads to a path is short enough if that of the path is. -/
theorem size_text_initial {p : Path} {names : List String} (hinit : names <+: p.names)
    (h : p.text.utf8ByteSize ≤ FileTree.maxPathSize) :
    (text ⟨p.anchor, names⟩).utf8ByteSize ≤ FileTree.maxPathSize := by
  obtain ⟨rest, hrest⟩ := hinit
  have hsize := size_intercalate_append names rest
  rw [hrest] at hsize
  unfold text at h ⊢
  split
  · decide
  · rename_i hnames
    rw [if_neg fun hp => hnames ⟨hp.1, (List.append_eq_nil_iff.1 (hrest.trans hp.2)).1⟩] at h
    rw [String.utf8ByteSize_append] at h ⊢
    dsimp only
    omega

/-- What leads to a path that is short enough is short enough. -/
theorem Fits.of_initial {p : Path} {names : List String} (h : p.Fits) (hinit : names <+: p.names) :
    Fits ⟨p.anchor, names⟩ :=
  ⟨fun name hmem => h.names name (hinit.subset hmem), size_text_initial hinit h.text⟩

end Path

namespace FileTree

variable {t : FileTree} {cwd : Location}

/-! ## Directories above -/

theorem suffix_tail_iff {outer place : Location} (h : place ≠ []) :
    outer <:+ place.tail ↔ outer <:+ place ∧ outer ≠ place := by
  obtain ⟨name, rest, rfl⟩ := List.exists_cons_of_ne_nil h
  rw [List.tail_cons, List.suffix_cons_iff]
  constructor
  · intro hsuffix
    refine ⟨.inr hsuffix, fun heq => ?_⟩
    have := hsuffix.length_le
    rw [heq, List.length_cons] at this
    omega
  · rintro ⟨heq | hsuffix, hne⟩
    · exact absurd heq hne
    · exact hsuffix

theorem find?_tail {place : Location} (h : (t.find? place).isSome) : t.find? place.tail = some .directory := by
  cases place with
  | nil => rfl
  | cons name rest => exact t.find?_of_isSome_cons h

/-- Whatever exists lies in directories all the way up. -/
theorem find?_of_suffix {outer place : Location} (h : (t.find? place).isSome) (hsuffix : outer <:+ place)
    (hne : outer ≠ place) : t.find? outer = some .directory := by
  induction place with
  | nil => exact absurd (List.suffix_nil.1 hsuffix) hne
  | cons name rest ih =>
    have hrest : t.find? rest = some .directory := t.find?_of_isSome_cons h
    obtain heq | hsuffix := List.suffix_cons_iff.1 hsuffix
    · exact absurd heq hne
    · by_cases heq : outer = rest
      · rw [heq, hrest]
      · exact ih (by rw [hrest]; rfl) hsuffix heq

theorem find?_of_suffix_directory {outer place : Location} (h : t.find? place = some .directory)
    (hsuffix : outer <:+ place) : t.find? outer = some .directory := by
  by_cases heq : outer = place
  · rw [heq, h]
  · exact find?_of_suffix (by rw [h]; rfl) hsuffix heq

/-- No file stands at the place or above it. -/
def Passable (t : FileTree) (place : Location) : Prop :=
  ∀ outer, outer <:+ place → ∀ content, t.find? outer ≠ some (.file content)

theorem Passable.of_suffix {outer place : Location} (h : t.Passable place) (hsuffix : outer <:+ place) :
    t.Passable outer :=
  fun inner hinner => h inner (hinner.trans hsuffix)

/-! ## Walking -/

theorem reverse_cons_append (name : String) (rest : List String) (place : Location) :
    (name :: rest).reverse ++ place = rest.reverse ++ name :: place := by
  simp

theorem suffix_tail_reverse (name : String) (rest : List String) (place : Location) :
    place <:+ ((name :: rest).reverse ++ place).tail := by
  rw [suffix_tail_iff (by simp)]
  refine ⟨List.suffix_append _ _, fun heq => ?_⟩
  have hlength := congrArg List.length heq
  simp only [List.length_append, List.length_reverse, List.length_cons] at hlength
  omega

/-- Names lead to a place just if they are short enough and the place lies in a directory. -/
theorem walk_eq_ok {names : List String} (hdown : ".." ∉ names) {place q : Location} :
    t.walk place names = .ok q ↔ q = names.reverse ++ place ∧
      (∀ name ∈ names, name.utf8ByteSize ≤ maxNameSize) ∧
      (names ≠ [] → t.find? (names.reverse ++ place).tail = some .directory) := by
  induction names generalizing place with
  | nil => simp [walk, eq_comm]
  | cons name rest ih =>
    obtain ⟨hne, hdown⟩ := List.ne_and_not_mem_of_not_mem_cons hdown
    have hdirectory : (name :: rest ≠ [] → t.find? ((name :: rest).reverse ++ place).tail = some .directory) →
        t.find? place = some .directory := fun h =>
      find?_of_suffix_directory (h (List.cons_ne_nil name rest)) (suffix_tail_reverse name rest place)
    rw [walk]
    cases hplace : t.find? place with
    | none => exact iff_of_false nofun fun h => nomatch hplace.symm.trans (hdirectory h.2.2)
    | some entry =>
      cases entry with
      | file content => exact iff_of_false nofun fun h => nomatch hplace.symm.trans (hdirectory h.2.2)
      | directory =>
        dsimp only
        rw [if_neg (Ne.symm hne)]
        split
        · rename_i hlong
          exact iff_of_false nofun fun h => absurd (h.2.1 name List.mem_cons_self) (by omega)
        · rename_i hshort
          rw [ih hdown, reverse_cons_append, List.forall_mem_cons]
          refine and_congr_right fun _ => and_congr ?_ ?_
          · exact (and_iff_right (by omega)).symm
          · by_cases hrest : rest = []
            · subst hrest
              simpa using hplace
            · simp [hrest]

/-- Where no file is in the way, names that lead to no place are missing. -/
theorem walk_of_passable {names : List String} (hdown : ".." ∉ names)
    (hfits : ∀ name ∈ names, name.utf8ByteSize ≤ maxNameSize) {place : Location}
    (hpassable : t.Passable (names.reverse ++ place).tail) :
    t.walk place names = .ok (names.reverse ++ place) ∨ t.walk place names = .error .missing := by
  induction names generalizing place with
  | nil => exact .inl rfl
  | cons name rest ih =>
    obtain ⟨hne, hdown⟩ := List.ne_and_not_mem_of_not_mem_cons hdown
    obtain ⟨hname, hrest⟩ := List.forall_mem_cons.1 hfits
    have hfile := hpassable place (suffix_tail_reverse name rest place)
    rw [walk]
    cases hplace : t.find? place with
    | none => exact .inr rfl
    | some entry =>
      cases entry with
      | file content => exact absurd hplace (hfile content)
      | directory =>
        rw [reverse_cons_append] at hpassable ⊢
        dsimp only
        rw [if_neg (by omega), if_neg (Ne.symm hne)]
        exact ih hdown hrest hpassable

/-! ## Locating -/

variable {p : Path}

theorem locate_of_plain (hplain : p.IsPlain) :
    t.locate cwd p =
      if maxPathSize < p.text.utf8ByteSize then .error .nameTooLong else t.walk (p.start cwd) p.names := by
  rw [locate, if_neg]
  · rfl
  · simpa using hplain.clean

/-- A path leads to its place just if it is short enough and the place lies in a directory. -/
theorem locate_eq_ok (hplain : p.IsPlain) (hstart : t.find? (p.start cwd) = some .directory) {q : Location} :
    t.locate cwd p = .ok q ↔ q = p.place cwd ∧ p.Fits ∧ t.find? (p.place cwd).tail = some .directory := by
  rw [locate_of_plain hplain]
  split
  · rename_i hlong
    exact iff_of_false nofun fun h => absurd h.2.1.text (by omega)
  · rename_i hshort
    rw [walk_eq_ok hplain.down]
    refine and_congr_right fun _ => and_congr ⟨fun h => ⟨h, by omega⟩, fun h => h.names⟩ ?_
    refine ⟨fun h => ?_, fun h _ => h⟩
    by_cases hnames : p.names = []
    · rw [Path.place_of_names_eq_nil hnames]
      exact find?_tail (by rw [hstart]; rfl)
    · exact h hnames

theorem locate_of_passable (hplain : p.IsPlain) (hfits : p.Fits) (hpassable : t.Passable (p.place cwd).tail) :
    t.locate cwd p = .ok (p.place cwd) ∨ t.locate cwd p = .error .missing := by
  rw [locate_of_plain hplain, if_neg (by have := hfits.text; omega)]
  exact walk_of_passable hplain.down hfits.names hpassable

/-- What exists is reached, unless its path is too long. -/
theorem locate_of_isSome (hplain : p.IsPlain) (hfits : p.Fits) (h : (t.find? (p.place cwd)).isSome) :
    t.locate cwd p = .ok (p.place cwd) := by
  rw [locate_of_plain hplain, if_neg (by have := hfits.text; omega), walk_eq_ok hplain.down]
  exact ⟨rfl, hfits.names, fun _ => find?_tail h⟩

/-- A place where something can be put is reached. -/
theorem locate_of_admits (hplain : p.IsPlain) (hstart : t.find? (p.start cwd) = some .directory) (hfits : p.Fits)
    {entry : Entry} (hadmits : t.Admits (p.place cwd) entry) : t.locate cwd p = .ok (p.place cwd) :=
  (locate_eq_ok hplain hstart).2 ⟨rfl, hfits, hadmits.2.1⟩

/-- What stands at a path stands at its place, unless the path is too long. -/
theorem entryAt?_eq (hplain : p.IsPlain) (hstart : t.find? (p.start cwd) = some .directory) :
    t.entryAt? cwd p = if p.Fits then t.find? (p.place cwd) else none := by
  rw [entryAt?]
  cases hlocate : t.locate cwd p with
  | ok q =>
    obtain ⟨rfl, hfits, -⟩ := (locate_eq_ok hplain hstart).1 hlocate
    rw [if_pos hfits]
  | error obstacle =>
    by_cases hfits : p.Fits
    · rw [if_pos hfits]
      cases hplace : t.find? (p.place cwd) with
      | none => rfl
      | some entry =>
        have hok := (locate_eq_ok hplain hstart).2 ⟨rfl, hfits, find?_tail (by rw [hplace]; rfl)⟩
        rw [hlocate] at hok
        cases hok
    · rw [if_neg hfits]

/-- A directory stands at a path just if it stands at its place and the path is short enough. -/
theorem isDirectoryAt_iff (hplain : p.IsPlain) (hstart : t.find? (p.start cwd) = some .directory) :
    t.isDirectoryAt cwd p = true ↔ p.Fits ∧ t.find? (p.place cwd) = some .directory := by
  rw [isDirectoryAt, entryAt?_eq hplain hstart, beq_iff_eq]
  split
  · rename_i hfits
    exact (and_iff_right hfits).symm
  · rename_i hlong
    exact iff_of_false nofun fun h => hlong h.1

/-- The file at the place of a path is the one that is read. -/
theorem readText_eq_ok (hplain : p.IsPlain) (hstart : t.find? (p.start cwd) = some .directory) (hfits : p.Fits)
    {content : String} (hfile : t.find? (p.place cwd) = some (.file content)) : t.readText cwd p = .ok content := by
  have hlocate := (locate_eq_ok hplain hstart).2 ⟨rfl, hfits, find?_tail (Option.isSome_of_eq_some hfile)⟩
  rw [readText, hlocate]
  dsimp only
  rw [hfile]

/-! ## The empty tree -/

theorem find?_empty {place : Location} (h : place ≠ []) : empty.find? place = none := if_neg h

theorem isFileAt_empty (cwd : Location) (p : Path) : empty.isFileAt cwd p = false := by
  rw [isFileAt, entryAt?]
  cases empty.locate cwd p with
  | error obstacle => rfl
  | ok place =>
    by_cases hplace : place = []
    · rw [hplace]
      rfl
    · dsimp only
      rw [find?_empty hplace]

end FileTree

end GuideSite
