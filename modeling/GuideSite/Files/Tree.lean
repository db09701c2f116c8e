/-!
# File trees

A file tree says which directories there are and what each file holds. A `Location` is the list of names that lead to
a file or directory, the innermost first, so the tail of a location is the directory that holds it; the root is the
empty list. The type keeps the one law of file trees: whatever exists lies in a directory.

* `find?_put`: what a tree holds after something was put into it.
* `find?_removeBelow`: what it holds after something was removed.
-/

namespace GuideSite

/-- The names that lead to a place, the innermost first. -/
abbrev Location := List String

/-- What stands at a place. -/
inductive Entry
  | file (content : String)
  | directory
  deriving DecidableEq, Repr

/-- The entry at a place in a list of entries; the root is always a directory. -/
def lookupEntry (entries : List (Location × Entry)) (place : Location) : Option Entry :=
  if place = [] then some .directory else entries.lookup place

/-- Directories and files, each in a directory. -/
structure FileTree where
  entries : List (Location × Entry)
  closed : ∀ (name : String) (place : Location), (lookupEntry entries (name :: place)).isSome →
    lookupEntry entries place = some .directory

namespace FileTree

/-- The entry at a place. -/
def find? (t : FileTree) (place : Location) : Option Entry := lookupEntry t.entries place

/-- The tree with nothing but its root. -/
def empty : FileTree := ⟨[], fun name place h => by simp [lookupEntry] at h⟩

instance : Inhabited FileTree := ⟨empty⟩

/-- A directory stands at the place. -/
def isDirectory (t : FileTree) (place : Location) : Bool := t.find? place == some .directory

theorem find?_root (t : FileTree) : t.find? [] = some .directory := rfl

/-- Whatever exists lies in a directory. -/
theorem find?_of_isSome_cons (t : FileTree) {name : String} {place : Location} (h : (t.find? (name :: place)).isSome) :
    t.find? place = some .directory :=
  t.closed name place h

/-! ## Putting -/

/-- The entry may be put at the place: it lies in a directory, and no directory becomes a file. -/
def Admits (t : FileTree) (place : Location) (entry : Entry) : Prop :=
  place ≠ [] ∧ t.find? place.tail = some .directory ∧ (t.find? place = some .directory → entry = .directory)

instance (t : FileTree) (place : Location) (entry : Entry) : Decidable (t.Admits place entry) :=
  inferInstanceAs (Decidable (_ ∧ _ ∧ _))

theorem lookupEntry_cons {place q : Location} {entry : Entry} {entries : List (Location × Entry)} (h : place ≠ []) :
    lookupEntry ((place, entry) :: entries) q = if q = place then some entry else lookupEntry entries q := by
  unfold lookupEntry
  by_cases hq : q = []
  · subst hq; simp [Ne.symm h]
  · by_cases hp : q = place
    · simp [hp, h]
    · simp [hq, hp, List.lookup_cons, beq_false_of_ne hp]

/-- The tree with an entry put at a place. -/
def put (t : FileTree) (place : Location) (entry : Entry) (h : t.Admits place entry) : FileTree :=
  ⟨(place, entry) :: t.entries, fun name q hq => by
    obtain ⟨hne, hparent, hkeep⟩ := h
    rw [lookupEntry_cons hne] at hq ⊢
    by_cases e : q = place
    · subst e
      rw [if_pos rfl]
      have hself : name :: q ≠ q := fun e => by simpa using congrArg List.length e
      rw [if_neg hself] at hq
      rw [hkeep (t.closed name q hq)]
    · rw [if_neg e]
      by_cases e' : name :: q = place
      · subst e'; exact hparent
      · rw [if_neg e'] at hq
        exact t.closed name q hq⟩

/-- Only the place itself has a new entry. -/
theorem find?_put (t : FileTree) {place : Location} {entry : Entry} (h : t.Admits place entry) (q : Location) :
    (t.put place entry h).find? q = if q = place then some entry else t.find? q :=
  lookupEntry_cons h.1

/-! ## Removing -/

/-- The place is the other one or lies below it. -/
def isWithin (place outer : Location) : Bool := outer.isSuffixOf place

theorem lookup_filter_isWithin (outer q : Location) (entries : List (Location × Entry)) :
    (entries.filter fun e => !isWithin e.1 outer).lookup q = if isWithin q outer then none else entries.lookup q := by
  induction entries with
  | nil => simp
  | cons e es ih =>
    obtain ⟨p, v⟩ := e
    rw [List.filter_cons]
    by_cases hp : isWithin p outer
    · by_cases hq : q = p
      · subst hq; simp [hp, ih]
      · simp [hp, ih, List.lookup_cons, beq_false_of_ne hq]
    · by_cases hq : q = p
      · subst hq; simp [hp]
      · simp [hp, ih, List.lookup_cons, beq_false_of_ne hq]

theorem isWithin_cons {name : String} {q outer : Location} (h : isWithin q outer = true) :
    isWithin (name :: q) outer = true := by
  unfold isWithin at *
  rw [List.isSuffixOf_iff_suffix] at *
  exact h.trans (List.suffix_cons name q)

theorem isWithin_nil {outer : Location} (h : outer ≠ []) : isWithin [] outer = false := by
  unfold isWithin
  rw [Bool.eq_false_iff, Ne, List.isSuffixOf_iff_suffix, List.suffix_nil]
  exact h

theorem lookupEntry_filter (outer q : Location) (entries : List (Location × Entry)) (h : outer ≠ []) :
    lookupEntry (entries.filter fun e => !isWithin e.1 outer) q =
      if isWithin q outer then none else lookupEntry entries q := by
  unfold lookupEntry
  by_cases hq : q = []
  · subst hq; simp [isWithin_nil h]
  · simp only [hq, if_false, lookup_filter_isWithin]

/-- The tree without a place and everything below it. The root cannot be removed. -/
def removeBelow (t : FileTree) (outer : Location) (h : outer ≠ []) : FileTree :=
  ⟨t.entries.filter fun e => !isWithin e.1 outer, fun name q hq => by
    rw [lookupEntry_filter _ _ _ h] at hq ⊢
    by_cases e : isWithin (name :: q) outer = true
    · simp [e] at hq
    · rw [if_neg e] at hq
      rw [if_neg fun e' => e (isWithin_cons e')]
      exact t.closed name q hq⟩

/-- Everything else stays. -/
theorem find?_removeBelow (t : FileTree) {outer : Location} (h : outer ≠ []) (q : Location) :
    (t.removeBelow outer h).find? q = if isWithin q outer then none else t.find? q :=
  lookupEntry_filter outer q t.entries h

/-! ## Listing -/

/-- The places that have an entry, each once. -/
def places (t : FileTree) : List Location := (t.entries.map Prod.fst).eraseDups

end FileTree

end GuideSite
