/-!
# Sets of names

A `NameSet` is a finite set of names, kept as the strictly increasing list of its members. Equal sets are equal values,
whatever the order in which names were put in (`NameSet.ext`).

* `mem_insert`, `mem_ofList`: what a set holds after its construction.
* `ext`: two sets with the same members are the same.
-/

namespace GuideSite

/-- A finite set of names, in the order of their code points and without repetition. -/
structure NameSet where
  toList : List String
  ordered : toList.Pairwise (· < ·)
  deriving DecidableEq

namespace NameSet

/-- The set without a member. -/
def empty : NameSet := ⟨[], .nil⟩

instance : EmptyCollection NameSet := ⟨empty⟩

instance : Inhabited NameSet := ⟨empty⟩

instance : Membership String NameSet := ⟨fun s name => name ∈ s.toList⟩

instance (name : String) (s : NameSet) : Decidable (name ∈ s) :=
  inferInstanceAs (Decidable (name ∈ s.toList))

theorem mem_toList {name : String} {s : NameSet} : name ∈ s.toList ↔ name ∈ s := Iff.rfl

/-- The name is in the set. -/
def contains (s : NameSet) (name : String) : Bool := decide (name ∈ s)

/-- Some name of the list is in the set. -/
def meets (s : NameSet) (names : List String) : Bool := names.any s.contains

/-! ## Insertion -/

/-- The name put in its place in an increasing list, unless it is there. -/
def insertName (name : String) : List String → List String
  | [] => [name]
  | m :: ms => if name < m then name :: m :: ms else if name = m then m :: ms else m :: insertName name ms

theorem mem_insertName {a name : String} {ms : List String} : a ∈ insertName name ms ↔ a = name ∨ a ∈ ms := by
  induction ms with
  | nil => simp [insertName]
  | cons m ms ih =>
    unfold insertName
    split
    · simp
    · split
      · rename_i h; simp [h]
      · simp only [List.mem_cons, ih]
        exact ⟨fun h => by rcases h with h | h | h <;> simp [h], fun h => by rcases h with h | h | h <;> simp [h]⟩

theorem pairwise_insertName {name : String} {ms : List String} (h : ms.Pairwise (· < ·)) :
    (insertName name ms).Pairwise (· < ·) := by
  induction ms with
  | nil => simp [insertName]
  | cons m ms ih =>
    obtain ⟨hm, hms⟩ := List.pairwise_cons.1 h
    unfold insertName
    split
    · rename_i hlt
      refine List.pairwise_cons.2 ⟨fun a ha => ?_, h⟩
      rcases List.mem_cons.1 ha with rfl | ha
      · exact hlt
      · exact String.lt_trans hlt (hm a ha)
    · split
      · exact h
      · rename_i hnlt hne
        refine List.pairwise_cons.2 ⟨fun a ha => ?_, ih hms⟩
        rcases mem_insertName.1 ha with rfl | ha
        · exact Decidable.byContradiction fun hn => hne (Std.Trichotomous.trichotomous a m hnlt hn)
        · exact hm a ha

/-- The set with one more member. -/
def insert (name : String) (s : NameSet) : NameSet :=
  ⟨insertName name s.toList, pairwise_insertName s.ordered⟩

@[simp]
theorem mem_insert {a name : String} {s : NameSet} : a ∈ s.insert name ↔ a = name ∨ a ∈ s :=
  mem_insertName

/-- The set of the names in a list. -/
def ofList (names : List String) : NameSet :=
  names.foldr insert empty

@[simp]
theorem mem_ofList {a : String} {names : List String} : a ∈ ofList names ↔ a ∈ names := by
  induction names with
  | nil => exact iff_of_false (List.not_mem_nil (a := a)) List.not_mem_nil
  | cons n ns ih => rw [List.mem_cons, ← ih]; exact mem_insert

theorem meets_eq_true {s : NameSet} {names : List String} : s.meets names = true ↔ ∃ name ∈ names, name ∈ s := by
  simp [meets, contains]

/-! ## Equality -/

/-- Increasing lists with the same members are equal. -/
theorem eq_of_mem_iff : ∀ {xs ys : List String}, xs.Pairwise (· < ·) → ys.Pairwise (· < ·) →
    (∀ a, a ∈ xs ↔ a ∈ ys) → xs = ys
  | [], [], _, _, _ => rfl
  | [], y :: ys, _, _, h => absurd ((h y).2 (List.mem_cons_self)) List.not_mem_nil
  | x :: xs, [], _, _, h => absurd ((h x).1 (List.mem_cons_self)) List.not_mem_nil
  | x :: xs, y :: ys, hx, hy, h => by
    obtain ⟨hx', hxs⟩ := List.pairwise_cons.1 hx
    obtain ⟨hy', hys⟩ := List.pairwise_cons.1 hy
    have hxy : x = y := by
      rcases List.mem_cons.1 ((h x).1 List.mem_cons_self) with e | m
      · exact e
      · rcases List.mem_cons.1 ((h y).2 List.mem_cons_self) with e | m'
        · exact e.symm
        · exact absurd (String.lt_trans (hx' y m') (hy' x m)) (String.lt_irrefl x)
    subst hxy
    have tails : ∀ a, a ∈ xs ↔ a ∈ ys := fun a =>
      ⟨fun m => (List.mem_cons.1 ((h a).1 (List.mem_cons_of_mem x m))).resolve_left
          fun e => String.lt_irrefl x (e ▸ hx' a m),
        fun m => (List.mem_cons.1 ((h a).2 (List.mem_cons_of_mem x m))).resolve_left
          fun e => String.lt_irrefl x (e ▸ hy' a m)⟩
    rw [eq_of_mem_iff hxs hys tails]

/-- Two sets with the same members are the same. -/
@[ext]
theorem ext {s t : NameSet} (h : ∀ a, a ∈ s ↔ a ∈ t) : s = t := by
  cases s; cases t
  rw [mk.injEq]
  exact eq_of_mem_iff ‹_› ‹_› h

end NameSet

end GuideSite
