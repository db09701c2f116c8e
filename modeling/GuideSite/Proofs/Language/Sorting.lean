import GuideSite.Language

/-!
# Sorted languages

Whatever the configured order repeats or leaves out, `precedes` is a total order that keeps different codes apart: two
codes of one rank differ by their code points. So a list of codes is sorted in one way only.

* `precedes_trans`, `precedes_total`, `precedes_antisymm`: the order of the codes.
* `sort_eq_of_perm`: sorting forgets the order in which the codes were given.
-/

namespace GuideSite.Language

theorem precedes_iff {order : List String} {a b : String} :
    precedes order a b = true ↔ rank order a < rank order b ∨ rank order a = rank order b ∧ a ≤ b := by
  simp [precedes]

theorem precedes_trans (order : List String) (a b c : String) (hab : precedes order a b = true)
    (hbc : precedes order b c = true) : precedes order a c = true := by
  rw [precedes_iff] at hab hbc ⊢
  rcases hab with hab | ⟨hab, hab'⟩
  · left
    omega
  · rcases hbc with hbc | ⟨hbc, hbc'⟩
    · left
      omega
    · exact .inr ⟨hab.trans hbc, String.le_trans hab' hbc'⟩

theorem precedes_total (order : List String) (a b : String) : (precedes order a b || precedes order b a) = true := by
  rw [Bool.or_eq_true, precedes_iff, precedes_iff]
  rcases Nat.lt_trichotomy (rank order a) (rank order b) with hlt | heq | hgt
  · exact .inl (.inl hlt)
  · exact (String.le_total a b).imp (fun h => .inr ⟨heq, h⟩) (fun h => .inr ⟨heq.symm, h⟩)
  · exact .inr (.inl hgt)

/-- Different codes are kept apart, also those of one rank. -/
theorem precedes_antisymm {order : List String} {a b : String} (hab : precedes order a b = true)
    (hba : precedes order b a = true) : a = b := by
  rw [precedes_iff] at hab hba
  have hrank : rank order a = rank order b := by
    rcases hab with hab | ⟨hab, -⟩
    · rcases hba with hba | ⟨hba, -⟩ <;> omega
    · exact hab
  exact String.le_antisymm (hab.resolve_left (by omega)).2 (hba.resolve_left (by omega)).2

/-! ## Sorting -/

theorem sort_perm (order codes : List String) : (sort order codes).Perm codes := List.mergeSort_perm _ _

theorem pairwise_sort (order codes : List String) :
    (sort order codes).Pairwise fun a b => precedes order a b = true :=
  List.pairwise_mergeSort (precedes_trans order) (precedes_total order) codes

/-- Sorting forgets the order in which the codes were given. -/
theorem sort_eq_of_perm (order : List String) {codes codes' : List String} (h : codes.Perm codes') :
    sort order codes = sort order codes' := by
  apply List.Perm.eq_of_pairwise (fun a b _ _ => precedes_antisymm) (pairwise_sort order codes)
    (pairwise_sort order codes')
  exact (sort_perm order codes).trans (h.trans (sort_perm order codes').symm)

end GuideSite.Language
