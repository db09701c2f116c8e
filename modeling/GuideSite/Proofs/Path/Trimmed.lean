import GuideSite.Path.Basic
import GuideSite.Proofs.Text.Trimming

/-!
# The paths of trimmed texts

What a text loses when it is trimmed shows in the path that it writes: blanks may go from its first name, and slashes
take its anchor but none of its names.

* `segments_dropBlanks`: the segments of a text without the blanks it starts with.
* `names_dropSlashes`, `anchorOf_dropSlashes`: the path of a text without the slashes it starts with.
-/

namespace GuideSite.Path

/-! ## Segments -/

/-- Only the first segment loses blanks. -/
theorem segments_dropBlanks (s : String) : segments (Text.dropBlanks s) = (segments s).modifyHead Text.dropBlanks := by
  have hslash : Text.isBlank '/' = false := by decide
  rw [segments, Text.dropBlanks, String.toList_ofList, Text.splitOn_dropWhile hslash, segments]
  cases s.toList.splitOn '/' <;> simp [Text.dropBlanks]

/-- No name is lost with slashes. -/
theorem filter_isName_segments_dropSlashes (s : String) :
    (segments (Text.dropSlashes s)).filter isName = (segments s).filter isName := by
  simp only [segments, Text.dropSlashes, String.toList_ofList]
  induction s.toList with
  | nil => rfl
  | cons c cs ih =>
    by_cases hc : c = '/'
    · subst hc
      rw [List.dropWhile_cons_of_pos (by simp), ih, List.splitOn_cons_eq_if_modifyHead]
      rfl
    · rw [List.dropWhile_cons_of_neg (by simp [hc])]

theorem names_dropSlashes (s : String) : (parse (Text.dropSlashes s)).names = (parse s).names :=
  filter_isName_segments_dropSlashes s

/-- No name leads upwards if no segment does. -/
theorem not_mem_names_of_segments {s : String} (h : ".." ∉ segments s) : ".." ∉ (parse s).names :=
  fun hmem => h (List.mem_of_mem_filter hmem)

/-! ## Anchors -/

/-- A text writes a relative path unless a slash is before it. -/
theorem anchorOf_eq_relative {s : String} : anchorOf s = .relative ↔ s.toList.head? ≠ some '/' := by
  rw [ne_eq, List.head?_eq_some_iff]
  unfold anchorOf
  split <;> simp_all

theorem anchorOf_dropSlashes (s : String) : anchorOf (Text.dropSlashes s) = .relative :=
  anchorOf_eq_relative.2 (Text.head?_dropSlashes s)

/-- A text that writes a relative path has no slash to lose. -/
theorem dropSlashes_of_relative {s : String} (h : anchorOf s = .relative) : Text.dropSlashes s = s := by
  rw [Text.dropSlashes, List.dropWhile_beq_eq_self_of_head?_ne (anchorOf_eq_relative.1 h), String.ofList_toList]

end GuideSite.Path
