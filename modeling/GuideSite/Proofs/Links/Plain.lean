import GuideSite.Links.Directory
import GuideSite.Proofs.Path.Plain
import GuideSite.Url.Basic

/-!
# Plain links

A plain link is a plain path, with the name of a place in the file after it or without. The check of a directory cuts
this name off and looks up the path; a request keeps it.

* `IsPlainLink`: plain links.
* `withoutFragment_plain`: the path that the check of a directory looks up.
-/

namespace GuideSite.Links

/-- A plain path, and after it perhaps the name of a place in the file. -/
def IsPlainLink (link : String) : Prop :=
  ∃ (path : String) (fragment : List Char), Path.IsPlainPath path ∧ (∀ c ∈ fragment, Path.isPlainChar c = true) ∧
    link = path ++ String.ofList (Url.part '#' fragment)

theorem isPlainLink_of_isPlainPath {path : String} (h : Path.IsPlainPath path) : IsPlainLink path :=
  ⟨path, [], h, nofun, String.append_empty.symm⟩

/-- What comes before a link stays before it when the name of a place is cut off. -/
theorem withoutFragment_append {s : String} (h : '#' ∉ s.toList) (link : String) :
    withoutFragment (s ++ link) = s ++ withoutFragment link := by
  have hall : ∀ c ∈ s.toList, decide (c ≠ '#') = true := fun c hmem => decide_eq_true fun heq => h (heq ▸ hmem)
  rw [withoutFragment, String.toList_append, List.takeWhile_append_of_pos hall, String.ofList_append,
    String.ofList_toList, withoutFragment]

theorem withoutFragment_part (fragment : List Char) : withoutFragment (String.ofList (Url.part '#' fragment)) = "" := by
  rw [withoutFragment, String.toList_ofList, Url.part]
  split <;> simp

/-- The path of a plain link is what is left without the name of a place. -/
theorem withoutFragment_plain {path : String} (h : Path.IsPlainPath path) (fragment : List Char) :
    withoutFragment (path ++ String.ofList (Url.part '#' fragment)) = path := by
  rw [withoutFragment_append (h.not_mem (by decide) (by decide)), withoutFragment_part, String.append_empty]

theorem withoutFragment_of_isPlainPath {path : String} (h : Path.IsPlainPath path) : withoutFragment path = path := by
  have hplain := withoutFragment_plain h []
  rw [Url.part, if_pos rfl, String.ofList_nil, String.append_empty] at hplain
  exact hplain

end GuideSite.Links
