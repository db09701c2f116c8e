import GuideSite.Proofs.Path.Trimmed

/-!
# Paths read back from their texts

A path is written with slashes between its names, and a text is read at its slashes. So nothing is lost when a path is
written and read, if each of its names is a segment of its own: it names something and holds no slash. The names of a
path that was read are of this kind, and so are those of what is made from such paths.

* `areNames_parse`: the names of a path that was read.
* `segments_intercalate`: names with slashes between them are found again.
* `parse_text`: so is the whole path.
-/

namespace GuideSite.Path

variable {names others : List String} {s segment : String} {p : Path}

/-! ## Names -/

theorem isName_eq_false_iff : isName segment = false ↔ segment = "" ∨ segment = "." := by
  simp [isName, imp_iff_not_or]

theorem isName_iff : isName segment = true ↔ ¬(segment = "" ∨ segment = ".") := by
  rw [← isName_eq_false_iff, Bool.not_eq_false]

/-- Each of them is a segment of its own: it names something and holds no slash. -/
def AreNames (names : List String) : Prop :=
  ∀ name ∈ names, isName name = true ∧ '/' ∉ name.toList

instance (names : List String) : Decidable (AreNames names) :=
  inferInstanceAs (Decidable (∀ name ∈ names, isName name = true ∧ '/' ∉ name.toList))

theorem areNames_nil : AreNames [] := List.forall_mem_nil _

theorem AreNames.of_subset (h : AreNames names) (hsub : others ⊆ names) : AreNames others :=
  fun name hmem => h name (hsub hmem)

theorem AreNames.cons {name : String} (h : AreNames names) (hname : isName name = true) (hslash : '/' ∉ name.toList) :
    AreNames (name :: names) :=
  List.forall_mem_cons.2 ⟨⟨hname, hslash⟩, h⟩

theorem AreNames.append (h : AreNames names) (hothers : AreNames others) : AreNames (names ++ others) :=
  List.forall_mem_append.2 ⟨h, hothers⟩

theorem not_mem_of_mem_segments (h : segment ∈ segments s) : '/' ∉ segment.toList := by
  obtain ⟨part, hpart, rfl⟩ := List.mem_map.1 h
  rw [String.toList_ofList]
  intro hslash
  have hnot := Text.eq_false_of_mem_splitOnP hpart '/' hslash
  simp at hnot

/-- The names of a path that was read. -/
theorem areNames_parse (s : String) : AreNames (parse s).names := by
  intro name hmem
  obtain ⟨hsegment, hname⟩ := List.mem_filter.1 hmem
  exact ⟨hname, not_mem_of_mem_segments hsegment⟩

/-- One path after another has the names of the two, or of the second alone. -/
theorem AreNames.join {q : Path} (hp : AreNames p.names) (hq : AreNames q.names) : AreNames (p / q).names := by
  change AreNames (Path.join p q).names
  rw [Path.join]
  split
  · exact hq
  · exact hp.append hq

/-! ## Names in texts -/

/-- Names with slashes between them are found again. -/
theorem segments_intercalate (h : AreNames names) (hne : names ≠ []) :
    segments (String.intercalate "/" names) = names := by
  have hslash : ∀ part ∈ names.map String.toList, '/' ∉ part := by
    intro part hpart
    obtain ⟨name, hmem, rfl⟩ := List.mem_map.1 hpart
    exact (h name hmem).2
  rw [segments, String.toList_intercalate, show "/".toList = ['/'] from rfl,
    List.splitOn_intercalate '/' hslash (by simpa using hne), List.map_map]
  simp [Function.comp_def]

theorem filter_segments_intercalate (h : AreNames names) :
    (segments (String.intercalate "/" names)).filter isName = names := by
  by_cases hne : names = []
  · rw [hne]
    decide
  · rw [segments_intercalate h hne]
    exact List.filter_eq_self.2 fun name hmem => (h name hmem).1

/-- No segment between two slashes is lost. -/
theorem empty_not_mem_segments (h : AreNames names) (hne : names ≠ []) :
    "" ∉ segments (String.intercalate "/" names) := by
  rw [segments_intercalate h hne]
  exact fun hempty => absurd (h "" hempty).1 (by decide)

/-- Names with slashes between them have no slash before them. -/
theorem head?_intercalate (h : AreNames names) : (String.intercalate "/" names).toList.head? ≠ some '/' := by
  intro hhead
  obtain ⟨rest, htext⟩ := List.head?_eq_some_iff.1 hhead
  have hne : names ≠ [] := by
    rintro rfl
    cases htext
  refine empty_not_mem_segments h hne ?_
  rw [segments, htext, List.splitOn_cons_eq_if_modifyHead]
  simp

/-- Names with slashes between them have no slash after them. -/
theorem getLast?_intercalate (h : AreNames names) : (String.intercalate "/" names).toList.getLast? ≠ some '/' := by
  intro hlast
  obtain ⟨before, htext⟩ := List.getLast?_eq_some_iff.1 hlast
  have hne : names ≠ [] := by
    rintro rfl
    simp at htext
  refine empty_not_mem_segments h hne ?_
  rw [segments, htext, List.splitOn_append_cons_self]
  simp

/-! ## Anchors in texts -/

theorem dropSlashes_anchor (a : Anchor) (s : String) : Text.dropSlashes (a.text ++ s) = Text.dropSlashes s := by
  rw [Text.dropSlashes, String.toList_append]
  cases a <;> rfl

/-- An anchor adds no names. -/
theorem filter_segments_anchor (a : Anchor) (s : String) :
    (segments (a.text ++ s)).filter isName = (segments s).filter isName := by
  rw [← filter_isName_segments_dropSlashes, dropSlashes_anchor, filter_isName_segments_dropSlashes]

/-- An anchor is read again if no slash follows it. -/
theorem anchorOf_append (a : Anchor) (h : s.toList.head? ≠ some '/') : anchorOf (a.text ++ s) = a := by
  rw [anchorOf, String.toList_append]
  cases hs : s.toList with
  | nil => cases a <;> rfl
  | cons c rest =>
    have hc : c ≠ '/' := by simpa [hs] using h
    cases a <;> simp [Anchor.text, hc]

/-- A path that was written is read again. -/
theorem parse_text (h : AreNames p.names) : parse p.text = p := by
  rw [text]
  split
  · rename_i hplace
    obtain ⟨hanchor, hnames⟩ := hplace
    calc parse "." = ⟨.relative, []⟩ := by decide
      _ = p := by rw [← hanchor, ← hnames]
  · rw [parse, anchorOf_append _ (head?_intercalate h), filter_segments_anchor, filter_segments_intercalate h]

end GuideSite.Path
