import GuideSite.Text.Blank
import Mathlib.Data.List.DropRight

/-!
# Trimmed texts

A text that was stripped, and then lost the slashes before it, ends in a character that is no blank; stripping it once
more takes away only what it starts with. What a text starts with concerns the first part of it between separators
alone.

* `strip_eq_dropBlanks`: stripping a text that ends in no blank drops the blanks it starts with.
* `isTrimmed_strip`, `isTrimmed_of_mem_words`: texts that have nothing to trim.
* `splitOn_append_of_not_mem`, `splitOn_dropWhile`: splitting, after something was put before a text or dropped from it.
-/

namespace GuideSite.Text

/-! ## Parts between separators -/

/-- What holds no separator goes to the first part. -/
theorem splitOn_append_of_not_mem {x : Char} {w : List Char} (h : x ∉ w) (cs : List Char) :
    (w ++ cs).splitOn x = (cs.splitOn x).modifyHead (w ++ ·) := by
  induction w with
  | nil =>
    rw [List.nil_append]
    cases cs.splitOn x <;> rfl
  | cons c w ih =>
    obtain ⟨hc, hw⟩ := List.ne_and_not_mem_of_not_mem_cons h
    rw [List.cons_append, List.splitOn_cons_eq_if_modifyHead, beq_false_of_ne (Ne.symm hc), ih hw]
    simp [List.modifyHead_modifyHead, Function.comp_def]

/-- Dropping characters that are no separator concerns the first part. -/
theorem splitOn_dropWhile {x : Char} {p : Char → Bool} (hx : p x = false) (cs : List Char) :
    (cs.dropWhile p).splitOn x = (cs.splitOn x).modifyHead (List.dropWhile p) := by
  induction cs with
  | nil => rfl
  | cons c cs ih =>
    cases hc : p c with
    | true =>
      have hne : c ≠ x := fun e => by simp [e, hx] at hc
      rw [List.dropWhile_cons_of_pos hc, ih, List.splitOn_cons_eq_if_modifyHead, beq_false_of_ne hne,
        if_neg Bool.false_ne_true, List.modifyHead_modifyHead]
      congr 1
      funext part
      exact (List.dropWhile_cons_of_pos hc).symm
    | false =>
      rw [List.dropWhile_cons_of_neg (by simp [hc]), List.splitOn_cons_eq_if_modifyHead]
      split
      · rfl
      · rw [List.modifyHead_modifyHead]
        congr 1
        funext part
        exact (List.dropWhile_cons_of_neg (by simp [hc])).symm

/-- The parts between separators hold none. -/
theorem eq_false_of_mem_splitOnP {p : Char → Bool} {cs part : List Char} (h : part ∈ cs.splitOnP p) :
    ∀ c ∈ part, p c = false := by
  induction cs generalizing part with
  | nil =>
    obtain rfl := List.mem_singleton.1 h
    exact nofun
  | cons c cs ih =>
    rw [List.splitOnP_cons_eq_if_modifyHead] at h
    split at h
    · obtain rfl | h := List.mem_cons.1 h
      · exact nofun
      · exact ih h
    · rename_i hc
      cases hparts : cs.splitOnP p with
      | nil => simp [hparts] at h
      | cons first others =>
        rw [hparts] at h ih
        obtain rfl | h := List.mem_cons.1 h
        · exact List.forall_mem_cons.2 ⟨Bool.eq_false_iff.2 hc, ih List.mem_cons_self⟩
        · exact ih (List.mem_cons_of_mem _ h)

/-! ## Ends -/

/-- The text without the blanks it starts with. -/
def dropBlanks (s : String) : String :=
  String.ofList (s.toList.dropWhile isBlank)

/-- The last character of a text, if there is one, is no blank. -/
def EndsPlain (s : String) : Prop :=
  ∀ h : s.toList ≠ [], isBlank (s.toList.getLast h) = false

instance (s : String) : Decidable (EndsPlain s) := inferInstanceAs (Decidable (∀ _ : s.toList ≠ [], _))

theorem endsPlain_strip (s : String) : EndsPlain (strip s) := by
  intro h
  rw [Bool.eq_false_iff]
  simp only [strip, String.toList_ofList] at h ⊢
  exact List.rdropWhile_last_not isBlank (s.toList.dropWhile isBlank) h

theorem EndsPlain.dropSlashes {s : String} (h : EndsPlain s) : EndsPlain (dropSlashes s) := by
  intro hne
  simp only [Text.dropSlashes, String.toList_ofList] at hne ⊢
  have hsuffix : s.toList.dropWhile (· == '/') <:+ s.toList := List.dropWhile_suffix _
  rw [hsuffix.getLast hne]
  exact h (hsuffix.ne_nil hne)

/-- Only the blanks before a text that ends in no blank are left to strip. -/
theorem strip_eq_dropBlanks {s : String} (h : EndsPlain s) : strip s = dropBlanks s := by
  have hsuffix : s.toList.dropWhile isBlank <:+ s.toList := List.dropWhile_suffix _
  have hlast : (s.toList.dropWhile isBlank).rdropWhile isBlank = s.toList.dropWhile isBlank :=
    List.rdropWhile_eq_self_iff.2 fun hne => by
      rw [hsuffix.getLast hne, h (hsuffix.ne_nil hne)]
      exact Bool.false_ne_true
  exact congrArg String.ofList hlast

/-- No slash is left before a text. -/
theorem head?_dropSlashes (s : String) : (dropSlashes s).toList.head? ≠ some '/' := by
  intro h
  have hnot := List.head?_dropWhile_not (· == '/') s.toList
  rw [dropSlashes, String.toList_ofList] at h
  rw [h] at hnot
  simp at hnot

/-! ## Trimmed texts -/

/-- The first character of a text, if there is one, is no blank. -/
def StartsPlain (s : String) : Prop :=
  ∀ h : s.toList ≠ [], isBlank (s.toList.head h) = false

instance (s : String) : Decidable (StartsPlain s) := inferInstanceAs (Decidable (∀ _ : s.toList ≠ [], _))

/-- The text has characters, and neither the first nor the last of them is a blank. -/
structure IsTrimmed (s : String) : Prop where
  ne_empty : s ≠ ""
  starts : StartsPlain s
  ends : EndsPlain s

instance (s : String) : Decidable (IsTrimmed s) :=
  decidable_of_iff (s ≠ "" ∧ (∀ h : s.toList ≠ [], isBlank (s.toList.head h) = false) ∧
      ∀ h : s.toList ≠ [], isBlank (s.toList.getLast h) = false)
    ⟨fun ⟨h₁, h₂, h₃⟩ => ⟨h₁, h₂, h₃⟩, fun ⟨h₁, h₂, h₃⟩ => ⟨h₁, h₂, h₃⟩⟩

theorem startsPlain_strip (s : String) : StartsPlain (strip s) := by
  intro h
  -- The first character that is left stood first before the blanks at the end were stripped.
  have hinit : stripChars s.toList <+: s.toList.dropWhile isBlank := List.rdropWhile_prefix isBlank _
  simp only [strip, String.toList_ofList] at h ⊢
  rw [hinit.head h]
  exact List.head_dropWhile_not isBlank _

theorem isTrimmed_strip {s : String} (h : strip s ≠ "") : IsTrimmed (strip s) :=
  ⟨h, startsPlain_strip s, endsPlain_strip s⟩

/-- A trimmed text has nothing to strip. -/
theorem IsTrimmed.strip_eq {s : String} (h : IsTrimmed s) : strip s = s := by
  have hblanks : s.toList.dropWhile isBlank = s.toList := by
    rw [List.dropWhile_eq_self_iff]
    intro hlength
    have hfirst := h.starts (List.ne_nil_of_length_pos hlength)
    rw [List.head_eq_getElem] at hfirst
    simp [hfirst]
  rw [strip_eq_dropBlanks h.ends, dropBlanks, hblanks, String.ofList_toList]

/-- A text has nothing to strip just if it neither starts nor ends with a blank. -/
theorem strip_eq_self_iff {s : String} : strip s = s ↔ StartsPlain s ∧ EndsPlain s := by
  constructor
  · intro h
    rw [← h]
    exact ⟨startsPlain_strip s, endsPlain_strip s⟩
  · rintro ⟨hstarts, hends⟩
    by_cases h : s = ""
    · rw [h]
      rfl
    · exact IsTrimmed.strip_eq ⟨h, hstarts, hends⟩

theorem StartsPlain.append {s t : String} (hs : StartsPlain s) (ht : StartsPlain t) : StartsPlain (s ++ t) := by
  intro h
  simp only [String.toList_append] at h ⊢
  by_cases hnil : s.toList = []
  · have htail : t.toList ≠ [] := by simpa [hnil] using h
    simpa [hnil] using ht htail
  · rw [List.head_append_of_ne_nil hnil]
    exact hs hnil

theorem EndsPlain.append {s t : String} (hs : EndsPlain s) (ht : EndsPlain t) : EndsPlain (s ++ t) := by
  intro h
  simp only [String.toList_append] at h ⊢
  by_cases hnil : t.toList = []
  · have hinit : s.toList ≠ [] := by simpa [hnil] using h
    simpa [hnil] using hs hinit
  · rw [List.getLast_append_of_ne_nil h hnil]
    exact ht hnil

/-- Characters that are no blanks make a trimmed text. -/
theorem isTrimmed_of_forall {s : String} (hne : s ≠ "") (hplain : ∀ c ∈ s.toList, isBlank c = false) : IsTrimmed s :=
  ⟨hne, fun h => hplain _ (List.head_mem h), fun h => hplain _ (List.getLast_mem h)⟩

theorem isTrimmed_of_mem_words {s word : String} (h : word ∈ words s) : IsTrimmed word := by
  obtain ⟨part, hpart, rfl⟩ := List.mem_map.1 h
  obtain ⟨hmem, hne⟩ := List.mem_filter.1 hpart
  refine isTrimmed_of_forall (fun hempty => of_decide_eq_true hne (String.ofList_eq_empty_iff.1 hempty)) ?_
  rw [String.toList_ofList]
  exact eq_false_of_mem_splitOnP hmem

end GuideSite.Text
