import GuideSite.Proofs.Path.Depth

/-!
# Plain paths

The segments of a plain path are letters, digits and a few signs, and each of them names something below the one before.
Such a path reads the same wherever it stands: nothing of it is trimmed, dropped or resolved.

* `names_of_isPlainPath`: the names of a plain path are its segments.
* `toRoot_of_isPlainPath`: the steps from a page with a plain path.
-/

namespace GuideSite.Path

/-! ## Characters -/

/-- A letter, a digit, or one of three signs. Beyond ASCII every character counts that is no blank. -/
def isPlainChar (c : Char) : Bool :=
  if c.toNat < 0x80 then c.isAlphanum || c == '-' || c == '_' || c == '.' else !Text.isBlank c

/-- What holds of the characters below a number can be checked for one after the other. -/
theorem forall_char_lt {P : Char → Prop} {bound : Nat} (h : ∀ n < bound, P (Char.ofNat n)) {c : Char}
    (hc : c.toNat < bound) : P c := by
  have hchar := h c.toNat hc
  rwa [Char.ofNat_toNat] at hchar

theorem isBlank_of_isPlainChar {c : Char} (h : isPlainChar c = true) : Text.isBlank c = false := by
  by_cases hascii : c.toNat < 0x80
  · have hall : isPlainChar c = true → Text.isBlank c = false :=
      forall_char_lt (P := fun c => isPlainChar c = true → Text.isBlank c = false) (by decide) hascii
    exact hall h
  · rw [isPlainChar, if_neg hascii] at h
    simpa using h

theorem ne_of_isPlainChar {c d : Char} (h : isPlainChar c = true) (hd : isPlainChar d = false) : c ≠ d := by
  rintro rfl
  rw [h] at hd
  cases hd

/-- A slash, or a character of a plain path. -/
def IsPathChar (c : Char) : Prop := c = '/' ∨ isPlainChar c = true

/-- A delimiter is not among the characters of a path. -/
theorem not_mem_of_isPathChar {cs : List Char} (h : ∀ c ∈ cs, IsPathChar c) {d : Char} (hd : isPlainChar d = false)
    (hslash : d ≠ '/') : d ∉ cs := by
  intro hmem
  obtain heq | hplain := h d hmem
  · exact hslash heq
  · exact ne_of_isPlainChar hplain hd rfl

/-! ## Segments -/

/-- A segment that names something below the one before. -/
structure IsPlainSegment (cs : List Char) : Prop where
  ne_nil : cs ≠ []
  ne_here : cs ≠ ['.']
  ne_up : cs ≠ ['.', '.']
  plain : ∀ c ∈ cs, isPlainChar c = true

instance (cs : List Char) : Decidable (IsPlainSegment cs) :=
  decidable_of_iff (cs ≠ [] ∧ cs ≠ ['.'] ∧ cs ≠ ['.', '.'] ∧ cs.all isPlainChar = true)
    ⟨fun ⟨h₁, h₂, h₃, h₄⟩ => ⟨h₁, h₂, h₃, List.all_eq_true.1 h₄⟩,
      fun ⟨h₁, h₂, h₃, h₄⟩ => ⟨h₁, h₂, h₃, List.all_eq_true.2 h₄⟩⟩

/-- Segments with slashes between them, each of which names something below the one before. -/
def IsPlainPath (s : String) : Prop := ∀ segment ∈ s.toList.splitOn '/', IsPlainSegment segment

instance (s : String) : Decidable (IsPlainPath s) :=
  inferInstanceAs (Decidable (∀ segment ∈ s.toList.splitOn '/', _))

/-- Every character is a separator or stands between two. -/
theorem exists_mem_splitOn {x c : Char} {cs : List Char} (h : c ∈ cs) : c = x ∨ ∃ part ∈ cs.splitOn x, c ∈ part := by
  induction cs with
  | nil => cases h
  | cons d cs ih =>
    rw [List.splitOn_cons_eq_if_modifyHead]
    split
    · rename_i hd
      obtain rfl | h := List.mem_cons.1 h
      · exact .inl (eq_of_beq hd)
      · obtain heq | ⟨part, hpart, hc⟩ := ih h
        · exact .inl heq
        · exact .inr ⟨part, List.mem_cons_of_mem _ hpart, hc⟩
    · cases hparts : cs.splitOn x with
      | nil => exact absurd hparts (List.splitOn_ne_nil x cs)
      | cons first others =>
        rw [hparts] at ih
        rw [List.modifyHead_cons]
        obtain rfl | h := List.mem_cons.1 h
        · exact .inr ⟨c :: first, List.mem_cons_self, List.mem_cons_self⟩
        · obtain heq | ⟨part, hpart, hc⟩ := ih h
          · exact .inl heq
          · obtain rfl | hpart := List.mem_cons.1 hpart
            · exact .inr ⟨d :: part, List.mem_cons_self, List.mem_cons_of_mem _ hc⟩
            · exact .inr ⟨part, List.mem_cons_of_mem _ hpart, hc⟩

section Plain

variable {s : String} (h : IsPlainPath s)

include h

theorem IsPlainPath.chars : ∀ c ∈ s.toList, IsPathChar c := by
  intro c hmem
  obtain heq | ⟨segment, hsegment, hc⟩ := @exists_mem_splitOn '/' c _ hmem
  · exact .inl heq
  · exact .inr ((h segment hsegment).plain c hc)

/-- A plain path holds no delimiter but slashes. -/
theorem IsPlainPath.not_mem {d : Char} (hd : isPlainChar d = false) (hslash : d ≠ '/') : d ∉ s.toList :=
  not_mem_of_isPathChar h.chars hd hslash

theorem IsPlainPath.isName : ∀ segment ∈ segments s, isName segment = true := by
  intro segment hmem
  obtain ⟨cs, hcs, rfl⟩ := List.mem_map.1 hmem
  have hempty : String.ofList cs ≠ "" := fun heq => (h cs hcs).ne_nil (String.ofList_eq_empty_iff.1 heq)
  have hhere : String.ofList cs ≠ "." := fun heq => (h cs hcs).ne_here (String.ofList_injective heq)
  simp [Path.isName, hempty, hhere]

/-- The names of a plain path are its segments. -/
theorem names_of_isPlainPath : (parse s).names = segments s := List.filter_eq_self.2 h.isName

theorem IsPlainPath.down : ".." ∉ segments s := by
  intro hmem
  obtain ⟨cs, hcs, hup⟩ := List.mem_map.1 hmem
  exact (h cs hcs).ne_up (String.ofList_injective hup)

theorem IsPlainPath.head?_ne : s.toList.head? ≠ some '/' := by
  intro hhead
  obtain ⟨rest, hs⟩ := List.head?_eq_some_iff.1 hhead
  have hnil : [] ∈ s.toList.splitOn '/' := by
    rw [hs, List.splitOn_cons_eq_if_modifyHead]
    simp
  exact (h [] hnil).ne_nil rfl

theorem IsPlainPath.getLast?_ne : s.toList.getLast? ≠ some '/' := by
  intro hlast
  obtain ⟨before, hs⟩ := List.getLast?_eq_some_iff.1 hlast
  have hnil : [] ∈ s.toList.splitOn '/' := by
    rw [hs, List.splitOn_append_cons_self]
    simp
  exact (h [] hnil).ne_nil rfl

/-- A plain path starts nowhere else than the place it is read from. -/
theorem IsPlainPath.anchorOf_eq : anchorOf s = .relative := anchorOf_eq_relative.2 h.head?_ne

theorem parse_of_isPlainPath : parse s = ⟨.relative, segments s⟩ := by
  rw [← names_of_isPlainPath h, ← h.anchorOf_eq]
  rfl

theorem IsPlainPath.ne_empty : s ≠ "" := by
  rintro rfl
  exact (h [] (by decide)).ne_nil rfl

theorem IsPlainPath.isTrimmed : Text.IsTrimmed s := by
  refine Text.isTrimmed_of_forall h.ne_empty fun c hmem => ?_
  obtain rfl | hplain := h.chars c hmem
  · decide
  · exact isBlank_of_isPlainChar hplain

theorem IsPlainPath.not_hidesDirectory : hidesDirectory s = false := by
  rw [hidesDirectory]
  cases hsegments : segments s with
  | nil => rfl
  | cons first others =>
    have hmem : first ∈ segments s := hsegments ▸ List.mem_cons_self
    obtain ⟨cs, hcs, rfl⟩ := List.mem_map.1 hmem
    -- The first segment has no blanks to lose.
    have hblanks : Text.dropBlanks (String.ofList cs) = String.ofList cs := by
      obtain ⟨c, rest, rfl⟩ := List.exists_cons_of_ne_nil (h cs hcs).ne_nil
      have hc := isBlank_of_isPlainChar ((h _ hcs).plain c List.mem_cons_self)
      rw [Text.dropBlanks, String.toList_ofList, List.dropWhile_cons_of_neg (by simp [hc])]
    dsimp only
    rw [hblanks, h.isName _ hmem]
    rfl

/-- There is a step for each segment of the page before the last. -/
theorem toRoot_of_isPlainPath : toRoot s = climb ((s.toList.splitOn '/').length - 1) := by
  rw [toRoot_eq_climb h.isTrimmed.ends h.down h.not_hidesDirectory, names_of_isPlainPath h, segments, List.length_map]

/-! ### After steps upwards -/

theorem IsPlainPath.chars_climb (n : Nat) : ∀ c ∈ (climb n ++ s).toList, IsPathChar c := by
  intro c hmem
  rw [String.toList_append, List.mem_append, toList_climb] at hmem
  obtain hstep | hc := hmem
  · obtain ⟨step, hmem, hc⟩ := List.mem_flatten.1 hstep
    rw [List.eq_of_mem_replicate hmem] at hc
    have hchars : (['.', '.', '/'].all fun c => c == '/' || isPlainChar c) = true := by decide
    simpa [IsPathChar] using List.all_eq_true.1 hchars c hc
  · exact h.chars c hc

theorem IsPlainPath.head?_climb (n : Nat) : (climb n ++ s).toList.head? ≠ some '/' := by
  cases n with
  | zero =>
    rw [show climb 0 = "" from rfl, String.empty_append]
    exact h.head?_ne
  | succ n => exact anchorOf_eq_relative.1 (anchorOf_climb_append n.succ_ne_zero s)

theorem IsPlainPath.climb_ne_nil (n : Nat) : (climb n ++ s).toList ≠ [] := by
  rw [String.toList_append]
  exact List.append_ne_nil_of_right_ne_nil _ fun hnil => h.ne_empty (String.toList_eq_nil_iff.1 hnil)

end Plain

/-! ## Single names -/

section Single

variable {cs : List Char} (h : IsPlainSegment cs)

include h

theorem splitOn_of_isPlainSegment : cs.splitOn '/' = [cs] :=
  List.splitOn_eq_singleton fun hmem => ne_of_isPlainChar (h.plain _ hmem) (by decide) rfl

/-- A segment alone is a plain path. -/
theorem isPlainPath_of_isPlainSegment : IsPlainPath (String.ofList cs) := by
  intro segment hmem
  rw [String.toList_ofList, splitOn_of_isPlainSegment h, List.mem_singleton] at hmem
  rw [hmem]
  exact h

theorem segments_of_isPlainSegment : segments (String.ofList cs) = [String.ofList cs] := by
  rw [segments, String.toList_ofList, splitOn_of_isPlainSegment h, List.map_singleton]

end Single

end GuideSite.Path
