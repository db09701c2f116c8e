import GuideSite.Data.Dictionary
import Mathlib.Data.List.Induction

/-!
# What dictionaries hold

A name has at most one value, so a dictionary is known by its entries, and finding a value does not depend on the order
in which they were written.

* `find?_eq_some_iff`: a value is found just if it is that of an entry.
* `find?_eq_of_perm`: dictionaries with the same entries give the same values.
* `keys_ofList`, `find?_ofList`, `entries_ofList_iff`: what a dictionary holds that was written entry by entry.
-/

namespace GuideSite.Dictionary

variable {α : Type} {d d' : Dictionary α} {key : String} {value : α}

theorem find?_of_mem (h : (key, value) ∈ d.entries) : d.find? key = some value := by
  obtain ⟨before, after, hentries⟩ := List.append_of_mem h
  have hnodup := d.nodup
  rw [hentries, List.map_append, List.map_cons, List.nodup_append] at hnodup
  refine List.lookup_eq_some_iff.2 ⟨before, after, hentries, ?_⟩
  intro entry hentry
  have hne : entry.1 ≠ key := hnodup.2.2 _ (List.mem_map_of_mem hentry) key List.mem_cons_self
  simpa using Ne.symm hne

/-- A value is found just if it is that of an entry. -/
theorem find?_eq_some_iff : d.find? key = some value ↔ (key, value) ∈ d.entries := by
  refine ⟨fun h => ?_, find?_of_mem⟩
  obtain ⟨before, after, hentries, -⟩ := List.lookup_eq_some_iff.1 h
  simp [hentries]

/-- A name has a value just if it is a key. -/
theorem isSome_find?_iff : (d.find? key).isSome = true ↔ key ∈ d.keys := by
  simp [Option.isSome_iff_exists, find?_eq_some_iff, keys]

/-- Dictionaries with the same entries give the same values, whatever the order of the entries. -/
theorem find?_eq_of_perm (h : d.entries.Perm d'.entries) (key : String) : d.find? key = d'.find? key := by
  refine Option.ext fun value => ?_
  rw [find?_eq_some_iff, find?_eq_some_iff, h.mem_iff]

/-- Erasing a name leaves the entries of the others. -/
theorem find?_erase (d : Dictionary α) (key k : String) :
    (d.erase key).find? k = if k = key then none else d.find? k := by
  refine Option.ext fun value => ?_
  rw [find?_eq_some_iff, erase, List.mem_filter, decide_eq_true_iff]
  split
  · rename_i heq
    simp [heq]
  · rename_i hne
    simp [hne, find?_eq_some_iff]

theorem eq_of_entries (h : d.entries = d'.entries) : d = d' := by
  cases d
  cases d'
  cases h
  rfl

/-- There is nothing to erase under a name without a value. -/
theorem erase_of_not_mem (h : key ∉ d.keys) : d.erase key = d := by
  refine eq_of_entries (List.filter_eq_self.2 fun e he => decide_eq_true ?_)
  rintro rfl
  exact h (List.mem_map_of_mem he)

/-! ## Dictionaries that were written entry by entry -/

theorem ofList_append (es : List (String × α)) (e : String × α) : ofList (es ++ [e]) = (ofList es).insert e.1 e.2 := by
  rw [ofList, List.foldl_append]
  rfl

/-- The names are those of the entries, in the order in which they were first written. -/
theorem keys_ofList (es : List (String × α)) : (ofList es).keys = (es.map Prod.fst).eraseDups := by
  induction es using List.reverseRecOn with
  | nil => rfl
  | append_singleton es e ih =>
    rw [ofList_append, keys_insert, ih, List.map_append, List.eraseDups_append]
    by_cases h : e.1 ∈ es.map Prod.fst <;> simp [List.removeAll, List.eraseDups_cons, h]

/-- The value of a name is the one that was written last. -/
theorem find?_ofList (es : List (String × α)) (key : String) :
    (ofList es).find? key = ((es.filter (·.1 = key)).getLast?).map Prod.snd := by
  induction es using List.reverseRecOn with
  | nil => rfl
  | append_singleton es e ih =>
    rw [ofList_append, find?_insert, ih, List.filter_append]
    by_cases h : e.1 = key
    · simp [h]
    · simp [h, Ne.symm h]

/-- A new name comes last. -/
theorem entries_insert_of_not_mem (h : key ∉ d.keys) (value : α) :
    (d.insert key value).entries = d.entries ++ [(key, value)] := by
  have hput : ∀ es : List (String × α), key ∉ es.map Prod.fst → putEntry key value es = es ++ [(key, value)] := by
    intro es hes
    induction es with
    | nil => rfl
    | cons e es ih =>
      obtain ⟨hne, hes⟩ := List.ne_and_not_mem_of_not_mem_cons hes
      rw [putEntry, if_neg (Ne.symm hne), ih hes]
      rfl
  exact hput d.entries h

/-- Every entry is kept in its place just if no name was written twice. -/
theorem entries_ofList_iff {es : List (String × α)} : (ofList es).entries = es ↔ (es.map Prod.fst).Nodup := by
  constructor
  · intro h
    rw [← h]
    exact (ofList es).nodup
  · intro h
    induction es using List.reverseRecOn with
    | nil => rfl
    | append_singleton es e ih =>
      rw [List.map_append, List.nodup_append] at h
      have hkeys : e.1 ∉ (ofList es).keys := by
        rw [keys, ih h.1]
        exact fun hmem => h.2.2 _ hmem e.1 (by simp) rfl
      rw [ofList_append, entries_insert_of_not_mem hkeys, ih h.1]

end GuideSite.Dictionary
