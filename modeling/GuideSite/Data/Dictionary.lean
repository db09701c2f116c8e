/-!
# Dictionaries

A `Dictionary` gives values to names and keeps the names in the order in which they were first written. Writing a name
again replaces its value and leaves it in its place.

* `keys_insert`: the keys after a value was written.
* `find?_insert`: the values after a value was written.
-/

namespace GuideSite

/-- A finite map from names, in the order in which they were first written. -/
structure Dictionary (α : Type) where
  entries : List (String × α)
  nodup : (entries.map Prod.fst).Nodup

namespace Dictionary

variable {α : Type}

instance [DecidableEq α] : DecidableEq (Dictionary α) := fun a b =>
  decidable_of_iff (a.entries = b.entries) (by cases a; cases b; simp)

/-- The dictionary without an entry. -/
def empty : Dictionary α := ⟨[], .nil⟩

instance : EmptyCollection (Dictionary α) := ⟨empty⟩

instance : Inhabited (Dictionary α) := ⟨empty⟩

/-- The names that have a value, in order. -/
def keys (d : Dictionary α) : List String := d.entries.map Prod.fst

/-- The values, in the order of their names. -/
def values (d : Dictionary α) : List α := d.entries.map Prod.snd

/-- The value of a name. -/
def find? (d : Dictionary α) (key : String) : Option α := d.entries.lookup key

/-! ## Writing -/

/-- The entries with a value written under a name: in its place, or at the end. -/
def putEntry (key : String) (value : α) : List (String × α) → List (String × α)
  | [] => [(key, value)]
  | (k, v) :: es => if k = key then (k, value) :: es else (k, v) :: putEntry key value es

theorem map_fst_putEntry (key : String) (value : α) (es : List (String × α)) :
    (putEntry key value es).map Prod.fst =
      if key ∈ es.map Prod.fst then es.map Prod.fst else es.map Prod.fst ++ [key] := by
  induction es with
  | nil => simp [putEntry]
  | cons e es ih =>
    obtain ⟨k, v⟩ := e
    by_cases h : k = key
    · simp [putEntry, h]
    · have hk : ¬key = k := fun e => h e.symm
      simp only [putEntry, h, if_false, List.map_cons, ih, List.mem_cons, hk, false_or]
      split <;> simp

/-- The dictionary with a value written under a name. -/
def insert (d : Dictionary α) (key : String) (value : α) : Dictionary α :=
  ⟨putEntry key value d.entries, by
    rw [map_fst_putEntry]
    split
    · exact d.nodup
    · exact List.nodup_append.2 ⟨d.nodup, by simp, fun a ha b hb => by
        rintro rfl
        simp_all⟩⟩

/-- A name that has a value stays in its place; another one comes last. -/
theorem keys_insert (d : Dictionary α) (key : String) (value : α) :
    (d.insert key value).keys = if key ∈ d.keys then d.keys else d.keys ++ [key] :=
  map_fst_putEntry key value d.entries

theorem lookup_putEntry (key : String) (value : α) (k : String) (es : List (String × α)) :
    (putEntry key value es).lookup k = if k = key then some value else es.lookup k := by
  induction es with
  | nil =>
    by_cases h : k = key
    · simp [putEntry, h]
    · simp [putEntry, List.lookup_cons, h, beq_false_of_ne h]
  | cons e es ih =>
    obtain ⟨k', v⟩ := e
    by_cases h' : k' = key
    · by_cases h : k = key
      · simp [putEntry, h', h]
      · simp [putEntry, List.lookup_cons, h', h, beq_false_of_ne h]
    · by_cases h : k = k'
      · simp [putEntry, h', h]
      · simp only [putEntry, h', if_false, List.lookup_cons, beq_false_of_ne h]
        exact ih

/-- The value written last is the one found. -/
theorem find?_insert (d : Dictionary α) (key : String) (value : α) (k : String) :
    (d.insert key value).find? k = if k = key then some value else d.find? k :=
  lookup_putEntry key value k d.entries

/-- The dictionary of a list of entries, each written after those before it. -/
def ofList (entries : List (String × α)) : Dictionary α :=
  entries.foldl (fun d e => d.insert e.1 e.2) empty

/-! ## Erasing -/

/-- The dictionary without a name. -/
def erase (d : Dictionary α) (key : String) : Dictionary α :=
  ⟨d.entries.filter fun e => e.1 ≠ key, by
    have := d.nodup
    exact List.Nodup.sublist (List.Sublist.map Prod.fst List.filter_sublist) this⟩

end Dictionary

end GuideSite
