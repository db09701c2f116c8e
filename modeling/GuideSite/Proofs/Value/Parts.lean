import GuideSite.Value.Shown

/-!
# The parts of a value

A value is a tree if it nowhere holds itself. Then each item of a list and each key and value of a mapping is a smaller
tree, with no parts but those of the whole, and any of them can be shown unless it holds an integer with too many
digits.

* `Readable`: trees, with a say on such integers, which is handed down to the parts (`Readable.items`,
  `Readable.entries`).
* `size_lt_of_items?`, `sizeEntries_lt_of_entries?`: parts are smaller.
* `longIn_of_quotedIn?`, `Readable.displayed_eq_error`: what cannot be shown.
-/

namespace GuideSite.Value

/-! ## Parts -/

mutual

/-- The values that a value is made of, itself among them. -/
def parts : Value → List Value
  | list items => list items :: partsItems items
  | tuple items => tuple items :: partsItems items
  | set items => set items :: partsItems items
  | map entries => map entries :: partsEntries entries
  | orderedMap entries => orderedMap entries :: partsEntries entries
  | loop name whole => loop name whole :: parts whole
  | v => [v]

/-- The values that items are made of. -/
def partsItems : List Value → List Value
  | [] => []
  | v :: vs => parts v ++ partsItems vs

/-- The values that entries are made of. -/
def partsEntries : List (Value × Value) → List Value
  | [] => []
  | (k, v) :: es => parts k ++ (parts v ++ partsEntries es)

end

attribute [local simp] parts partsItems partsEntries

theorem self_mem_parts (v : Value) : v ∈ v.parts := by
  cases v <;> simp

theorem parts_subset_items {v : Value} {items : List Value} (h : v ∈ items) : v.parts ⊆ partsItems items := by
  induction items with
  | nil => cases h
  | cons first rest ih =>
    rw [partsItems]
    obtain rfl | hrest := List.mem_cons.1 h
    · exact List.subset_append_left ..
    · exact List.Subset.trans (ih hrest) (List.subset_append_right ..)

theorem parts_subset_entries {entry : Value × Value} {entries : Entries} (h : entry ∈ entries) :
    entry.1.parts ⊆ partsEntries entries ∧ entry.2.parts ⊆ partsEntries entries := by
  induction entries with
  | nil => cases h
  | cons first rest ih =>
    rw [partsEntries]
    obtain rfl | hrest := List.mem_cons.1 h
    · constructor
      · exact List.subset_append_left ..
      · exact List.Subset.trans (List.subset_append_left ..) (List.subset_append_right ..)
    · obtain ⟨hkey, hvalue⟩ := ih hrest
      have hsub : partsEntries rest ⊆ first.1.parts ++ (first.2.parts ++ partsEntries rest) :=
        List.Subset.trans (List.subset_append_right ..) (List.subset_append_right ..)
      exact ⟨List.Subset.trans hkey hsub, List.Subset.trans hvalue hsub⟩

theorem mem_partsEntries {part : Value} {entries : Entries} :
    part ∈ partsEntries entries ↔ ∃ entry ∈ entries, part ∈ entry.1.parts ∨ part ∈ entry.2.parts := by
  induction entries with
  | nil => simp
  | cons first rest ih => simp [ih, or_assoc]

/-! ## Trees -/

/-- The value is one that holds itself, or stands for one. -/
def isLoop : Value → Bool
  | loop _ _ => true
  | again _ => true
  | _ => false

/-- None of the values is one that holds itself. -/
def TreeIn (vs : List Value) : Prop := ∀ v ∈ vs, v.isLoop = false

/-- The value nowhere holds itself. -/
def IsTree (v : Value) : Prop := TreeIn v.parts

instance (v : Value) : Decidable v.IsTree := inferInstanceAs (Decidable (∀ part ∈ v.parts, part.isLoop = false))

/-- One of the values is an integer with too many digits. -/
def LongIn (vs : List Value) : Prop := ∃ n, int n ∈ vs ∧ Text.ofInt? n = none

/-- The value holds an integer with too many digits. -/
def HoldsLong (v : Value) : Prop := LongIn v.parts

theorem TreeIn.subset {vs ws : List Value} (h : TreeIn ws) (hsub : vs ⊆ ws) : TreeIn vs := fun v hv => h v (hsub hv)

theorem LongIn.subset {vs ws : List Value} (h : LongIn vs) (hsub : vs ⊆ ws) : LongIn ws := by
  obtain ⟨n, hn, hlong⟩ := h
  exact ⟨n, hsub hn, hlong⟩

/-- The items of a tree are those of a list. -/
theorem items?_eq_some {v : Value} {items : List Value} (hloop : v.isLoop = false) (h : v.items? = some items) :
    v = list items := by
  cases v with
  | list found => exact congrArg list (Option.some.inj h)
  | loop => cases hloop
  | _ => cases h

theorem entries?_eq_some {v : Value} {entries : Entries} (hloop : v.isLoop = false) (h : v.entries? = some entries) :
    v = map entries ∨ v = orderedMap entries := by
  cases v with
  | map found => exact .inl (congrArg map (Option.some.inj h))
  | orderedMap found => exact .inr (congrArg orderedMap (Option.some.inj h))
  | loop => cases hloop
  | _ => cases h

/-! ## Sizes -/

attribute [local simp] size sizeItems sizeEntries

theorem size_pos (v : Value) : 0 < v.size := by
  cases v <;> simp

theorem size_le_sizeItems {v : Value} {items : List Value} (h : v ∈ items) : v.size ≤ sizeItems items := by
  induction items with
  | nil => cases h
  | cons first rest ih =>
    rw [sizeItems]
    obtain rfl | hrest := List.mem_cons.1 h
    · omega
    · have := ih hrest
      omega

theorem size_le_sizeEntries {entry : Value × Value} {entries : Entries} (h : entry ∈ entries) :
    entry.2.size ≤ sizeEntries entries := by
  induction entries with
  | nil => cases h
  | cons first rest ih =>
    rw [sizeEntries]
    obtain rfl | hrest := List.mem_cons.1 h
    · omega
    · have := ih hrest
      omega

/-- The items of a tree are smaller than the tree. -/
theorem size_lt_of_items? {v item : Value} {items : List Value} (hloop : v.isLoop = false) (h : v.items? = some items)
    (hitem : item ∈ items) : item.size < v.size := by
  rw [items?_eq_some hloop h, size]
  have := size_le_sizeItems hitem
  omega

/-- The entries of a tree are smaller than the tree. -/
theorem sizeEntries_lt_of_entries? {v : Value} {entries : Entries} (hloop : v.isLoop = false)
    (h : v.entries? = some entries) : sizeEntries entries < v.size := by
  obtain rfl | rfl := entries?_eq_some hloop h
  · rw [size]
    omega
  · rw [size]
    omega

/-! ## What can be shown -/

theorem displayed_eq_ok {v : Value} {shown : String} : v.displayed = .ok shown ↔ v.display? = some shown := by
  rw [displayed]
  cases v.display? <;> simp

/-- Entries that cannot be shown as tuples cannot be shown at all. -/
theorem quotedEntries?_eq_none_of_quotedPairs? {loops : List (Nat × String)} {entries : Entries}
    (h : quotedPairs? loops entries = none) : quotedEntries? loops entries = none := by
  induction entries with
  | nil => cases h
  | cons entry rest ih =>
    obtain ⟨k, v⟩ := entry
    rw [quotedEntries?]
    cases hk : quotedIn? loops k with
    | none => rfl
    | some key =>
      cases hv : quotedIn? loops v with
      | none => rfl
      | some value =>
        cases hrest : quotedPairs? loops rest with
        | none =>
          rw [ih hrest]
          rfl
        | some shown =>
          rw [quotedPairs?, hk, hv, hrest] at h
          cases h

mutual

/-- A list or a mapping cannot be shown only if one of its parts cannot. -/
theorem longIn_of_quotedIn? {loops : List (Nat × String)} :
    ∀ v : Value, TreeIn v.parts → quotedIn? loops v = none → LongIn v.parts
  | .null => by simp [quotedIn?]
  | .bool _ => by simp [quotedIn?]
  | .int n => by
    intro _ h
    rw [quotedIn?] at h
    exact ⟨n, self_mem_parts _, h⟩
  | .float _ => by simp [quotedIn?]
  | .text _ => by simp [quotedIn?]
  | .bytes _ => by simp [quotedIn?]
  | .time _ => by simp [quotedIn?]
  | .list items => by
    intro htree h
    rw [quotedIn?, Option.map_eq_none_iff] at h
    have hsub : partsItems items ⊆ (list items).parts := List.subset_cons_self ..
    exact (longIn_of_quotedItems? _ (htree.subset hsub) h).subset hsub
  | .tuple items => by
    intro htree h
    rw [quotedIn?, Option.map_eq_none_iff] at h
    have hsub : partsItems items ⊆ (tuple items).parts := List.subset_cons_self ..
    exact (longIn_of_quotedItems? _ (htree.subset hsub) h).subset hsub
  | .set items => by
    intro htree h
    rw [quotedIn?] at h
    split at h
    · cases h
    · rw [Option.map_eq_none_iff] at h
      have hsub : partsItems items ⊆ (set items).parts := List.subset_cons_self ..
      exact (longIn_of_quotedItems? _ (htree.subset hsub) h).subset hsub
  | .map entries => by
    intro htree h
    rw [quotedIn?, Option.map_eq_none_iff] at h
    have hsub : partsEntries entries ⊆ (map entries).parts := List.subset_cons_self ..
    exact (longIn_of_quotedEntries? _ (htree.subset hsub) h).subset hsub
  | .orderedMap entries => by
    intro htree h
    rw [quotedIn?] at h
    split at h
    · cases h
    · rw [Option.map_eq_none_iff] at h
      have hsub : partsEntries entries ⊆ (orderedMap entries).parts := List.subset_cons_self ..
      exact (longIn_of_quotedEntries? _ (htree.subset hsub) (quotedEntries?_eq_none_of_quotedPairs? h)).subset hsub
  | .loop name whole => fun htree => nomatch htree _ (self_mem_parts (loop name whole))
  | .again name => fun htree => nomatch htree _ (self_mem_parts (again name))

theorem longIn_of_quotedItems? {loops : List (Nat × String)} :
    ∀ items : List Value, TreeIn (partsItems items) → quotedItems? loops items = none → LongIn (partsItems items)
  | [] => by simp [quotedItems?]
  | v :: vs => by
    intro htree h
    have hfirst : v.parts ⊆ partsItems (v :: vs) := List.subset_append_left ..
    have hrest : partsItems vs ⊆ partsItems (v :: vs) := List.subset_append_right ..
    cases hv : quotedIn? loops v with
    | none => exact (longIn_of_quotedIn? _ (htree.subset hfirst) hv).subset hfirst
    | some shown =>
      cases hvs : quotedItems? loops vs with
      | none => exact (longIn_of_quotedItems? _ (htree.subset hrest) hvs).subset hrest
      | some rest =>
        rw [quotedItems?, hv, hvs] at h
        cases h

theorem longIn_of_quotedEntries? {loops : List (Nat × String)} :
    ∀ entries : Entries, TreeIn (partsEntries entries) → quotedEntries? loops entries = none →
      LongIn (partsEntries entries)
  | [] => by simp [quotedEntries?]
  | (k, v) :: es => by
    intro htree h
    have hkey : k.parts ⊆ partsEntries ((k, v) :: es) := List.subset_append_left ..
    have hvalue : v.parts ⊆ partsEntries ((k, v) :: es) :=
      List.Subset.trans (List.subset_append_left ..) (List.subset_append_right ..)
    have hrest : partsEntries es ⊆ partsEntries ((k, v) :: es) :=
      List.Subset.trans (List.subset_append_right ..) (List.subset_append_right ..)
    cases hk : quotedIn? loops k with
    | none => exact (longIn_of_quotedIn? _ (htree.subset hkey) hk).subset hkey
    | some key =>
      cases hv : quotedIn? loops v with
      | none => exact (longIn_of_quotedIn? _ (htree.subset hvalue) hv).subset hvalue
      | some value =>
        cases hes : quotedEntries? loops es with
        | none => exact (longIn_of_quotedEntries? _ (htree.subset hrest) hes).subset hrest
        | some rest =>
          rw [quotedEntries?, hk, hv, hes] at h
          cases h

end

/-! ## Readable values -/

/-- The value can be read to its end: it is a tree, and it holds an integer with too many digits only where `long`
lets it. -/
structure Readable (long : Prop) (v : Value) : Prop where
  tree : v.IsTree
  short : v.HoldsLong → long

/-- All keys and values of the entries can be read to their ends. -/
def AreReadable (long : Prop) (entries : Entries) : Prop :=
  ∀ entry ∈ entries, entry.1.Readable long ∧ entry.2.Readable long

namespace Readable

variable {long : Prop} {v : Value}

theorem of_subset {w : Value} (h : w.Readable long) (hsub : v.parts ⊆ w.parts) : v.Readable long :=
  ⟨h.tree.subset hsub, fun hlong => h.short (hlong.subset hsub)⟩

theorem isLoop_eq (h : v.Readable long) : v.isLoop = false := h.tree v (self_mem_parts v)

theorem unfold_eq (h : v.Readable long) : v.unfold = v := by
  have hloop := h.isLoop_eq
  cases v with
  | loop => cases hloop
  | _ => rfl

theorem items {items : List Value} (h : v.Readable long) (hitems : v.items? = some items) :
    ∀ item ∈ items, item.Readable long := by
  intro item hitem
  apply h.of_subset
  rw [items?_eq_some h.isLoop_eq hitems]
  exact List.Subset.trans (parts_subset_items hitem) (List.subset_cons_self ..)

theorem entries {entries : Entries} (h : v.Readable long) (hentries : v.entries? = some entries) :
    AreReadable long entries := by
  intro entry hentry
  obtain ⟨hkey, hvalue⟩ := parts_subset_entries hentry
  have hsub : partsEntries entries ⊆ v.parts := by
    obtain rfl | rfl := entries?_eq_some h.isLoop_eq hentries
    · exact List.subset_cons_self ..
    · exact List.subset_cons_self ..
  exact ⟨h.of_subset (List.Subset.trans hkey hsub), h.of_subset (List.Subset.trans hvalue hsub)⟩

theorem null : Readable long .null := by
  constructor
  · decide
  · rintro ⟨n, hn, -⟩
    simp at hn

theorem quoted?_eq_none (h : v.Readable long) (hnone : v.quoted? = none) : long :=
  h.short (longIn_of_quotedIn? v h.tree hnone)

/-- Only an integer with too many digits keeps a value from being shown. -/
theorem displayed_eq_error (h : v.Readable long) {e : Error} (he : v.displayed = .error e) :
    e = .longInteger ∧ long := by
  rw [displayed] at he
  split at he
  · cases he
  · rename_i hnone
    refine ⟨(Except.error.inj he).symm, h.quoted?_eq_none ?_⟩
    cases v with
    | text => cases hnone
    | time => cases hnone
    | _ => exact hnone

theorem exists_displayed (h : v.Readable False) : ∃ shown, v.displayed = .ok shown := by
  cases hdisplayed : v.displayed with
  | ok shown => exact ⟨shown, rfl⟩
  | error e => exact (h.displayed_eq_error hdisplayed).2.elim

theorem shown_eq_error (h : v.Readable long) {e : Error} (he : v.shown = .error e) : e = .longInteger ∧ long := by
  rw [shown] at he
  split at he
  · cases he
  · rename_i hnone
    exact ⟨(Except.error.inj he).symm, h.quoted?_eq_none hnone⟩

end Readable

/-- A mapping can be read to its end if its entries can. -/
theorem AreReadable.readable {long : Prop} {v : Value} {entries : Entries} (h : AreReadable long entries)
    (hloop : v.isLoop = false) (hentries : v.entries? = some entries) : v.Readable long := by
  have hparts : v.parts = v :: partsEntries entries := by
    obtain rfl | rfl := entries?_eq_some hloop hentries <;> rfl
  constructor
  · intro part hpart
    rw [hparts, List.mem_cons, mem_partsEntries] at hpart
    obtain rfl | ⟨entry, hentry, hkey | hvalue⟩ := hpart
    · exact hloop
    · exact (h entry hentry).1.tree part hkey
    · exact (h entry hentry).2.tree part hvalue
  · rintro ⟨n, hn, hlong⟩
    rw [hparts, List.mem_cons, mem_partsEntries] at hn
    obtain rfl | ⟨entry, hentry, hkey | hvalue⟩ := hn
    · cases hentries
    · exact (h entry hentry).1.short ⟨n, hkey, hlong⟩
    · exact (h entry hentry).2.short ⟨n, hvalue, hlong⟩

/-! ## Entries by key -/

section Get

variable {long : Prop} {entries : Entries} {key : String}

theorem mem_of_find? {v : Value} (h : find? key entries = some v) : (text key, v) ∈ entries := by
  induction entries using find?.induct key with
  | case1 => cases h
  | case2 found rest =>
    rw [find?, if_pos rfl] at h
    obtain rfl := Option.some.inj h
    exact List.mem_cons_self
  | case3 k found rest hne ih =>
    rw [find?, if_neg hne] at h
    exact List.mem_cons_of_mem _ (ih h)
  | case4 first rest hother ih =>
    rw [find?] at h
    · exact List.mem_cons_of_mem _ (ih h)
    · exact hother

/-- What is found under a key is in an entry, unless it is nothing. -/
theorem mem_of_get (h : get entries key ≠ null) : (text key, get entries key) ∈ entries := by
  rw [Value.get] at h ⊢
  cases hfind : find? key entries with
  | none =>
    rw [hfind] at h
    exact absurd rfl h
  | some v => exact mem_of_find? hfind

/-- The value of a key that is there once. -/
theorem find?_of_mem {v : Value} (hkeys : (entries.map Prod.fst).Nodup) (h : (text key, v) ∈ entries) :
    find? key entries = some v := by
  induction entries using find?.induct key with
  | case1 => cases h
  | case2 found rest =>
    rw [find?, if_pos rfl]
    obtain heq | hrest := List.mem_cons.1 h
    · rw [(Prod.mk.inj heq).2]
    · exact absurd (List.mem_map_of_mem hrest) (List.nodup_cons.1 hkeys).1
  | case3 k found rest hne ih =>
    rw [find?, if_neg hne]
    obtain heq | hrest := List.mem_cons.1 h
    · exact absurd (text.inj (Prod.mk.inj heq).1).symm hne
    · exact ih (List.nodup_cons.1 hkeys).2 hrest
  | case4 first rest hother ih =>
    obtain heq | hrest := List.mem_cons.1 h
    · exact absurd heq.symm (hother key v)
    · rw [find?]
      · exact ih (List.nodup_cons.1 hkeys).2 hrest
      · exact hother

theorem AreReadable.find? {v : Value} (h : AreReadable long entries) (hfind : find? key entries = some v) :
    v.Readable long := (h _ (mem_of_find? hfind)).2

theorem AreReadable.get (h : AreReadable long entries) (key : String) : (get entries key).Readable long := by
  rw [Value.get]
  cases hfind : Value.find? key entries with
  | none => exact .null
  | some v => exact h.find? hfind

/-- A value under a key that has items is one of the entries, so it is no larger than they are. -/
theorem size_get_le {items : List Value} (h : (get entries key).items? = some items) :
    (get entries key).size ≤ sizeEntries entries := by
  rw [Value.get] at h ⊢
  cases hfind : Value.find? key entries with
  | none =>
    rw [hfind] at h
    cases h
  | some v => exact size_le_sizeEntries (mem_of_find? hfind)

end Get

end GuideSite.Value
