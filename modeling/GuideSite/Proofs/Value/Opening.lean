import GuideSite.Proofs.Value.Parts

/-!
# Opened values

To see the parts of a value that holds itself, it is put in the place of its name. A loop whose name stands somewhere in
it does not get smaller by that, so opened values are bounds for how deep their parts are nested.

* `size_replace`: the size of a value with a content in the place of a name.
* `Opens`, `Opens.size_le`: values and what is in sight of them.
* `mapping`, `find?_append`: mappings of either kind, and what is found in their entries.
-/

namespace GuideSite.Value

/-! ## Names of loops -/

mutual

/-- The name stands for an outer loop somewhere in the value. -/
def mentions (name : Nat) : Value → Bool
  | list items => mentionsItems name items
  | tuple items => mentionsItems name items
  | set items => mentionsItems name items
  | map entries => mentionsEntries name entries
  | orderedMap entries => mentionsEntries name entries
  | loop n whole => n != name && mentions name whole
  | again n => n == name
  | _ => false

/-- The name stands for an outer loop somewhere in the items. -/
def mentionsItems (name : Nat) : List Value → Bool
  | [] => false
  | v :: vs => mentions name v || mentionsItems name vs

/-- The name stands for an outer loop somewhere in the entries. -/
def mentionsEntries (name : Nat) : List (Value × Value) → Bool
  | [] => false
  | (k, v) :: es => mentions name k || mentions name v || mentionsEntries name es

end

/-- What grows by nearly the size of a content if some of it is in the place of the content, and else does not
shrink. -/
structure Grows (content : Value) (mentioned : Bool) (before after : Nat) : Prop where
  le : before ≤ after
  lt : mentioned = true → before + content.size ≤ after + 1

namespace Grows

variable {content : Value} {mentioned mentioned' : Bool} {before before' after after' : Nat}

theorem same (content : Value) (n : Nat) : Grows content false n n := ⟨Nat.le_refl n, nofun⟩

theorem succ (h : Grows content mentioned before after) : Grows content mentioned (before + 1) (after + 1) := by
  refine ⟨Nat.succ_le_succ h.le, fun hmentioned => ?_⟩
  have := h.lt hmentioned
  omega

theorem add (h : Grows content mentioned before after) (h' : Grows content mentioned' before' after') :
    Grows content (mentioned || mentioned') (before + before') (after + after') := by
  have hle := h.le
  have hle' := h'.le
  refine ⟨by omega, fun hmentioned => ?_⟩
  rw [Bool.or_eq_true] at hmentioned
  obtain hmentioned | hmentioned := hmentioned
  · have := h.lt hmentioned
    omega
  · have := h'.lt hmentioned
    omega

end Grows

mutual

/-- A value does not shrink when a content is put in the place of a name. -/
theorem size_replace (name : Nat) (content : Value) : ∀ v : Value,
    Grows content (v.mentions name) v.size (replace name content v).size
  | list items => (sizeItems_replace name content items).succ
  | tuple items => (sizeItems_replace name content items).succ
  | set items => (sizeItems_replace name content items).succ
  | map entries => (sizeEntries_replace name content entries).succ
  | orderedMap entries => (sizeEntries_replace name content entries).succ
  | loop n whole => by
    rw [replace, mentions]
    by_cases hn : n = name
    · rw [if_pos hn, bne_eq_false_iff_eq.2 hn]
      exact .same content _
    · rw [if_neg hn, bne_iff_ne.2 hn]
      exact (size_replace name content whole).succ
  | again n => by
    rw [replace, mentions]
    by_cases hn : n = name
    · rw [if_pos hn]
      exact ⟨content.size_pos, fun _ => Nat.add_comm .. ▸ Nat.le_refl _⟩
    · rw [if_neg hn, beq_false_of_ne hn]
      exact .same content _
  | null | bool _ | int _ | float _ | text _ | bytes _ | time _ => .same content _

theorem sizeItems_replace (name : Nat) (content : Value) : ∀ items : List Value,
    Grows content (mentionsItems name items) (sizeItems items) (sizeItems (replaceItems name content items))
  | [] => .same content _
  | v :: vs => (size_replace name content v).add (sizeItems_replace name content vs)

theorem sizeEntries_replace (name : Nat) (content : Value) : ∀ entries : List (Value × Value),
    Grows content (mentionsEntries name entries) (sizeEntries entries)
      (sizeEntries (replaceEntries name content entries))
  | [] => .same content _
  | (k, v) :: es => ((size_replace name content k).add (size_replace name content v)).add
      (sizeEntries_replace name content es)

end

/-! ## Opened values -/

/-- The second value is the first with its parts in sight: itself, or what is in a loop that holds itself. -/
inductive Opens : Value → Value → Prop
  | plain {v : Value} (h : v.unfold = v) : Opens v v
  | loop {name : Nat} {whole : Value} (h : whole.mentions name = true) :
      Opens (loop name whole) (replace name (loop name whole) whole)

namespace Opens

variable {v u : Value}

theorem unfold_eq (h : Opens v u) : v.unfold = u := by
  cases h with
  | plain h => exact h
  | loop => rfl

/-- What is in sight is not smaller. -/
theorem size_le (h : Opens v u) : v.size ≤ u.size := by
  cases h with
  | plain => exact Nat.le_refl _
  | @loop name whole h =>
    have hgrows := (size_replace name (.loop name whole) whole).lt h
    have hsize : (Value.loop name whole).size = whole.size + 1 := rfl
    have hpos := whole.size_pos
    omega

end Opens

/-! ## Mappings and lists -/

/-- A mapping of either kind. -/
def mapping (ordered : Bool) (entries : Entries) : Value := if ordered then orderedMap entries else map entries

theorem entries?_mapping (ordered : Bool) (entries : Entries) : (mapping ordered entries).entries? = some entries := by
  cases ordered <;> rfl

theorem size_mapping (ordered : Bool) (entries : Entries) :
    (mapping ordered entries).size = sizeEntries entries + 1 := by
  cases ordered <;> rfl

theorem entries?_of_opens {v : Value} {ordered : Bool} {entries : Entries} (h : v.Opens (mapping ordered entries)) :
    v.entries? = some entries := by
  rw [entries?, h.unfold_eq]
  cases ordered <;> rfl

theorem items?_of_opens {v : Value} {items : List Value} (h : v.Opens (list items)) : v.items? = some items := by
  rw [items?, h.unfold_eq]

theorem find?_append (name : String) (es fs : Entries) :
    find? name (es ++ fs) = (find? name es).or (find? name fs) := by
  induction es with
  | nil => rfl
  | cons e es ih =>
    obtain ⟨k, v⟩ := e
    cases k with
    | text k => by_cases h : k = name <;> simp [find?, h, ih]
    | _ => exact ih

theorem find?_text (name k : String) (v : Value) (es : Entries) :
    find? name ((text k, v) :: es) = if k = name then some v else find? name es := rfl

theorem sizeItems_append (vs ws : List Value) : sizeItems (vs ++ ws) = sizeItems vs + sizeItems ws := by
  induction vs with
  | nil => simp [sizeItems]
  | cons v vs ih => simp [sizeItems, ih, Nat.add_assoc]

theorem sizeEntries_append (es fs : Entries) : sizeEntries (es ++ fs) = sizeEntries es + sizeEntries fs := by
  induction es with
  | nil => simp [sizeEntries]
  | cons e es ih => simp [sizeEntries, ih, Nat.add_assoc]

end GuideSite.Value
