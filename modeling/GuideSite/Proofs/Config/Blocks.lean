import GuideSite.Proofs.Value.Opening

/-!
# Blocks of a document

The settings of a site are mappings and lists inside each other, its blocks. A table says which settings of a block are
blocks, and which keys of a mapping may be absent.

One mapping of a document is changed by a null under a key that was absent from it (`AddsNull`). Then of each mapping
above it one setting changes, the block that leads to it, and of each list one item.

* `Block`: the table.
* `AddsNull`: a document, or a part of it, before and after the change.
* `AddsNull.exists_changes`, `AddsNull.exists_item`: what changes of a mapping or a list.
* `AddsNull.Changes.get_cases`, `AddsNull.Changes.read_eq`: what is read of the settings of a mapping then.
-/

namespace GuideSite

/-! ## The table -/

/-- The kinds of mappings and lists that the settings of a site are made of. -/
inductive Block
  | document
  | defaults
  | toc
  | tocEntry
  | masthead
  | logo
  | bar
  | barEntry
  | pages
  | page
  deriving DecidableEq, Repr

namespace Block

/-- The keys that may be absent from a mapping. -/
def optionalKeys : Block → List String
  | document => ["defaults", "masthead", "pages"]
  | defaults => ["output_dir", "language", "site_name", "languages"]
  | tocEntry => ["title", "labels", "children"]
  | masthead =>
    ["logo", "primary", "secondary", "quicknav", "more_links", "more_heading", "section_class", "x_nav_flags"]
  | logo => ["src", "alt", "width", "height", "link"]
  | barEntry => ["selected_by", "excluded_by", "translations", "css_class"]
  | page => ["title", "flags", "language"]
  | toc | bar | pages => []

/-- The settings of a mapping that are blocks. -/
def field? : Block → (name : String) → Option Block
  | document, "defaults" => some defaults
  | document, "toc" => some toc
  | document, "masthead" => some masthead
  | document, "pages" => some pages
  | tocEntry, "children" => some toc
  | masthead, "logo" => some logo
  | masthead, "primary" => some bar
  | masthead, "secondary" => some bar
  | masthead, "quicknav" => some bar
  | _, _ => none

/-- What a list is a list of. -/
def item? : Block → Option Block
  | toc => some tocEntry
  | bar => some barEntry
  | document | defaults | tocEntry | masthead | logo | barEntry | pages | page => none

/-- The mappings that may be somewhere in a block. -/
def mappings : Block → List Block
  | document => [document, defaults, tocEntry, masthead, logo, barEntry, page]
  | defaults => [defaults]
  | toc | tocEntry => [tocEntry]
  | masthead => [masthead, logo, barEntry]
  | logo => [logo]
  | bar | barEntry => [barEntry]
  | pages | page => [page]

theorem mappings_of_field? {block below : Block} {name : String} (h : block.field? name = some below) :
    below.mappings ⊆ block.mappings := by
  unfold field? at h
  split at h <;> cases h <;> decide

theorem mappings_of_item? {block below : Block} (h : block.item? = some below) : below.mappings ⊆ block.mappings := by
  cases block <;> cases h <;> decide

/-- The logo is in a masthead alone, and only under its own name. -/
theorem eq_of_logo_mem {block below : Block} {name : String} (h : block.field? name = some below)
    (hlogo : logo ∈ below.mappings) :
    block = document ∧ name = "masthead" ∧ below = masthead ∨ block = masthead ∧ name = "logo" ∧ below = logo := by
  unfold field? at h
  split at h <;> cases h <;> revert hlogo <;> decide

/-- The default settings are in a document alone. -/
theorem eq_of_defaults_mem {block below : Block} {name : String} (h : block.field? name = some below)
    (hdefaults : defaults ∈ below.mappings) : block = document ∧ name = "defaults" ∧ below = defaults := by
  unfold field? at h
  split at h <;> cases h <;> revert hdefaults <;> decide

end Block

/-- The second value is the first, for some block, with a null added under a key that was absent from one mapping for
the target block. The values on the way to this mapping are opened. -/
inductive AddsNull (target : Block) (key : String) : Block → Value → Value → Prop
  | here {ordered : Bool} {before after : Value.Entries} {v : Value} (optional : key ∈ target.optionalKeys)
      (hv : v.Opens (.mapping ordered (before ++ after))) (absent : Value.find? key (before ++ after) = none) :
      AddsNull target key target v (.mapping ordered (before ++ (.text key, .null) :: after))
  | field {block below : Block} {name : String} {ordered : Bool} {before after : Value.Entries} {v x y : Value}
      (hfield : block.field? name = some below) (hv : v.Opens (.mapping ordered (before ++ (.text name, x) :: after)))
      (first : Value.find? name before = none) (h : AddsNull target key below x y) :
      AddsNull target key block v (.mapping ordered (before ++ (.text name, y) :: after))
  | item {block below : Block} {before after : List Value} {v x y : Value} (hitem : block.item? = some below)
      (hv : v.Opens (.list (before ++ x :: after))) (h : AddsNull target key below x y) :
      AddsNull target key block v (.list (before ++ y :: after))
  | page {path : Value} {ordered : Bool} {before after : Value.Entries} {v x y : Value}
      (hv : v.Opens (.mapping ordered (before ++ (path, x) :: after))) (h : AddsNull target key .page x y) :
      AddsNull target key .pages v (.mapping ordered (before ++ (path, y) :: after))

namespace AddsNull

variable {target block : Block} {key : String} {v w : Value}

/-- A value grows when a null is added to it. -/
theorem size_le (h : AddsNull target key block v w) : v.size ≤ w.size := by
  induction h with
  | here _ hv =>
    have := hv.size_le
    simp only [Value.size_mapping, Value.sizeEntries_append, Value.sizeEntries] at this ⊢
    omega
  | field _ hv _ _ ih =>
    have := hv.size_le
    simp only [Value.size_mapping, Value.sizeEntries_append, Value.sizeEntries] at this ⊢
    omega
  | item _ hv _ ih =>
    have := hv.size_le
    simp only [Value.size, Value.sizeItems_append, Value.sizeItems] at this ⊢
    omega
  | page hv _ ih =>
    have := hv.size_le
    simp only [Value.size_mapping, Value.sizeEntries_append, Value.sizeEntries] at this ⊢
    omega

/-- The mapping that a null was added to is one that the block may have. -/
theorem target_mem (h : AddsNull target key block v w) : target ∈ block.mappings := by
  induction h with
  | here optional => cases target <;> first | exact List.mem_cons_self | cases optional
  | field hfield _ _ _ ih => exact Block.mappings_of_field? hfield ih
  | item hitem _ _ ih => exact Block.mappings_of_item? hitem ih
  | page _ _ ih => exact ih

/-! ## What changes -/

/-- What changes of the settings of a mapping, and under which name: a null is there now, or a block that a null was
added to. -/
inductive Changes (target : Block) (key : String) (block : Block) (es es' : Value.Entries) : (name : String) → Prop
  | added (htarget : target = block) (optional : key ∈ block.optionalKeys) (absent : Value.find? key es = none)
      (present : Value.find? key es' = some .null)
      (others : ∀ name, name ≠ key → Value.find? name es' = Value.find? name es) : Changes target key block es es' key
  | below {name : String} {below : Block} {x y : Value} (hfield : block.field? name = some below)
      (before : Value.find? name es = some x) (after : Value.find? name es' = some y)
      (others : ∀ other, other ≠ name → Value.find? other es' = Value.find? other es)
      (h : AddsNull target key below x y) : Changes target key block es es' name

/-- A mapping with settings under fixed names changes under one of them. -/
theorem exists_changes (h : AddsNull target key block v w) (hitem : block.item? = none) (hpages : block ≠ .pages) :
    ∃ es es' name, v.entries? = some es ∧ w.entries? = some es' ∧ Changes target key block es es' name := by
  -- What is looked up under another name stands before the change or after it.
  have hother : ∀ {before after : Value.Entries} {name other : String} {x y : Value}, other ≠ name →
      Value.find? other (before ++ (.text name, y) :: after) =
        Value.find? other (before ++ (.text name, x) :: after) := by
    intro before after name other x y hne
    simp [Value.find?_append, Value.find?_text, Ne.symm hne]
  cases h with
  | @here ordered before after _ optional hv absent =>
    refine ⟨_, _, _, Value.entries?_of_opens hv, Value.entries?_mapping .., .added rfl optional absent ?_ ?_⟩
    · rw [Value.find?_append, Option.or_eq_none_iff] at absent
      simp [Value.find?_append, Value.find?_text, absent]
    · intro name hname
      simp [Value.find?_append, Value.find?_text, Ne.symm hname]
  | @field _ below name ordered before after _ x y hfield hv first h =>
    refine ⟨_, _, _, Value.entries?_of_opens hv, Value.entries?_mapping .., .below hfield ?_ ?_ (fun _ => hother) h⟩
    · simp [Value.find?_append, Value.find?_text, first]
    · simp [Value.find?_append, Value.find?_text, first]
  | item hitem' =>
    rw [hitem] at hitem'
    cases hitem'
  | page => exact absurd rfl hpages

/-- A list stays a list, and one of its items has changed. -/
theorem exists_item (h : AddsNull target key block v w) {below : Block} (hitem : block.item? = some below) :
    ∃ before x y after, v.items? = some (before ++ x :: after) ∧ w.items? = some (before ++ y :: after) ∧
      AddsNull target key below x y := by
  cases h with
  | here optional => cases target <;> cases hitem <;> cases optional
  | field hfield => cases block <;> cases hitem <;> cases hfield
  | item hitem' hv h =>
    obtain rfl := Option.some.inj (hitem'.symm.trans hitem)
    exact ⟨_, _, _, _, Value.items?_of_opens hv, rfl, h⟩
  | page => cases hitem

/-! ## What stays the same -/

namespace Changes

variable {es es' : Value.Entries} {name other : String}

/-- A setting that may not be absent, and is no block, is as it was. -/
theorem find?_eq (h : Changes target key block es es' name) (hkey : other ∉ block.optionalKeys)
    (hfield : block.field? other = none) : Value.find? other es' = Value.find? other es := by
  cases h with
  | added _ optional _ _ others =>
    refine others other ?_
    rintro rfl
    exact hkey optional
  | below hfield' _ _ others =>
    refine others other ?_
    rintro rfl
    rw [hfield] at hfield'
    cases hfield'

theorem get_eq_of_ne (h : Changes target key block es es' name) (hne : other ≠ name) :
    Value.get es' other = Value.get es other := by
  unfold Value.get
  cases h with
  | added _ _ _ _ others => rw [others other hne]
  | below _ _ _ others => rw [others other hne]

/-- A null counts as absent, but settings that are blocks may have changed. -/
theorem get_cases (h : Changes target key block es es' name) (other : String) :
    Value.get es' other = Value.get es other ∨ ∃ below, block.field? other = some below ∧
      AddsNull target key below (Value.get es other) (Value.get es' other) := by
  by_cases hother : other = name
  · subst hother
    unfold Value.get
    cases h with
    | added _ _ absent present =>
      rw [absent, present]
      exact .inl rfl
    | @below _ found _ _ hfield before after _ h =>
      rw [before, after]
      exact .inr ⟨found, hfield, h⟩
  · exact .inl (h.get_eq_of_ne hother)

theorem get_eq (h : Changes target key block es es' name) (hfield : block.field? other = none) :
    Value.get es' other = Value.get es other := by
  obtain heq | ⟨below, hfield', -⟩ := h.get_cases other
  · exact heq
  · rw [hfield] at hfield'
    cases hfield'

/-- A setting that is a block is read in the same way if blocks of its kind are. -/
theorem read_eq {α : Type} {below : Block} {read : Value → Except Error α} (h : Changes target key block es es' name)
    (hfield : block.field? other = some below)
    (hread : ∀ {x y : Value}, AddsNull target key below x y → read y = read x) :
    read (Value.get es' other) = read (Value.get es other) := by
  obtain heq | ⟨found, hfound, hadds⟩ := h.get_cases other
  · rw [heq]
  · obtain rfl := Option.some.inj (hfound.symm.trans hfield)
    exact hread hadds

end Changes

end AddsNull

end GuideSite
