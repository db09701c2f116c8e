import GuideSite.Config.Field
import GuideSite.Proofs.Reading.Sequence
import GuideSite.Proofs.Text.Trimming

/-!
# The names that a value writes

The entries of the masthead and the pages write names of sections in one way, as words or as a list; a page may also
write them as a mapping of names to truth values. Both readings give exactly the names that are written.

* `mem_names`: the names of an entry.
* `mem_enabledAt`: the names of a nested mapping are the paths of its leaves that are true.
* `mem_flags`: the section flags of a page.
* `WritesFlag.strip_eq`: flags have no blanks around them.
-/

namespace GuideSite

open SectionFlags (selfKey isSelfKey truth enabledAt)

namespace Value

/-! ## Written names -/

/-- The value writes a name: as a word of a text, or as an item of a list, without the blanks around it. -/
def Writes (v : Value) (name : String) : Prop :=
  match v.unfold with
  | text s => name ∈ Text.words s
  | list items => name ≠ "" ∧ ∃ item ∈ items, ∃ shown, item.displayed = .ok shown ∧ Text.strip shown = name
  | _ => False

/-- A value at a path has a leaf that is true and is known by a name. The leaves of a mapping are known by their keys
after the path and a dot; only the leaf under `selfKey` is known by the path itself. -/
inductive Enables : (path : String) → Value → (name : String) → Prop
  | leaf {path : String} : Enables path (bool true) path
  | own {path : String} {v : Value} {entries : Entries} (hentries : v.entries? = some entries)
    (hown : get entries selfKey = bool true) : Enables path v path
  | inner {path name shown : String} {v w key : Value} {entries : Entries} (hentries : v.entries? = some entries)
    (hmem : (key, w) ∈ entries) (hkey : isSelfKey key = false) (hshown : key.displayed = .ok shown)
    (hinner : Enables (path ++ "." ++ Text.strip shown) w name) : Enables path v name

/-- The value writes a name as a flag: as names are written, or as a mapping with a leaf that is true. At the top of a
mapping every key is a name. -/
def WritesFlag (v : Value) (name : String) : Prop :=
  v.Writes name ∨ ∃ entries, v.entries? = some entries ∧
    ∃ entry ∈ entries, ∃ shown, entry.1.displayed = .ok shown ∧ entry.2.Enables (Text.strip shown) name

end Value

/-! ## Mappings -/

theorem truth_eq_ok {path : String} {v : Value} {b : Bool} (h : truth path v = .ok b) :
    b = true ↔ v = .bool true := by
  unfold truth at h
  split at h
  · obtain rfl := Except.ok.inj h
    simp
  · obtain rfl := Except.ok.inj h
    simp
  · obtain ⟨_, _, h⟩ := bind_eq_ok.1 h
    cases h

/-- What a list of entries enables, if each of their values enables what it does; `path` is where an entry is found by
its key. -/
theorem mem_entries {depth : Nat} {path : String → String} {entries : Value.Entries} {found : List (List String)}
    (h : (entries.mapM fun (k, v) => do enabledAt depth (path (← k.displayed)) v) = .ok found) (name : String)
    (hvalue : ∀ {path v names}, enabledAt depth path v = .ok names → (name ∈ names ↔ v.Enables path name)) :
    name ∈ found.flatten ↔
      ∃ entry ∈ entries, ∃ shown, entry.1.displayed = .ok shown ∧ entry.2.Enables (path shown) name := by
  rw [List.mem_flatten]
  constructor
  · rintro ⟨names, hnames, hname⟩
    obtain ⟨entry, hentry, hread⟩ := mem_of_mapM h hnames
    obtain ⟨shown, hshown, hread⟩ := bind_eq_ok.1 hread
    exact ⟨entry, hentry, shown, hshown, (hvalue hread).1 hname⟩
  · rintro ⟨entry, hentry, shown, hshown, henables⟩
    obtain ⟨names, hnames, hread⟩ := exists_of_mapM h hentry
    obtain ⟨shown', hshown', hread⟩ := bind_eq_ok.1 hread
    obtain rfl : shown = shown' := Except.ok.inj (hshown.symm.trans hshown')
    exact ⟨names, hnames, (hvalue hread).2 henables⟩

/-- A nested mapping enables exactly the names of its leaves that are true. The induction is on how far mappings are
nested. -/
theorem mem_enabledAt {depth : Nat} {path : String} {v : Value} {found : List String}
    (h : enabledAt depth path v = .ok found) (name : String) : name ∈ found ↔ v.Enables path name := by
  induction depth generalizing path v found name with
  | zero => cases h
  | succ depth ih =>
    rw [enabledAt] at h
    split at h
    · rename_i entries hentries
      obtain ⟨own, hown, h⟩ := bind_eq_ok.1 h
      obtain ⟨inner, hinner, h⟩ := bind_eq_ok.1 h
      obtain rfl := Except.ok.inj h
      have hfound : (name ∈ if own then path :: inner.flatten else inner.flatten) ↔
          own = true ∧ name = path ∨ name ∈ inner.flatten := by
        cases own <;> simp
      rw [hfound, truth_eq_ok hown, @mem_entries depth (path ++ "." ++ Text.strip ·) _ _ hinner name (ih · name)]
      constructor
      · rintro (⟨hself, rfl⟩ | ⟨⟨key, w⟩, hmem, shown, hshown, henables⟩)
        · exact .own hentries hself
        · obtain ⟨hmem, hkey⟩ := List.mem_filter.1 hmem
          exact .inner hentries hmem (by simpa using hkey) hshown henables
      · intro henables
        cases henables with
        | leaf => cases hentries
        | own hentries' hself =>
          obtain rfl := Option.some.inj (hentries.symm.trans hentries')
          exact .inl ⟨hself, rfl⟩
        | inner hentries' hmem hkey hshown henables =>
          obtain rfl := Option.some.inj (hentries.symm.trans hentries')
          exact .inr ⟨_, List.mem_filter.2 ⟨hmem, by simp [hkey]⟩, _, hshown, henables⟩
    · rename_i hnone
      obtain ⟨own, hown, h⟩ := bind_eq_ok.1 h
      obtain rfl := Except.ok.inj h
      have hfound : (name ∈ if own then [path] else []) ↔ own = true ∧ name = path := by cases own <;> simp
      rw [hfound, truth_eq_ok hown]
      constructor
      · rintro ⟨rfl, rfl⟩
        exact .leaf
      · intro henables
        cases henables with
        | leaf => exact ⟨rfl, rfl⟩
        | own hentries' _ => rw [hnone] at hentries'; cases hentries'
        | inner hentries' _ _ _ _ => rw [hnone] at hentries'; cases hentries'

/-- The flags of a mapping are the names of its leaves that are true. -/
theorem mem_ofMapping {entries : Value.Entries} {found : SectionFlags} (h : SectionFlags.ofMapping entries = .ok found)
    (name : String) : name ∈ found ↔ ∃ entry ∈ entries, ∃ shown, entry.1.displayed = .ok shown ∧
      entry.2.Enables (Text.strip shown) name := by
  obtain ⟨names, hnames, h⟩ := bind_eq_ok.1 h
  obtain rfl := Except.ok.inj h
  rw [NameSet.mem_ofList]
  exact mem_entries hnames name (mem_enabledAt · name)

/-! ## Words and lists -/

/-- The items of a list of names that are not blank. -/
theorem mem_items {items : List Value} {texts : List String} (h : items.mapM Value.displayed = .ok texts) (name : String) :
    name ∈ (texts.map Text.strip).filter (· ≠ "") ↔
      name ≠ "" ∧ ∃ item ∈ items, ∃ shown, item.displayed = .ok shown ∧ Text.strip shown = name := by
  rw [List.mem_filter, decide_eq_true_iff, and_comm, List.mem_map]
  refine and_congr_right fun _ => ⟨?_, ?_⟩
  · rintro ⟨text, htext, hname⟩
    obtain ⟨item, hitem, hshown⟩ := mem_of_mapM h htext
    exact ⟨item, hitem, text, hshown, hname⟩
  · rintro ⟨item, hitem, shown, hshown, hname⟩
    obtain ⟨text, htext, hread⟩ := exists_of_mapM h hitem
    obtain rfl : shown = text := Except.ok.inj (hshown.symm.trans hread)
    exact ⟨shown, htext, hname⟩

/-- The flags of a list of names are the names that are not blank. -/
theorem SectionFlags.mem_ofNames {names : List String} {name : String} :
    name ∈ ofNames names ↔ name ≠ "" ∧ ∃ raw ∈ names, Text.strip raw = name := by
  rw [ofNames, NameSet.mem_ofList, List.mem_filter, List.mem_map, decide_eq_true_iff, and_comm]

/-- The words of a text are flags as they stand. -/
theorem mem_ofNames_words (s name : String) : name ∈ SectionFlags.ofNames (Text.words s) ↔ name ∈ Text.words s := by
  have hstrip : (Text.words s).map Text.strip = Text.words s := by
    refine (List.map_congr_left fun word hword => ?_).trans (List.map_id _)
    exact (Text.isTrimmed_of_mem_words hword).strip_eq
  rw [SectionFlags.ofNames, hstrip, NameSet.mem_ofList, List.mem_filter, decide_eq_true_iff]
  exact ⟨And.left, fun hword => ⟨hword, (Text.isTrimmed_of_mem_words hword).ne_empty⟩⟩

namespace Config

/-- The names of an entry are those that its value writes. -/
theorem mem_names {v : Value} {found : List String} (h : names v = .ok found) (name : String) :
    name ∈ found ↔ v.Writes name := by
  unfold names at h
  split at h
  · rename_i s hv
    obtain rfl := Except.ok.inj h
    rw [Value.Writes, hv]
  · rename_i items hv
    obtain ⟨texts, htexts, h⟩ := bind_eq_ok.1 h
    obtain rfl := Except.ok.inj h
    rw [Value.Writes, hv]
    exact mem_items htexts name
  · rename_i htext hlist
    obtain rfl := Except.ok.inj h
    refine iff_of_false List.not_mem_nil fun hwrites => ?_
    unfold Value.Writes at hwrites
    cases hv : v.unfold with
    | text s => exact htext s hv
    | list items => exact hlist items hv
    | _ => rw [hv] at hwrites; exact hwrites

/-- The flags of a page are those that its value writes. -/
theorem mem_flags {place : Place} {v : Value} {found : SectionFlags} (h : flags place v = .ok found) (name : String) :
    name ∈ found ↔ v.WritesFlag name := by
  have hmapping : ∀ {entries : Value.Entries}, v.entries? = some entries → ¬v.Writes name →
      (SectionFlags.ofMapping entries).mapError (flagsAt place) = .ok found → (name ∈ found ↔ v.WritesFlag name) := by
    intro entries hentries hwrites hfound
    rw [Value.WritesFlag, or_iff_right hwrites, hentries, mem_ofMapping (mapError_eq_ok.1 hfound)]
    simp only [Option.some.injEq, exists_eq_left']
  have hplain : v.entries? = none → (name ∈ found ↔ v.Writes name) → (name ∈ found ↔ v.WritesFlag name) := by
    intro hnone hiff
    rw [hiff, Value.WritesFlag, hnone]
    exact ⟨.inl, fun h => h.elim id nofun⟩
  unfold flags at h
  split at h
  all_goals rename_i hv
  · obtain rfl := Except.ok.inj h
    refine hplain (by rw [Value.entries?, hv]) (iff_of_false List.not_mem_nil ?_)
    rw [Value.Writes, hv]
    exact id
  · obtain rfl := Except.ok.inj h
    refine hplain (by rw [Value.entries?, hv]) ?_
    rw [mem_ofNames_words, Value.Writes, hv]
  · obtain ⟨texts, htexts, h⟩ := bind_eq_ok.1 h
    obtain rfl := Except.ok.inj h
    refine hplain (by rw [Value.entries?, hv]) ?_
    rw [SectionFlags.ofNames, NameSet.mem_ofList, mem_items htexts, Value.Writes, hv]
  · refine hmapping (by rw [Value.entries?, hv]) ?_ h
    rw [Value.Writes, hv]
    exact id
  · refine hmapping (by rw [Value.entries?, hv]) ?_ h
    rw [Value.Writes, hv]
    exact id
  · cases h

end Config

/-! ## Blanks around names -/

namespace Value

open Text (StartsPlain EndsPlain)

/-- The names that a value enables have no blanks around them, if its path has none. The induction is on the way to the
leaf; every key on it is stripped. -/
theorem Enables.plain {path name : String} {v : Value} (h : v.Enables path name)
    (hpath : StartsPlain path ∧ EndsPlain path) : StartsPlain name ∧ EndsPlain name := by
  induction h with
  | leaf => exact hpath
  | own => exact hpath
  | @inner path name shown v w key entries hentries hmem hkey hshown hinner ih =>
    have hdot : StartsPlain "." ∧ EndsPlain "." := by decide
    apply ih
    exact ⟨(hpath.1.append hdot.1).append (Text.startsPlain_strip shown),
      (hpath.2.append hdot.2).append (Text.endsPlain_strip shown)⟩

/-- The flags that a value writes have no blanks around them. -/
theorem WritesFlag.strip_eq {v : Value} {name : String} (h : v.WritesFlag name) : Text.strip name = name := by
  rw [Text.strip_eq_self_iff]
  rcases h with hwrites | ⟨entries, -, entry, -, shown, -, henables⟩
  · unfold Writes at hwrites
    split at hwrites
    · have htrimmed := Text.isTrimmed_of_mem_words hwrites
      exact ⟨htrimmed.starts, htrimmed.ends⟩
    · obtain ⟨-, item, -, shown, -, rfl⟩ := hwrites
      exact ⟨Text.startsPlain_strip shown, Text.endsPlain_strip shown⟩
    · exact hwrites.elim
  · exact henables.plain ⟨Text.startsPlain_strip shown, Text.endsPlain_strip shown⟩

end Value

end GuideSite
