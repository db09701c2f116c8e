import GuideSite.Proofs.Config.Settings
import GuideSite.Proofs.Value.Parts

/-!
# The texts that settings give

Wherever a setting is a text, any value may stand for it. Nothing and blanks give no text, and an integer with too many
digits has none that could be asked for; of any other value the blanks around its text are dropped. A mapping of
languages to texts gives those of the entries of which both sides give one, and of two for one language the later.

* `optionalText_cases`, `labels_cases`: how the reading of a setting ends.
* `Labels`: the labels that a mapping gives.
-/

namespace GuideSite

namespace Value

/-! ## Texts -/

/-- There is a text that stands for the value. Only integers with too many digits have none, and values with one of
them inside. -/
def IsShown (v : Value) : Prop := ∃ shown, v.display? = some shown

/-- The value gives a text: the one that stands for it, without the blanks around it, if there is more to it. -/
def GivesText (v : Value) (text : String) : Prop :=
  v ≠ null ∧ ∃ shown, v.display? = some shown ∧ Text.strip shown = text ∧ text ≠ ""

/-- The value is nothing, or there is nothing but blanks to its text. -/
def IsBlank (v : Value) : Prop :=
  v = null ∨ ∃ shown, v.display? = some shown ∧ Text.strip shown = ""

theorem IsBlank.isShown {v : Value} (h : v.IsBlank) : v.IsShown := by
  obtain rfl | ⟨shown, hshown, -⟩ := h
  · exact ⟨_, rfl⟩
  · exact ⟨shown, hshown⟩

theorem GivesText.isShown {v : Value} {text : String} (h : v.GivesText text) : v.IsShown := by
  obtain ⟨-, shown, hshown, -⟩ := h
  exact ⟨shown, hshown⟩

/-- What gives a text is not blank. -/
theorem GivesText.not_isBlank {v : Value} {text : String} (h : v.GivesText text) : ¬v.IsBlank := by
  obtain ⟨hnull, shown, hshown, rfl, hne⟩ := h
  rintro (rfl | ⟨shown', hshown', hblank⟩)
  · exact hnull rfl
  · obtain rfl := Option.some.inj (hshown.symm.trans hshown')
    exact hne hblank

theorem GivesText.unique {v : Value} {text text' : String} (h : v.GivesText text) (h' : v.GivesText text') :
    text = text' := by
  obtain ⟨-, shown, hshown, rfl, -⟩ := h
  obtain ⟨-, shown', hshown', rfl, -⟩ := h'
  obtain rfl := Option.some.inj (hshown.symm.trans hshown')
  rfl

theorem displayed_of_not_isShown {v : Value} (h : ¬v.IsShown) : v.displayed = .error .longInteger := by
  have hnone : v.display? = none := Option.eq_none_iff_forall_ne_some.2 fun shown hshown => h ⟨shown, hshown⟩
  rw [displayed, hnone]

end Value

namespace Config

/-- A setting gives a text, is blank, or has no text. -/
theorem optionalText_cases (v : Value) :
    (∃ text, optionalText v = .ok (some text) ∧ v.GivesText text) ∨
      (optionalText v = .ok none ∧ v.IsBlank) ∨ (optionalText v = .error .longInteger ∧ ¬v.IsShown) := by
  by_cases hnull : v = .null
  · subst hnull
    exact .inr (.inl ⟨rfl, .inl rfl⟩)
  have hread : optionalText v = v.displayed >>= fun shown =>
      .ok (if Text.strip shown = "" then none else some (Text.strip shown)) := by
    cases v with
    | null => exact absurd rfl hnull
    | _ => rfl
  by_cases hshown : v.IsShown
  · obtain ⟨shown, hshown⟩ := hshown
    rw [Value.displayed_eq_ok.2 hshown] at hread
    by_cases hblank : Text.strip shown = ""
    · refine .inr (.inl ⟨hread.trans ?_, .inr ⟨shown, hshown, hblank⟩⟩)
      exact congrArg Except.ok (if_pos hblank)
    · refine .inl ⟨Text.strip shown, hread.trans ?_, hnull, shown, hshown, rfl, hblank⟩
      exact congrArg Except.ok (if_neg hblank)
  · rw [Value.displayed_of_not_isShown hshown] at hread
    exact .inr (.inr ⟨hread, hshown⟩)

theorem optionalText_eq_some {v : Value} {text : String} : optionalText v = .ok (some text) ↔ v.GivesText text := by
  obtain ⟨given, hread, hgives⟩ | ⟨hread, hblank⟩ | ⟨hread, hshown⟩ := optionalText_cases v
  · rw [hread]
    constructor
    · intro h
      obtain rfl := Option.some.inj (Except.ok.inj h)
      exact hgives
    · intro h
      rw [hgives.unique h]
  · rw [hread]
    exact ⟨nofun, fun h => absurd hblank h.not_isBlank⟩
  · rw [hread]
    exact ⟨nofun, fun h => absurd h.isShown hshown⟩

theorem optionalText_eq_none {v : Value} : optionalText v = .ok none ↔ v.IsBlank := by
  obtain ⟨given, hread, hgives⟩ | ⟨hread, hblank⟩ | ⟨hread, hshown⟩ := optionalText_cases v
  · rw [hread]
    exact ⟨nofun, fun h => absurd h hgives.not_isBlank⟩
  · exact iff_of_true hread hblank
  · rw [hread]
    exact ⟨nofun, fun h => absurd h.isShown hshown⟩

/-! ## Labels -/

/-- The entries label something in a language: the last of them that has the language gives the text, those without a
text left out. -/
def Labels (entries : Value.Entries) (language text : String) : Prop :=
  ∃ before key value after, entries = before ++ (key, value) :: after ∧ key.GivesText language ∧ value.GivesText text ∧
    ∀ entry ∈ after, entry.1.GivesText language → entry.2.IsBlank

/-- There is a text for the keys and the values of all entries. -/
def AreShown (entries : Value.Entries) : Prop := ∀ entry ∈ entries, entry.1.IsShown ∧ entry.2.IsShown

theorem not_labels_nil (language text : String) : ¬Labels [] language text := by
  rintro ⟨before, key, value, after, hentries, -⟩
  simp at hentries

/-- The first entry counts if there is no later one for its language. -/
theorem labels_cons {key value : Value} {rest : Value.Entries} {language text : String} :
    Labels ((key, value) :: rest) language text ↔ Labels rest language text ∨
      (key.GivesText language ∧ value.GivesText text ∧ ∀ entry ∈ rest, entry.1.GivesText language → entry.2.IsBlank) := by
  constructor
  · rintro ⟨before, key', value', after, hentries, hkey, hvalue, hafter⟩
    cases before with
    | nil =>
      obtain ⟨hfirst, rfl⟩ := List.cons.inj hentries
      obtain ⟨rfl, rfl⟩ := Prod.mk.inj hfirst
      exact .inr ⟨hkey, hvalue, hafter⟩
    | cons first before =>
      obtain ⟨-, rfl⟩ := List.cons.inj hentries
      exact .inl ⟨before, key', value', after, rfl, hkey, hvalue, hafter⟩
  · rintro (⟨before, key', value', after, rfl, hlabel⟩ | hlabel)
    · exact ⟨(key, value) :: before, key', value', after, rfl, hlabel⟩
    · exact ⟨[], key, value, rest, rfl, hlabel⟩

/-- An entry is put among the labels that are known, unless one of its sides has no text at all. -/
theorem putLabel_cases (known : Dictionary String) (key value : Value) :
    (∃ result, putLabel known (key, value) = .ok result ∧ (key.IsShown ∧ value.IsShown) ∧
      ∀ language text, result.find? language = some text ↔ key.GivesText language ∧ value.GivesText text ∨
        known.find? language = some text ∧ (key.GivesText language → value.IsBlank)) ∨
      (putLabel known (key, value) = .error .longInteger ∧ ¬(key.IsShown ∧ value.IsShown)) := by
  -- An entry with a blank side leaves the labels as they are.
  have hskip : (∀ language, key.GivesText language → value.IsBlank) → ∀ language text,
      known.find? language = some text ↔ key.GivesText language ∧ value.GivesText text ∨
        known.find? language = some text ∧ (key.GivesText language → value.IsBlank) := by
    intro hblank language text
    constructor
    · exact fun hknown => .inr ⟨hknown, hblank language⟩
    · rintro (⟨hkey, hvalue⟩ | ⟨hknown, -⟩)
      · exact absurd (hblank language hkey) hvalue.not_isBlank
      · exact hknown
  obtain ⟨code, hcode, hkey⟩ | ⟨hcode, hkey⟩ | ⟨hcode, hkey⟩ := optionalText_cases key
  · obtain ⟨label, hlabel, hvalue⟩ | ⟨hlabel, hvalue⟩ | ⟨hlabel, hvalue⟩ := optionalText_cases value
    · refine .inl ⟨known.insert code label, (bind_of_ok hcode).trans (bind_of_ok hlabel),
        ⟨hkey.isShown, hvalue.isShown⟩, fun language text => ?_⟩
      rw [Dictionary.find?_insert]
      by_cases h : language = code
      · subst h
        rw [if_pos rfl, Option.some.injEq]
        constructor
        · rintro rfl
          exact .inl ⟨hkey, hvalue⟩
        · rintro (⟨-, htext⟩ | ⟨-, hblank⟩)
          · exact hvalue.unique htext
          · exact absurd (hblank hkey) hvalue.not_isBlank
      · rw [if_neg h]
        have hother : ¬key.GivesText language := fun hgives => h (hgives.unique hkey)
        exact ⟨fun hknown => .inr ⟨hknown, fun hgives => absurd hgives hother⟩,
          fun hresult => hresult.elim (fun hgives => absurd hgives.1 hother) And.left⟩
    · exact .inl ⟨known, (bind_of_ok hcode).trans (bind_of_ok hlabel), ⟨hkey.isShown, hvalue.isShown⟩,
        hskip fun _ _ => hvalue⟩
    · exact .inr ⟨(bind_of_ok hcode).trans (bind_of_error hlabel), fun hshown => hvalue hshown.2⟩
  · have hnone : ∀ language, key.GivesText language → value.IsBlank := fun _ hgives => absurd hkey hgives.not_isBlank
    obtain ⟨label, hlabel, hvalue⟩ | ⟨hlabel, hvalue⟩ | ⟨hlabel, hvalue⟩ := optionalText_cases value
    · exact .inl ⟨known, (bind_of_ok hcode).trans (bind_of_ok hlabel), ⟨hkey.isShown, hvalue.isShown⟩, hskip hnone⟩
    · exact .inl ⟨known, (bind_of_ok hcode).trans (bind_of_ok hlabel), ⟨hkey.isShown, hvalue.isShown⟩, hskip hnone⟩
    · exact .inr ⟨(bind_of_ok hcode).trans (bind_of_error hlabel), fun hshown => hvalue hshown.2⟩
  · exact .inr ⟨bind_of_error hcode, fun hshown => hkey hshown.1⟩

/-- The labels that are known stay where the entries have no text for their language. -/
theorem foldlM_putLabel_cases (known : Dictionary String) (entries : Value.Entries) :
    (∃ result, entries.foldlM putLabel known = .ok result ∧ AreShown entries ∧
      ∀ language text, result.find? language = some text ↔ Labels entries language text ∨
        known.find? language = some text ∧ ∀ entry ∈ entries, entry.1.GivesText language → entry.2.IsBlank) ∨
      (entries.foldlM putLabel known = .error .longInteger ∧ ¬AreShown entries) := by
  induction entries generalizing known with
  | nil =>
    refine .inl ⟨known, rfl, nofun, fun language text => ?_⟩
    simp [not_labels_nil]
  | cons entry rest ih =>
    obtain ⟨key, value⟩ := entry
    rw [List.foldlM_cons, AreShown, List.forall_mem_cons]
    obtain ⟨next, hput, hentry, hnext⟩ | ⟨hput, hentry⟩ := putLabel_cases known key value
    · rw [hput]
      obtain ⟨result, hfold, hrest, hresult⟩ | ⟨hfold, hrest⟩ := ih next
      · refine .inl ⟨result, hfold, ⟨hentry, hrest⟩, fun language text => ?_⟩
        rw [hresult, hnext, labels_cons, List.forall_mem_cons]
        simp only [or_and_right, or_assoc, and_assoc]
      · exact .inr ⟨hfold, fun hshown => hrest hshown.2⟩
    · rw [hput]
      exact .inr ⟨rfl, fun hshown => hentry hshown.1⟩

/-- A mapping of languages to texts is read if each of its keys and values has a text. -/
theorem labels_cases (place : Place) (v : Value) :
    (∃ result, labels place v = .ok result ∧
        (v = .null ∨ ∃ entries, v.entries? = some entries ∧ AreShown entries) ∧
        ∀ language text, result.find? language = some text ↔ Labels (v.entries?.getD []) language text) ∨
      (labels place v = .error (.config (.translations place)) ∧ v ≠ .null ∧ v.entries? = none) ∨
      (labels place v = .error .longInteger ∧ ∃ entries, v.entries? = some entries ∧ ¬AreShown entries) := by
  by_cases hnull : v = .null
  · subst hnull
    refine .inl ⟨∅, rfl, .inl rfl, fun language text => ?_⟩
    exact iff_of_false nofun (not_labels_nil language text)
  cases hentries : v.entries? with
  | none =>
    have hread : labels place v = .error (.config (.translations place)) := by
      unfold labels
      split
      · exact absurd rfl hnull
      · rw [hentries]
    exact .inr (.inl ⟨hread, hnull, rfl⟩)
  | some entries =>
    have hread : labels place v = entries.foldlM putLabel ∅ := by
      unfold labels
      split
      · exact absurd rfl hnull
      · rw [hentries]
    obtain ⟨result, hfold, hshown, hresult⟩ | ⟨hfold, hshown⟩ := foldlM_putLabel_cases ∅ entries
    · refine .inl ⟨result, hread.trans hfold, .inr ⟨entries, rfl, hshown⟩, fun language text => ?_⟩
      have hempty : (∅ : Dictionary String).find? language ≠ some text := nofun
      rw [hresult, or_iff_left fun hknown => hempty hknown.1, Option.getD_some]
    · exact .inr (.inr ⟨hread.trans hfold, entries, rfl, hshown⟩)

end Config

end GuideSite
