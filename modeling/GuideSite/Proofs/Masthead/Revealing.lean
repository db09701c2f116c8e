import GuideSite.Masthead.Markup
import Mathlib.Data.List.Basic

/-!
# What a masthead reveals of the flags

The flags of a page decide which entries of its masthead are highlighted and whether it has the secondary bar, and
nothing else. So the masthead tells two sets of flags apart only by names that it mentions itself, and a page without
the secondary bar not even by the names that only the entries of this bar mention.

* `meets_eq_of_agreesOn`, `map_ofEntry_eq_of_agreesOn`: names and entries.
* `markup_of_hidden`: a bar that is not shown is not in the markup.
* `render_eq_of_agreesOn`: mastheads, by the names that decide what a page shows.
* `render_of_agreesOn`: the names that a masthead mentions.
-/

namespace GuideSite

/-- Two sets hold the same of some names. -/
def NameSet.AgreesOn (names : List String) (s t : NameSet) : Prop := ∀ name ∈ names, name ∈ s ↔ name ∈ t

namespace NameSet

variable {names others : List String} {s t : NameSet}

theorem AgreesOn.mono (h : AgreesOn names s t) (hsub : others ⊆ names) : AgreesOn others s t :=
  fun name hname => h name (hsub hname)

theorem agreesOn_append : AgreesOn (names ++ others) s t ↔ AgreesOn names s t ∧ AgreesOn others s t :=
  List.forall_mem_append

/-- Sets that agree on some names meet them alike. -/
theorem meets_eq_of_agreesOn (h : AgreesOn names s t) : s.meets names = t.meets names := by
  rw [Bool.eq_iff_iff, meets_eq_true, meets_eq_true]
  exact exists_congr fun name => and_congr_right (h name)

end NameSet

open NameSet (AgreesOn)

/-! ## Entries -/

namespace MastheadEntry

/-- The names that decide whether an entry is highlighted. -/
def mentioned (e : MastheadEntry) : List String := e.selectedBy ++ e.excludedBy

variable {flags flags' : SectionFlags}

theorem isSelected_eq_of_agreesOn {e : MastheadEntry} (h : AgreesOn e.mentioned flags flags') :
    e.isSelected flags = e.isSelected flags' := by
  obtain ⟨hselected, hexcluded⟩ := NameSet.agreesOn_append.1 h
  rw [isSelected, isSelected, NameSet.meets_eq_of_agreesOn hselected, NameSet.meets_eq_of_agreesOn hexcluded]

/-- Flags that agree on the names of the entries of a bar make the same items of them. -/
theorem map_ofEntry_eq_of_agreesOn {es : List MastheadEntry} (h : AgreesOn (es.flatMap mentioned) flags flags')
    (order : List String) (toRoot language : String) :
    es.map (MastheadItem.ofEntry order flags toRoot language) =
      es.map (MastheadItem.ofEntry order flags' toRoot language) := by
  apply List.map_congr_left
  intro e he
  have hselected := isSelected_eq_of_agreesOn (h.mono fun name hname => List.mem_flatMap.2 ⟨e, he, hname⟩)
  rw [MastheadItem.ofEntry, MastheadItem.ofEntry, hselected]

end MastheadEntry

namespace Masthead

/-! ## Bars -/

/-- A secondary bar that is not shown is not in the markup. -/
theorem markup_of_hidden {v : View} (h : v.showsSecondary = false) (items : List MastheadItem) :
    markup { v with secondary := items } = markup v := by
  rw [markup, markup, h]
  rfl

/-! ## Mastheads -/

/-- The names that decide what is seen of a masthead on any page: those of the secondary bar, and those of the entries
that every page shows. -/
def mentionedOnEveryPage (m : Masthead) : List String :=
  m.barFlags ++ (m.primary.flatMap MastheadEntry.mentioned ++ m.quicknav.flatMap MastheadEntry.mentioned)

/-- The names that a masthead mentions: those, and the names of the entries of the secondary bar. -/
def mentioned (m : Masthead) : List String :=
  m.mentionedOnEveryPage ++ m.secondary.flatMap MastheadEntry.mentioned

/-- Flags that agree on the names that decide what a page shows give it one masthead. -/
theorem render_eq_of_agreesOn {m : Masthead} {flags flags' : SectionFlags}
    (hpages : AgreesOn m.mentionedOnEveryPage flags flags')
    (hsecondary : m.showsSecondary flags = true →
      AgreesOn (m.secondary.flatMap MastheadEntry.mentioned) flags flags')
    (order : List String) (calls : Script.SearchCalls) (toRoot language : String) :
    m.render order calls toRoot flags language = m.render order calls toRoot flags' language := by
  obtain ⟨hbar, hentries⟩ := NameSet.agreesOn_append.1 hpages
  obtain ⟨hprimary, hquicknav⟩ := NameSet.agreesOn_append.1 hentries
  have hshows : m.showsSecondary flags = m.showsSecondary flags' := NameSet.meets_eq_of_agreesOn hbar
  -- The views are the same but for the items of the secondary bar.
  have hview : m.view order calls toRoot flags' language =
      { m.view order calls toRoot flags language with
        secondary := m.secondary.map (MastheadItem.ofEntry order flags' toRoot language) } := by
    rw [view, view, hshows, MastheadEntry.map_ofEntry_eq_of_agreesOn hprimary,
      MastheadEntry.map_ofEntry_eq_of_agreesOn hquicknav]
  rw [render, render, fragment, fragment, hview]
  cases hcase : m.showsSecondary flags with
  | true =>
    rw [← MastheadEntry.map_ofEntry_eq_of_agreesOn (hsecondary hcase)]
    rfl
  | false =>
    have hhidden : (m.view order calls toRoot flags language).showsSecondary = false := hcase
    exact congrArg Markup.render (markup_of_hidden hhidden _).symm

/-- **A masthead reveals only the flags it mentions.** Two sets of flags that agree on the names it mentions have the
same masthead; where the secondary bar is not shown, the names that only its entries mention do not matter. -/
theorem render_of_agreesOn (m : Masthead) (order : List String) (calls : Script.SearchCalls) (toRoot language : String)
    (flags flags' : SectionFlags) :
    (AgreesOn m.mentioned flags flags' →
      m.render order calls toRoot flags language = m.render order calls toRoot flags' language) ∧
    (m.showsSecondary flags = false → AgreesOn m.mentionedOnEveryPage flags flags' →
      m.render order calls toRoot flags language = m.render order calls toRoot flags' language) := by
  constructor
  · intro h
    obtain ⟨hpages, hsecondary⟩ := NameSet.agreesOn_append.1 h
    exact render_eq_of_agreesOn hpages (fun _ => hsecondary) order calls toRoot language
  · intro hhidden hpages
    refine render_eq_of_agreesOn hpages (fun hshows => ?_) order calls toRoot language
    rw [hhidden] at hshows
    cases hshows

/-- The stock masthead does not tell whether a page is in a section that it does not know, nor, on a page without the
secondary bar, in one that only an entry of this bar excludes. -/
theorem render_of_agreesOn_stock :
    AgreesOn stock.mentioned (SectionFlags.ofNames ["guide"]) (SectionFlags.ofNames ["guide", "draft"]) ∧
    stock.render Language.stockOrder .standard "../" (SectionFlags.ofNames ["guide"]) "en" =
      stock.render Language.stockOrder .standard "../" (SectionFlags.ofNames ["guide", "draft"]) "en" ∧
    "reference.gcm" ∈ stock.mentioned ∧ stock.showsSecondary ∅ = false ∧
    AgreesOn stock.mentionedOnEveryPage ∅ (SectionFlags.ofNames ["reference.gcm"]) ∧
    stock.render Language.stockOrder .standard "../" ∅ "en" =
      stock.render Language.stockOrder .standard "../" (SectionFlags.ofNames ["reference.gcm"]) "en" := by
  have hknown : AgreesOn stock.mentioned (SectionFlags.ofNames ["guide"])
      (SectionFlags.ofNames ["guide", "draft"]) := by
    unfold AgreesOn
    decide
  have hhidden : stock.showsSecondary ∅ = false := by decide
  have hpages : AgreesOn stock.mentionedOnEveryPage ∅ (SectionFlags.ofNames ["reference.gcm"]) := by
    unfold AgreesOn
    decide
  exact ⟨hknown, (render_of_agreesOn stock _ _ _ _ _ _).1 hknown, by decide, hhidden, hpages,
    (render_of_agreesOn stock _ _ _ _ _ _).2 hhidden hpages⟩

end Masthead

end GuideSite
