import GuideSite.Proofs.Config.Accepted

/-!
# The settings behind a site

Each part of a site was read from the value at some place of its document, or is the stock one where this place holds
nothing. `Value.under` gives the value at a place, key by key; the lemmas take an accepted document apart along it.

* `siteOfEntries_entries`: the settings of a document.
* `mastheadParts`, `logo_eq_ok`: the masthead and its logo, by the places they were read from.
* `mastheadBar_eq_ok`, `entryParts`: the entries of a bar, one by one.
* `exists_entry_of_page`, `flags_of_page`: the pages.
-/

namespace GuideSite

/-- The value under a key of a mapping; nothing, if there is no mapping or the key is not there. -/
def Value.under (v : Value) (key : String) : Value := Value.get (v.entries?.getD []) key

theorem Value.under_eq_get {v : Value} {entries : Value.Entries} (h : v.entries? = some entries) (key : String) :
    v.under key = Value.get entries key := by
  rw [under, h, Option.getD_some]

namespace Config

/-- A document that counts as not given has no settings. -/
theorem siteOfEntries_entries {doc : Value} {s : Site} (h : site doc = .ok s) :
    siteOfEntries (doc.entries?.getD []) = .ok s := by
  unfold site at h
  split at h
  · rename_i entries hentries
    rw [hentries]
    exact h
  · rename_i hnone
    split at h
    · rw [hnone]
      exact h
    · cases h

theorem masthead_of_site {doc : Value} {s : Site} (h : site doc = .ok s) :
    masthead (doc.under "masthead") = .ok s.masthead := by
  obtain ⟨-, -, -, hmasthead, -⟩ := siteOfEntries_eq_ok (siteOfEntries_entries h)
  exact hmasthead

/-- What a masthead was read from. -/
structure MastheadParts (v : Value) (m : Masthead) : Prop where
  logo : Config.logo Masthead.stock.logo (v.under "logo") = .ok m.logo
  primary : mastheadBar "primary" Masthead.stock.primary (v.under "primary") = .ok m.primary
  secondary : mastheadBar "secondary" Masthead.stock.secondary (v.under "secondary") = .ok m.secondary
  quicknav : mastheadBar "quicknav" Masthead.stock.quicknav (v.under "quicknav") = .ok m.quicknav
  moreLinks : Config.moreLinks Masthead.stock.moreLinks (v.under "more_links") = .ok m.moreLinks
  moreHeading : textOr (v.entries?.getD []) "more_heading" Masthead.stock.moreHeading = .ok m.moreHeading
  sectionClass : textOr (v.entries?.getD []) "section_class" Masthead.stock.sectionClass = .ok m.sectionClass
  barFlags : ∃ barFlags, names (v.under "x_nav_flags") = .ok barFlags ∧
    m.barFlags = orStock barFlags Masthead.stock.barFlags

/-- A masthead is given only if each of its parts is. -/
theorem mastheadParts {v : Value} {m : Masthead} (h : masthead v = .ok m) : MastheadParts v m := by
  unfold masthead at h
  split at h
  · obtain rfl := Except.ok.inj h
    exact ⟨rfl, rfl, rfl, rfl, rfl, rfl, rfl, [], rfl, rfl⟩
  · split at h
    · cases h
    · rename_i entries hentries
      obtain ⟨logo, hlogo, h⟩ := bind_eq_ok.1 h
      obtain ⟨primary, hprimary, h⟩ := bind_eq_ok.1 h
      obtain ⟨secondary, hsecondary, h⟩ := bind_eq_ok.1 h
      obtain ⟨quicknav, hquicknav, h⟩ := bind_eq_ok.1 h
      obtain ⟨links, hlinks, h⟩ := bind_eq_ok.1 h
      obtain ⟨barFlags, hflags, h⟩ := bind_eq_ok.1 h
      obtain ⟨heading, hheading, h⟩ := bind_eq_ok.1 h
      obtain ⟨sectionClass, hclass, h⟩ := bind_eq_ok.1 h
      obtain rfl := Except.ok.inj h
      constructor
      all_goals simp only [Value.under_eq_get hentries, hentries, Option.getD_some]
      case barFlags => exact ⟨barFlags, hflags, rfl⟩
      all_goals assumption

/-- The image and the link of a logo are given as texts, or are the stock ones. -/
theorem logo_eq_ok {stock l : Logo} {v : Value} (h : logo stock v = .ok l) :
    textOr (v.entries?.getD []) "src" stock.src = .ok l.src ∧
      textOr (v.entries?.getD []) "link" stock.link = .ok l.link := by
  unfold logo at h
  split at h
  · obtain rfl := Except.ok.inj h
    exact ⟨rfl, rfl⟩
  · split at h
    · cases h
    · rename_i entries hentries
      obtain ⟨width, -, h⟩ := bind_eq_ok.1 h
      obtain ⟨height, -, h⟩ := bind_eq_ok.1 h
      obtain ⟨src, hsrc, h⟩ := bind_eq_ok.1 h
      obtain ⟨alt, -, h⟩ := bind_eq_ok.1 h
      obtain ⟨link, hlink, h⟩ := bind_eq_ok.1 h
      obtain rfl := Except.ok.inj h
      rw [hentries]
      exact ⟨hsrc, hlink⟩

/-! ## Bars -/

/-- The entries of a bar that is given are read one by one. -/
theorem mastheadBar_eq_ok {bar : String} {stock found : List MastheadEntry} {v : Value}
    (h : mastheadBar bar stock v = .ok found) {items : List Value} (hitems : v.items? = some items) :
    items.mapM (mastheadEntry bar) = .ok found := by
  unfold mastheadBar at h
  split at h
  · cases hitems
  · rw [hitems] at h
    exact h

/-- A text that may not be absent is given just if it is there. -/
theorem requiredText_eq_ok {place : Place} {field text : String} {v : Value} :
    requiredText place field v = .ok text ↔ optionalText v = .ok (some text) := by
  rw [requiredText, bind_eq_ok]
  constructor
  · rintro ⟨given, hgiven, h⟩
    cases given with
    | none => cases h
    | some found =>
      obtain rfl := Except.ok.inj h
      exact hgiven
  · exact fun hgiven => ⟨some text, hgiven, rfl⟩

/-- What an entry of a bar was read from. -/
structure EntryParts (v : Value) (e : MastheadEntry) : Prop where
  label : optionalText (v.under "label") = .ok (some e.label)
  link : ∃ link, optionalText (v.under "link") = .ok (some link) ∧ e.link = Text.dropSlashes link
  selectedBy : names (v.under "selected_by") = .ok e.selectedBy
  excludedBy : names (v.under "excluded_by") = .ok e.excludedBy
  translations : ∃ place, labels place (v.under "translations") = .ok e.translations
  cssClass : optionalText (v.under "css_class") = .ok e.cssClass

/-- An entry of a bar is given only if each of its parts is. -/
theorem entryParts {bar : String} {v : Value} {e : MastheadEntry} (h : mastheadEntry bar v = .ok e) :
    EntryParts v e := by
  unfold mastheadEntry at h
  split at h
  · cases h
  · rename_i entries hentries
    split at h
    · rename_i givenLabel givenLink hgivenLabel hgivenLink
      obtain ⟨label, hlabel, h⟩ := bind_eq_ok.1 h
      obtain ⟨link, hlink, h⟩ := bind_eq_ok.1 h
      obtain ⟨selectedBy, hselected, h⟩ := bind_eq_ok.1 h
      obtain ⟨excludedBy, hexcluded, h⟩ := bind_eq_ok.1 h
      obtain ⟨translations, htranslations, h⟩ := bind_eq_ok.1 h
      obtain ⟨cssClass, hclass, h⟩ := bind_eq_ok.1 h
      obtain rfl := Except.ok.inj h
      constructor
      all_goals simp only [Value.under_eq_get hentries]
      case label =>
        rw [Value.get, hgivenLabel]
        exact requiredText_eq_ok.1 hlabel
      case link =>
        rw [Value.get, hgivenLink]
        exact ⟨link, requiredText_eq_ok.1 hlink, rfl⟩
      case translations => exact ⟨_, htranslations⟩
      all_goals assumption
    · cases h

/-! ## Pages -/

/-- Every page was read from an entry. -/
theorem exists_of_pagesFrom {entries : Value.Entries} {known ps : Dictionary Page} (h : pagesFrom known entries = .ok ps) :
    ∀ kept ∈ ps.entries, kept ∈ known.entries ∨ ∃ entry ∈ entries, page entry = .ok kept.2 := by
  induction entries generalizing known with
  | nil =>
    obtain rfl := Except.ok.inj h
    exact fun kept hkept => .inl hkept
  | cons entry rest ih =>
    obtain ⟨p, hp, h⟩ := bind_eq_ok.1 h
    intro kept hkept
    obtain hknown | ⟨later, hlater, hread⟩ := ih h kept hkept
    · obtain rfl | hknown := mem_putEntry hknown
      · exact .inr ⟨entry, List.mem_cons_self, hp⟩
      · exact .inl hknown
    · exact .inr ⟨later, List.mem_cons_of_mem _ hlater, hread⟩

theorem exists_entry_of_page {doc : Value} {s : Site} (h : site doc = .ok s) {p : Page} (hp : p ∈ s.pages.values) :
    ∃ entries, (doc.under "pages").entries? = some entries ∧ ∃ entry ∈ entries, page entry = .ok p := by
  obtain ⟨-, -, -, -, -, hpages, -⟩ := siteOfEntries_eq_ok (siteOfEntries_entries h)
  obtain ⟨kept, hkept, rfl⟩ := List.mem_map.1 hp
  change pages (doc.under "pages") = .ok s.pages at hpages
  unfold pages at hpages
  split at hpages
  · rw [← Except.ok.inj hpages] at hkept
    cases hkept
  · split at hpages
    · rename_i entries hentries
      obtain hnone | hentry := exists_of_pagesFrom hpages kept hkept
      · cases hnone
      · exact ⟨entries, hentries, hentry⟩
    · cases hpages

/-- The settings of a page are found under their keys. -/
theorem under_of_pageSettings {path : String} {v : Value} {settings : Value.Entries}
    (h : pageSettings path v = .ok settings) (key : String) : v.under key = Value.get settings key := by
  unfold pageSettings at h
  split at h
  · rw [← Except.ok.inj h]
    rfl
  · split at h
    · rename_i entries hentries
      rw [← Except.ok.inj h, Value.under_eq_get hentries]
    · cases h

/-- The section flags of a page are read from its settings. -/
theorem flags_of_page {entry : Value × Value} {p : Page} (h : page entry = .ok p) :
    flags (.page p.path) (entry.2.under "flags") = .ok p.flags := by
  obtain ⟨settings, hparts⟩ := exists_pageParts h
  rw [under_of_pageSettings hparts.given]
  exact hparts.flags

end Config

end GuideSite
