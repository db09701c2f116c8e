import GuideSite.Proofs.Config.Naming
import GuideSite.Proofs.Config.Settings
import GuideSite.Proofs.Masthead.Decoding
import GuideSite.Proofs.Page.Selecting

/-!
# Highlighting on a page

Which entries of the masthead a page highlights, and whether it has the secondary bar, is fixed by the names that the
document writes: those of the entries, those of the bar, and the flags of the page.

* `isSelected_iff`, `showsSecondary_iff`: an entry and the bar, by the values they were read from.
* `isAsWritten_shown`: what is seen of a masthead that was read from a document.
* `renderPage_highlights`: what is seen on a page.
-/

namespace GuideSite.Masthead

/-! ## Entries and bars -/

/-- Some name that a value writes is a flag that another one writes. -/
def Meets (v flags : Value) : Prop := ∃ name, v.Writes name ∧ flags.WritesFlag name

/-- The document has an entry highlighted on the pages with some flags. -/
def Highlights (flags entry : Value) : Prop :=
  Meets (entry.under "selected_by") flags ∧ ¬Meets (entry.under "excluded_by") flags

/-- The document has the secondary bar on the pages with some flags. Without names for it these are the pages of the
developer section. -/
def BringsBar (flags masthead : Value) : Prop :=
  Meets (masthead.under "x_nav_flags") flags ∨
    (¬∃ name, (masthead.under "x_nav_flags").Writes name) ∧ ∃ name ∈ developerSections, flags.WritesFlag name

section

variable {v : Value} {flags : SectionFlags} (hflags : ∀ name, name ∈ flags ↔ v.WritesFlag name)

include hflags

theorem meets_names {w : Value} {found : List String} (h : Config.names w = .ok found) :
    flags.meets found = true ↔ Meets w v := by
  rw [NameSet.meets_eq_true]
  exact exists_congr fun name => and_congr (Config.mem_names h name) (hflags name)

/-- An entry is highlighted just if the document says so. -/
theorem isSelected_iff {bar : String} {entry : Value} {e : MastheadEntry} (h : Config.mastheadEntry bar entry = .ok e) :
    e.isSelected flags = true ↔ Highlights v entry := by
  have hparts := Config.entryParts h
  rw [MastheadEntry.isSelected, Bool.and_eq_true, Bool.not_eq_true', ← Bool.not_eq_true,
    meets_names hflags hparts.selectedBy, meets_names hflags hparts.excludedBy, Highlights]

/-- The secondary bar is shown just if the document says so. -/
theorem showsSecondary_iff {masthead : Value} {m : Masthead} (h : Config.masthead masthead = .ok m) :
    m.showsSecondary flags = true ↔ BringsBar v masthead := by
  obtain ⟨found, hfound, hbar⟩ := (Config.mastheadParts h).barFlags
  have hwritten : (∃ name, (masthead.under "x_nav_flags").Writes name) ↔ found ≠ [] := by
    simp only [← Config.mem_names hfound, ne_eq, List.eq_nil_iff_forall_not_mem, not_forall, not_not]
  have hmeets := meets_names hflags hfound
  rw [showsSecondary, hbar, BringsBar, hwritten, ← hmeets, Config.orStock, NameSet.meets_eq_true]
  split
  · rename_i hnone
    subst hnone
    simp [NameSet.meets, hflags, Masthead.stock]
  · rename_i hsome
    simp [NameSet.meets_eq_true, hsome]

end

/-! ## What is seen of a masthead -/

/-- The item is that of an entry of the document: its link leads there, without the slashes before it, and it is
highlighted just if the document has it highlighted. -/
def Follows (flags : Value) (toRoot : String) (entry : Value) (item : MastheadItem) : Prop :=
  (∃ link, Config.optionalText (entry.under "link") = .ok (some link) ∧ item.href = toRoot ++ Text.dropSlashes link) ∧
    (item.selected = true ↔ Highlights flags entry)

/-- What is seen of a masthead is what the document says of the pages with some flags: the items of a bar follow the
entries that are given for it one by one, and the secondary bar is there or not. -/
structure Shown.IsAsWritten (flags masthead : Value) (toRoot : String) (s : Shown) : Prop where
  primary : ∀ entries, (masthead.under "primary").items? = some entries →
    List.Forall₂ (Follows flags toRoot) entries s.primary
  quicknav : ∀ entries, (masthead.under "quicknav").items? = some entries →
    List.Forall₂ (Follows flags toRoot) entries s.quicknav
  secondary : ∀ entries items, (masthead.under "secondary").items? = some entries → s.secondary = some items →
    List.Forall₂ (Follows flags toRoot) entries items
  bar : s.secondary.isSome = true ↔ BringsBar flags masthead

/-- The items of a bar follow the entries that are given for it. -/
theorem forall₂_seen {v w : Value} {flags : SectionFlags} (hflags : ∀ name, name ∈ flags ↔ v.WritesFlag name)
    {bar : String} {stock found : List MastheadEntry} (h : Config.mastheadBar bar stock w = .ok found)
    {entries : List Value} (hentries : w.items? = some entries) (order : List String) (toRoot language : String) :
    List.Forall₂ (Follows v toRoot) entries
      ((found.map (.ofEntry order flags toRoot language)).map MastheadItem.seen) := by
  rw [List.map_map, List.forall₂_map_right_iff]
  refine (forall₂_of_mapM (Config.mastheadBar_eq_ok h hentries)).imp fun entry e he => ⟨?_, isSelected_iff hflags he⟩
  obtain ⟨link, hgiven, hlink⟩ := (Config.entryParts he).link
  exact ⟨link, hgiven, congrArg (toRoot ++ ·) hlink⟩

/-- What is seen of a masthead that was read from a document is what the document says. -/
theorem isAsWritten_shown {v masthead : Value} {flags : SectionFlags}
    (hflags : ∀ name, name ∈ flags ↔ v.WritesFlag name) {m : Masthead} (h : Config.masthead masthead = .ok m)
    (order : List String) (calls : Script.SearchCalls) (toRoot language : String) :
    (m.view order calls toRoot flags language).shown.IsAsWritten v masthead toRoot := by
  have hparts := Config.mastheadParts h
  have hbar := showsSecondary_iff hflags h
  constructor
  case primary => exact fun entries hentries => forall₂_seen hflags hparts.primary hentries order toRoot language
  case quicknav => exact fun entries hentries => forall₂_seen hflags hparts.quicknav hentries order toRoot language
  case secondary =>
    intro entries items hentries hitems
    rw [View.shown, view] at hitems
    split at hitems
    · obtain rfl := Option.some.inj hitems
      exact forall₂_seen hflags hparts.secondary hentries order toRoot language
    · cases hitems
  case bar =>
    rw [← hbar, View.shown, view]
    cases m.showsSecondary flags <;> simp

end GuideSite.Masthead

namespace GuideSite.PageBuilder

open Masthead (decode)

/-- The masthead of a page as text. -/
def mastheadOf (b : PageBuilder) (site : Site) (page : Page) : String :=
  b.masthead.render b.languages b.search (Path.toRoot page.path) page.flags (page.languageIn site)

theorem masthead_infix_render (b : PageBuilder) (site : Site) (page : Page) :
    (b.mastheadOf site page).toList <:+: (b.render site page).toList := by
  have hfragment : b.masthead.fragment b.languages b.search (Path.toRoot page.path) page.flags
      (page.languageIn site) <:+: b.fragment site page := by
    simp only [fragment, Page.markup, List.append_assoc]
    exact List.infix_append' _ _ _
  rw [mastheadOf, Masthead.render, render, Markup.render, Markup.render, String.toList_ofList, String.toList_ofList]
  exact hfragment.flatMap _

/-- **A page highlights what the document says.** Every page that is rendered was read from an entry of the document.
Its masthead is a part of its text, and what is seen there is what the names say that the document writes: for the
entries, for the secondary bar, and as the flags of this page. -/
theorem renderPage_highlights {doc : Value} {site : Site} (hsite : Config.site doc = .ok site)
    (search : Script.SearchCalls) (navigation : Script.NavCalls) {path html : String}
    (hrender : (ofSite site search navigation).renderPage site path = .ok html) :
    ∃ page entries, site.page path = .ok page ∧ (doc.under "pages").entries? = some entries ∧
      ∃ entry ∈ entries, Config.page entry = .ok page ∧
        ((ofSite site search navigation).mastheadOf site page).toList <:+: html.toList ∧
        ∃ shown, decode ((ofSite site search navigation).mastheadOf site page) = some shown ∧
          shown.IsAsWritten (entry.2.under "flags") (doc.under "masthead") (Path.toRoot page.path) := by
  obtain ⟨page, hpage, hrender⟩ := bind_eq_ok.1 hrender
  obtain ⟨-, -, hrender⟩ := bind_eq_ok.1 hrender
  obtain rfl := Except.ok.inj hrender
  obtain ⟨entries, hentries, entry, hentry, hread⟩ := Config.exists_entry_of_page hsite (Site.mem_values_of_page hpage)
  have hflags := Config.mem_flags (Config.flags_of_page hread)
  refine ⟨page, entries, hpage, hentries, entry, hentry, hread, masthead_infix_render _ site page, _,
    Masthead.decode_markup (Masthead.hasOwnClasses_view _ _ _ _ _ _), ?_⟩
  exact Masthead.isAsWritten_shown hflags (Config.masthead_of_site hsite) _ _ _ _

/-- A document with one entry in the primary bar and one page, `guide/index.html`, which has flags. -/
def documentWithFlags (selectedBy flags : Value) : Value := .map [
  (.text "toc", .list [.map [(.text "title", .text "Guide"), (.text "link", .text "index.html")]]),
  (.text "pages", .map [(.text "guide/index.html", .map [(.text "title", .text "Guide"), (.text "flags", flags)])]),
  (.text "masthead", .map [(.text "primary", .list [.map [
    (.text "label", .text "Cloud"), (.text "link", .text "gcm.html"), (.text "selected_by", selectedBy)]])])]

/-- A word of the entry meets a leaf of the flags of the page, so the entry is highlighted. -/
theorem renderPage_highlights_nested : ∃ site html,
    Config.site (documentWithFlags (.text "tools\treference.gcm")
      (.map [(.text " reference", .map [(.text "gcm", .bool true)])])) = .ok site ∧
    (ofSite site).renderPage site "guide/index.html" = .ok html ∧
    ∃ page shown item, decode ((ofSite site).mastheadOf site page) = some shown ∧ shown.primary = [item] ∧
      item.selected = true := by
  obtain ⟨site, page, hsite, hpage, hshown⟩ : ∃ site page,
      Config.site (documentWithFlags (.text "tools\treference.gcm")
        (.map [(.text " reference", .map [(.text "gcm", .bool true)])])) = .ok site ∧
      site.page "guide/index.html" = .ok page ∧ site.masthead.checkShown = .ok () :=
    ⟨_, _, rfl, rfl, by decide +kernel⟩
  have hrender : (ofSite site).renderPage site "guide/index.html" = .ok ((ofSite site).render site page) :=
    bind_eq_ok.2 ⟨page, hpage, bind_eq_ok.2 ⟨(), hshown, rfl⟩⟩
  refine ⟨site, _, hsite, hrender, ?_⟩
  obtain ⟨page, entries, -, hentries, entry, hentry, -, -, shown, hdecode, hwritten⟩ :=
    renderPage_highlights hsite .standard .standard hrender
  obtain rfl := Option.some.inj hentries
  obtain rfl := List.mem_singleton.1 hentry
  obtain ⟨item, rest, hfollows, hrest, hitems⟩ := List.forall₂_cons_left_iff.1 (hwritten.primary _ rfl)
  obtain rfl := List.forall₂_nil_left_iff.1 hrest
  have hmeets : Masthead.Meets (.text "tools\treference.gcm")
      (.map [(.text " reference", .map [(.text "gcm", .bool true)])]) := by
    have hword : "reference.gcm" ∈ Text.words "tools\treference.gcm" := by decide
    have hkey : (Value.text "gcm").displayed = .ok "gcm" := rfl
    exact ⟨"reference.gcm", hword, .inr ⟨_, rfl, _, List.mem_cons_self, " reference", rfl,
      .inner rfl List.mem_cons_self rfl hkey .leaf⟩⟩
  have hexcluded : ∀ flags, ¬Masthead.Meets .null flags := fun flags ⟨name, hname, _⟩ => hname
  exact ⟨page, shown, item, hdecode, hitems, hfollows.2.2 ⟨hmeets, hexcluded _⟩⟩

end GuideSite.PageBuilder
