import GuideSite.Masthead.Markup
import GuideSite.Proofs.Markup.Attributes
import GuideSite.Proofs.Page.Selecting

/-!
# The attributes of a masthead link

The link of an entry keeps the translations of its label as attributes that are named after their languages. A language
is any text that a document has for a key, so the name of such an attribute need not stand for itself; then a browser
sees other attributes than those that were meant.

* `translationAttributes_eq`: there is one attribute for each translation.
* `link_infix_markup`: the link of every entry that a page shows is in the markup.
* `readOpening_link`: what a browser reads of the link of an entry.
-/

namespace GuideSite.Masthead

open Markup
open MastheadItem (attributeName translationAttributes)

/-! ## Translations -/

/-- There is one attribute for each translation, in the order of languages. -/
theorem translationAttributes_eq (order : List String) (d : Dictionary String) : ∃ ts : List (String × String),
    ts.Perm d.entries ∧ translationAttributes order d = ts.map fun t => (attributeName t.1, t.2) := by
  refine ⟨(Language.sort order d.keys).map fun code => (code, (d.find? code).getD ""), ?_, ?_⟩
  · have hentries : d.keys.map (fun code => (code, (d.find? code).getD "")) = d.entries := by
      rw [Dictionary.keys, List.map_map]
      refine (List.map_congr_left fun t ht => ?_).trans (List.map_id _)
      simp [Dictionary.find?_of_mem ht]
    rw [← hentries]
    exact (List.mergeSort_perm _ _).map _
  · rw [translationAttributes, List.map_map]
    rfl

/-! ## The place of a link -/

/-- The entries that the pages with these flags show. -/
def entriesShown (m : Masthead) (flags : SectionFlags) : List MastheadEntry :=
  m.primary ++ m.quicknav ++ if m.showsSecondary flags then m.secondary else []

variable (v : View)

theorem infix_element (tag : String) (attributes : List Attribute) (content : Fragment) :
    content <:+: element tag attributes content :=
  List.infix_cons (List.prefix_append _ _).isInfix

theorem link_infix_itemsMarkup (indent : Nat) {items : List MastheadItem} {item : MastheadItem} (h : item ∈ items) :
    linkMarkup item <:+: itemsMarkup indent items := by
  have hitem : itemMarkup indent item <:+: itemsMarkup indent items :=
    List.infix_of_mem_flatten (List.mem_map_of_mem h)
  exact (List.infix_cons (infix_element _ _ _)).trans hitem

/-- The bars are parts of the markup, the secondary one if the page shows it. -/
theorem itemsMarkup_infix_markup :
    itemsMarkup 6 v.primary <:+: markup v ∧ itemsMarkup 12 v.quicknav <:+: markup v ∧
      (v.showsSecondary = true → itemsMarkup 6 v.secondary <:+: markup v) := by
  have hheader : headerMarkup v <:+: markup v := by
    simp only [markup, List.append_assoc]
    exact (List.prefix_append _ _).isInfix
  have hsecondary : v.showsSecondary = true → secondaryMarkup v <:+: markup v := fun hshown => by
    simp only [markup, hshown, if_true]
    exact List.infix_append_of_infix_right (List.infix_cons (List.infix_refl _))
  -- What stands before a bar is taken away piece by piece, until the bar is the first one.
  refine ⟨List.IsInfix.trans ?_ hheader, List.IsInfix.trans ?_ hheader, fun hshown =>
    List.IsInfix.trans ?_ (hsecondary hshown)⟩
  all_goals
    simp only [headerMarkup, quicknavMarkup, secondaryMarkup, element, List.cons_append, List.append_assoc]
    repeat first
      | with_reducible exact (List.prefix_append _ _).isInfix
      | with_reducible apply List.infix_cons
      | with_reducible apply List.infix_append_of_infix_right

/-- The link of every entry that a page shows is a part of the markup. -/
theorem link_infix_markup (m : Masthead) (order : List String) (calls : Script.SearchCalls) (toRoot : String)
    (flags : SectionFlags) (language : String) {e : MastheadEntry} (he : e ∈ m.entriesShown flags) :
    linkMarkup (.ofEntry order flags toRoot language e) <:+: m.fragment order calls toRoot flags language := by
  obtain ⟨hprimary, hquicknav, hsecondary⟩ := itemsMarkup_infix_markup (m.view order calls toRoot flags language)
  obtain he | he := List.mem_append.1 he
  · obtain he | he := List.mem_append.1 he
    · exact (link_infix_itemsMarkup 6 (List.mem_map_of_mem he)).trans hprimary
    · exact (link_infix_itemsMarkup 12 (List.mem_map_of_mem he)).trans hquicknav
  · split at he
    · rename_i hshown
      exact (link_infix_itemsMarkup 6 (List.mem_map_of_mem he)).trans (hsecondary hshown)
    · cases he

/-! ## What a browser reads -/

/-- The attributes that the link of an entry is meant to have: where it leads, its class if it is selected, and one for
each translation. -/
def meantAttributes (flags : SectionFlags) (toRoot : String) (e : MastheadEntry) (translations : List (String × String)) :
    List Attribute :=
  ⟨"href", toRoot ++ e.link⟩ :: ((if e.isSelected flags then [⟨"class", "selected"⟩] else []) ++
    translations.map fun t => ⟨attributeName t.1, t.2⟩)

theorem isAttributeName_meantAttributes {flags : SectionFlags} {toRoot : String} {e : MastheadEntry}
    {ts : List (String × String)} (h : ts.Perm e.translations.entries) :
    (∀ a ∈ meantAttributes flags toRoot e ts, IsAttributeName a.name) ↔
      ∀ code ∈ e.translations.keys, IsAttributeName (attributeName code) := by
  have hkeys : ∀ code, code ∈ e.translations.keys ↔ ∃ t ∈ ts, t.1 = code := fun code => by
    rw [Dictionary.keys, ← (h.map Prod.fst).mem_iff, List.mem_map]
  have hhref : IsAttributeName "href" := by decide
  have hclass : ∀ a ∈ if e.isSelected flags then [Attribute.mk "class" "selected"] else [],
      IsAttributeName a.name := by
    have hname : IsAttributeName "class" := by decide
    cases e.isSelected flags <;> simp [hname]
  simp only [meantAttributes, List.forall_mem_cons, List.forall_mem_append, List.forall_mem_map, hkeys]
  constructor
  · rintro ⟨-, -, hall⟩ code ⟨t, ht, rfl⟩
    exact hall t ht
  · exact fun hall => ⟨hhref, hclass, fun t ht => hall t.1 ⟨t, ht, rfl⟩⟩

/-- **What a browser reads of the link of an entry.** The link is at some place of the masthead. The opening tag that is
read there has the attributes it is meant to have, and no others, just if every language of the translations stands for
itself in the name of an attribute; the label and the texts may be any. -/
theorem readOpening_link (m : Masthead) (order : List String) (calls : Script.SearchCalls) (toRoot : String)
    (flags : SectionFlags) (language : String) {e : MastheadEntry} (he : e ∈ m.entriesShown flags) :
    ∃ before after ts,
      (m.render order calls toRoot flags language).toList =
        before ++ (chars (linkMarkup (.ofEntry order flags toRoot language e)) ++ after) ∧
      ts.Perm e.translations.entries ∧
      (readOpening (chars (linkMarkup (.ofEntry order flags toRoot language e)) ++ after) =
          some (.opening "a" (meantAttributes flags toRoot e ts),
            escape (e.labelFor language).toList ++ ("</a>".toList ++ after)) ↔
        ∀ code ∈ e.translations.keys, IsAttributeName (attributeName code)) := by
  obtain ⟨fbefore, fafter, hmarkup⟩ := link_infix_markup m order calls toRoot flags language he
  obtain ⟨ts, hperm, hts⟩ := translationAttributes_eq order e.translations
  refine ⟨chars fbefore, chars fafter, ts, ?_, hperm, ?_⟩
  · rw [render, Markup.render, String.toList_ofList, ← hmarkup, chars_append, chars_append, List.append_assoc]
  · have hattributes : linkAttributes (.ofEntry order flags toRoot language e) = meantAttributes flags toRoot e ts := by
      simp [linkAttributes, meantAttributes, MastheadItem.ofEntry, hts]
    have hlink : chars (linkMarkup (.ofEntry order flags toRoot language e)) ++ chars fafter =
        (Token.opening "a" (meantAttributes flags toRoot e ts)).chars ++
          (escape (e.labelFor language).toList ++ ("</a>".toList ++ chars fafter)) := by
      rw [linkMarkup, hattributes]
      simp [element, chars, Token.chars, MastheadItem.ofEntry]
    rw [hlink, readOpening_chars (by decide), isAttributeName_meantAttributes hperm]

/-- The stock entry for the developer section is read as it is meant, with its six translations. -/
theorem readOpening_link_stock : Masthead.developEntry ∈ Masthead.stock.entriesShown (.ofNames ["guide"]) ∧
    ∃ before after ts,
      (Masthead.stock.render Language.stockOrder .standard "../" (.ofNames ["guide"]) "en").toList =
        before ++ (chars (linkMarkup (.ofEntry Language.stockOrder (.ofNames ["guide"]) "../" "en" developEntry)) ++
          after) ∧
      readOpening (chars (linkMarkup (.ofEntry Language.stockOrder (.ofNames ["guide"]) "../" "en" developEntry)) ++
          after) =
        some (.opening "a" (meantAttributes (.ofNames ["guide"]) "../" developEntry ts),
          escape "Develop".toList ++ ("</a>".toList ++ after)) := by
  have hmem : developEntry ∈ Masthead.stock.entriesShown (.ofNames ["guide"]) := List.mem_append_left _ (by simp [stock])
  obtain ⟨before, after, ts, hplace, -, hread⟩ :=
    readOpening_link Masthead.stock Language.stockOrder .standard "../" (.ofNames ["guide"]) "en" hmem
  exact ⟨hmem, before, after, ts, hplace, hread.2 (by decide)⟩

/-- A document with one entry in the primary bar, which has a translation. -/
def documentWithTranslation (code text : String) : Value :=
  Config.documentOf ["guide/index.html"] [(.text "masthead", .map [(.text "primary", .list [.map [
    (.text "label", .text "Guide"), (.text "link", .text "guide/index.html"),
    (.text "translations", .map [(.text code, .text text)])]])])]

set_option maxRecDepth 2000 in
/-- A language with blanks in it is accepted, and the link gets a handler for clicks. -/
theorem readOpening_link_handler : ∃ site e,
    Config.site (documentWithTranslation "x onclick=alert(1) y" "Guía") = .ok site ∧
    e ∈ site.masthead.entriesShown ∅ ∧ e.translations.entries = [("x onclick=alert(1) y", "Guía")] ∧
    ∀ after, readOpening (chars (linkMarkup (.ofEntry site.languages ∅ "../" "en" e)) ++ after) =
      some (.opening "a" [⟨"href", "../guide/index.html"⟩, ⟨"x", ""⟩, ⟨"onclick", "alert(1)"⟩, ⟨"y-lang", "Guía"⟩],
        "Guide</a>".toList ++ after) := by
  let e : MastheadEntry :=
    { label := "Guide", link := "guide/index.html", translations := .ofList [("x onclick=alert(1) y", "Guía")] }
  obtain ⟨site, hsite, hprimary⟩ : ∃ site,
      Config.site (documentWithTranslation "x onclick=alert(1) y" "Guía") = .ok site ∧ site.masthead.primary = [e] :=
    ⟨_, rfl, rfl⟩
  have hmem : e ∈ site.masthead.entriesShown ∅ := by simp [entriesShown, hprimary]
  have htranslations : translationAttributes site.languages e.translations = [("x onclick=alert(1) y-lang", "Guía")] := by
    have hkeys : e.translations.keys = ["x onclick=alert(1) y"] := rfl
    rw [translationAttributes, hkeys, Language.sort, List.mergeSort_singleton]
    rfl
  have hitem : MastheadItem.ofEntry site.languages ∅ "../" "en" e =
      ⟨"Guide", "../guide/index.html", false, none, [("x onclick=alert(1) y-lang", "Guía")]⟩ := by
    rw [MastheadItem.ofEntry, htranslations]
    rfl
  refine ⟨site, e, hsite, hmem, by decide, fun after => ?_⟩
  rw [hitem]
  rfl

end GuideSite.Masthead
