import GuideSite.Masthead.Markup
import GuideSite.Nav.Markup
import GuideSite.Page.Builder
import GuideSite.Proofs.Data.Dictionary
import GuideSite.Proofs.Language.Sorting
import Mathlib.Data.List.Forall2

/-!
# Translations in another order

The translations of a node or of an entry are written in some order, and the order of languages decides in which order a
page shows them. So two sites that differ only in the order in which their translations are written have the same
navigation and the same masthead.

* `spans_eq_of_reordered`, `ofNodes_eq_of_reordered`: nodes.
* `ofEntry_eq_of_reordered`, `view_eq_of_reordered`: entries and mastheads.
* `render_of_reordered`: the markup.
-/

namespace GuideSite

/-! ## The navigation -/

namespace NavNode

/-- The nodes, and those below them, differ at most in the order in which their labels are written. -/
inductive Reordered : NavNode → NavNode → Prop
  | intro {n n' : NavNode} (title : n.title = n'.title) (link : n.link = n'.link)
      (labels : n.labels.entries.Perm n'.labels.entries) (children : List.Forall₂ Reordered n.children n'.children) :
      Reordered n n'

section Labels

variable {n n' : NavNode} (h : n.Reordered n')

include h

theorem labelVariants_perm : n.labelVariants.entries.Perm n'.labelVariants.entries := by
  obtain ⟨htitle, -, hlabels, -⟩ := h
  rw [labelVariants, labelVariants, htitle]
  exact (hlabels.filter _).cons _

/-- The labels are shown in the order of languages, whatever order they are written in. -/
theorem spans_eq_of_reordered (order : List String) (language : String) :
    n.spans order language = n'.spans order language := by
  have hlabels := labelVariants_perm h
  have hkeys : n.labelVariants.keys.Perm n'.labelVariants.keys := hlabels.map Prod.fst
  have hshown : n.shownLanguage language = n'.shownLanguage language := by
    simp only [shownLanguage, hkeys.mem_iff]
  rw [spans, spans, Language.sort_eq_of_perm order hkeys, hshown]
  simp only [Dictionary.find?_eq_of_perm hlabels]

theorem isSection_eq_of_reordered : n.isSection = n'.isSection := by
  obtain ⟨-, -, -, hchildren⟩ := h
  rw [isSection, isSection]
  generalize n.children = children, n'.children = children' at hchildren
  cases hchildren <;> rfl

end Labels

end NavNode

namespace NavItem

mutual

theorem ofNode_eq_of_reordered (order : List String) (toRoot language : String) : ∀ n n' : NavNode,
    n.Reordered n' → ofNode order toRoot language n = ofNode order toRoot language n'
  | ⟨title, link, labels, children⟩, ⟨title', link', labels', children'⟩, h => by
    have hspans := NavNode.spans_eq_of_reordered h order language
    have hsection := NavNode.isSection_eq_of_reordered h
    obtain ⟨-, hlink, -, hchildren⟩ := h
    dsimp only at hlink hchildren
    rw [ofNode, ofNode, hspans, hsection, hlink, ofNodes_eq_of_reordered order toRoot language _ _ hchildren]

theorem ofNodes_eq_of_reordered (order : List String) (toRoot language : String) : ∀ ns ns' : List NavNode,
    List.Forall₂ NavNode.Reordered ns ns' → ofNodes order toRoot language ns = ofNodes order toRoot language ns'
  | [], [], _ => rfl
  | n :: ns, n' :: ns', h => by
    obtain ⟨hnode, hnodes⟩ := List.forall₂_cons.1 h
    rw [ofNodes, ofNodes, ofNode_eq_of_reordered order toRoot language n n' hnode,
      ofNodes_eq_of_reordered order toRoot language ns ns' hnodes]

end

end NavItem

/-! ## The masthead -/

namespace MastheadEntry

/-- The entries differ at most in the order in which their translations are written. -/
structure Reordered (e e' : MastheadEntry) : Prop where
  translations : e.translations.entries.Perm e'.translations.entries
  others : { e' with translations := e.translations } = e

theorem ofEntry_eq_of_reordered {e e' : MastheadEntry} (h : e.Reordered e') (order : List String)
    (flags : SectionFlags) (toRoot language : String) :
    MastheadItem.ofEntry order flags toRoot language e = MastheadItem.ofEntry order flags toRoot language e' := by
  obtain ⟨hentries, hothers⟩ := h
  have hkeys : e.translations.keys.Perm e'.translations.keys := hentries.map Prod.fst
  have hfind := Dictionary.find?_eq_of_perm hentries
  have htranslations : MastheadItem.translationAttributes order e.translations =
      MastheadItem.translationAttributes order e'.translations := by
    rw [MastheadItem.translationAttributes, MastheadItem.translationAttributes, Language.sort_eq_of_perm order hkeys]
    simp only [hfind]
  have hlabel : e.labelFor language = e'.labelFor language := by
    rw [labelFor, labelFor, hfind, ← hothers]
  rw [MastheadItem.ofEntry, MastheadItem.ofEntry, hlabel, htranslations, ← hothers]
  rfl

end MastheadEntry

namespace Masthead

/-- The mastheads differ at most in the order in which the translations of their entries are written. -/
structure Reordered (m m' : Masthead) : Prop where
  primary : List.Forall₂ MastheadEntry.Reordered m.primary m'.primary
  secondary : List.Forall₂ MastheadEntry.Reordered m.secondary m'.secondary
  quicknav : List.Forall₂ MastheadEntry.Reordered m.quicknav m'.quicknav
  others : { m' with primary := m.primary, secondary := m.secondary, quicknav := m.quicknav } = m

theorem map_ofEntry_eq_of_reordered {es es' : List MastheadEntry} (h : List.Forall₂ MastheadEntry.Reordered es es')
    (order : List String) (flags : SectionFlags) (toRoot language : String) :
    es.map (MastheadItem.ofEntry order flags toRoot language) =
      es'.map (MastheadItem.ofEntry order flags toRoot language) := by
  induction h with
  | nil => rfl
  | cons hentry _ ih =>
    rw [List.map_cons, List.map_cons, ih, MastheadEntry.ofEntry_eq_of_reordered hentry]

/-- A page shows the same of both mastheads. -/
theorem view_eq_of_reordered {m m' : Masthead} (h : m.Reordered m') (order : List String) (calls : Script.SearchCalls)
    (toRoot : String) (flags : SectionFlags) (language : String) :
    m.view order calls toRoot flags language = m'.view order calls toRoot flags language := by
  obtain ⟨hprimary, hsecondary, hquicknav, hothers⟩ := h
  rw [view, view, map_ofEntry_eq_of_reordered hprimary, map_ofEntry_eq_of_reordered hsecondary,
    map_ofEntry_eq_of_reordered hquicknav, ← hothers]
  rfl

end Masthead

/-! ## The markup -/

/-- **The order in which translations are written is not seen.** It changes neither the navigation nor the masthead of
any page, whatever the order of languages is, nor whether the masthead can be shown. -/
theorem render_of_reordered :
    (∀ {nodes nodes' : List NavNode}, List.Forall₂ NavNode.Reordered nodes nodes' →
      ∀ (calls : Script.NavCalls) (order : List String) (toRoot language : String),
        Nav.render calls order nodes toRoot language = Nav.render calls order nodes' toRoot language) ∧
    ∀ {m m' : Masthead}, m.Reordered m' → m.checkShown = m'.checkShown ∧
      ∀ (order : List String) (calls : Script.SearchCalls) (toRoot : String) (flags : SectionFlags) (language : String),
        m.render order calls toRoot flags language = m'.render order calls toRoot flags language := by
  constructor
  · intro nodes nodes' h calls order toRoot language
    rw [Nav.render, Nav.render, Nav.fragment, Nav.fragment, NavItem.ofNodes_eq_of_reordered _ _ _ _ _ h]
  · intro m m' h
    have hlogo : m.logo = m'.logo := by rw [← h.others]
    refine ⟨by rw [Masthead.checkShown, Masthead.checkShown, hlogo], ?_⟩
    intro order calls toRoot flags language
    rw [Masthead.render, Masthead.render, Masthead.fragment, Masthead.fragment, Masthead.view_eq_of_reordered h]

/-- A table of contents with labels for a node below another one. -/
def treeWithLabels (labels : Dictionary String) : List NavNode :=
  [⟨"Docs", "index.html", ∅, [⟨"Guide", "guide.html", labels, []⟩]⟩]

/-- The stock masthead with translations for its first entry. -/
def mastheadWithLabels (labels : Dictionary String) : Masthead :=
  { Masthead.stock with primary := [{ Masthead.developEntry with translations := labels }] }

/-- Labels in two orders, where the order of languages has one of them twice and another one not at all. -/
theorem render_of_reordered_nested :
    let labels : Dictionary String := .ofList [("ja", "ガイド"), ("en", "Manual"), ("zz", "Guid")]
    let labels' : Dictionary String := .ofList [("zz", "Guid"), ("ja", "ガイド"), ("en", "Manual")]
    labels ≠ labels' ∧ List.Forall₂ NavNode.Reordered (treeWithLabels labels) (treeWithLabels labels') ∧
      (mastheadWithLabels labels).Reordered (mastheadWithLabels labels') ∧
      Nav.render .standard ["ja", "fr", "ja"] (treeWithLabels labels) "../" "ja" =
        Nav.render .standard ["ja", "fr", "ja"] (treeWithLabels labels') "../" "ja" ∧
      (mastheadWithLabels labels).render ["ja", "fr", "ja"] .standard "../" ∅ "ja" =
        (mastheadWithLabels labels').render ["ja", "fr", "ja"] .standard "../" ∅ "ja" := by
  intro labels labels'
  have hperm : labels.entries.Perm labels'.entries := by decide
  have htree : List.Forall₂ NavNode.Reordered (treeWithLabels labels) (treeWithLabels labels') :=
    .cons (.intro rfl rfl (.refl _) (.cons (.intro rfl rfl hperm .nil) .nil)) .nil
  have hentries (es : List MastheadEntry) : List.Forall₂ MastheadEntry.Reordered es es :=
    List.forall₂_same.2 fun e _ => ⟨.refl _, rfl⟩
  have hmasthead : (mastheadWithLabels labels).Reordered (mastheadWithLabels labels') :=
    ⟨.cons ⟨hperm, rfl⟩ .nil, hentries _, hentries _, rfl⟩
  exact ⟨by decide, htree, hmasthead, render_of_reordered.1 htree _ _ _ _,
    (render_of_reordered.2 hmasthead).2 _ _ _ _ _⟩

end GuideSite
