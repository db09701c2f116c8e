import GuideSite.Masthead.Markup
import GuideSite.Proofs.Markup.Reading

/-!
# Reading the masthead

* `isReadable_markup`: every token of a masthead can be read back, whatever its texts are.
-/

namespace GuideSite.Masthead

open Markup

variable (v : View)

theorem isReadable_itemMarkup (indent : Nat) (item : MastheadItem) : IsReadable (itemMarkup indent item) := by
  simp only [itemMarkup, linkMarkup, isReadable_newline, isReadable_cons, isReadable_element, isReadable_nil,
    isReadable_text]
  decide

theorem isReadable_itemsMarkup (indent : Nat) (items : List MastheadItem) :
    IsReadable (itemsMarkup indent items) :=
  isReadable_flatMap fun item _ => isReadable_itemMarkup indent item

theorem isReadable_moreLinks (links : List ExternalLink) :
    IsReadable (links.flatMap moreLinkMarkup) := by
  refine isReadable_flatMap fun link _ => ?_
  simp only [moreLinkMarkup, isReadable_newline, isReadable_cons, isReadable_element, isReadable_nil, isReadable_text]
  decide

theorem isReadable_logoMarkup : IsReadable (logoMarkup v) := by
  simp only [logoMarkup, List.cons_append, isReadable_append, isReadable_cons, isReadable_element,
    isReadable_nil, isReadable_newline, isReadable_single, isReadable_text]
  decide

theorem isReadable_moreMarkup : IsReadable (moreMarkup v) := by
  simp only [moreMarkup, emptyBlock, List.cons_append, isReadable_append, isReadable_cons,
    isReadable_element, isReadable_nil, isReadable_newline, isReadable_moreLinks, isReadable_single, isReadable_text]
  decide

theorem isReadable_searchMarkup (s : Script.SearchHandlers) : IsReadable (searchMarkup s) := by
  simp only [searchMarkup, emptyBlock, List.cons_append, isReadable_append, isReadable_cons,
    isReadable_element, isReadable_nil, isReadable_newline, isReadable_single, isReadable_text]
  decide

theorem isReadable_quicknavMarkup : IsReadable (quicknavMarkup v) := by
  simp only [quicknavMarkup, List.cons_append, isReadable_append, isReadable_cons, isReadable_element,
    isReadable_nil, isReadable_newline, isReadable_itemsMarkup]
  decide

theorem isReadable_headerMarkup : IsReadable (headerMarkup v) := by
  have hopen : IsRemark "<!-- Header -->" := ⟨"-- Header --".toList, rfl, by decide, by decide⟩
  have hclose : IsRemark "<!-- /Header -->" := ⟨"-- /Header --".toList, rfl, by decide, by decide⟩
  simp only [headerMarkup, List.cons_append, isReadable_append, isReadable_cons, isReadable_element,
    isReadable_nil, isReadable_newline, isReadable_itemsMarkup, isReadable_logoMarkup, isReadable_moreMarkup,
    isReadable_searchMarkup, isReadable_quicknavMarkup, isReadable_verbatim, hopen, hclose]
  decide

theorem isReadable_secondaryMarkup : IsReadable (secondaryMarkup v) := by
  have hopen : IsRemark "<!-- Secondary x-nav -->" := ⟨"-- Secondary x-nav --".toList, rfl, by decide, by decide⟩
  have hclose : IsRemark "<!-- /Secondary x-nav -->" := ⟨"-- /Secondary x-nav --".toList, rfl, by decide, by decide⟩
  simp only [secondaryMarkup, isReadable_append, isReadable_cons, isReadable_element, isReadable_nil,
    isReadable_newline, isReadable_itemsMarkup, isReadable_verbatim, hopen, hclose]
  decide

/-- The masthead can be read back, whatever its texts are. -/
theorem isReadable_markup : IsReadable (markup v) := by
  have hresults : IsReadable resultsMarkup := by
    simp only [resultsMarkup, List.cons_append, isReadable_append, isReadable_cons, isReadable_element,
      isReadable_nil, isReadable_newline, isReadable_text]
    decide
  simp only [markup, isReadable_append, isReadable_cons, isReadable_nil, isReadable_newline,
    isReadable_headerMarkup, hresults]
  split <;> simp [isReadable_secondaryMarkup]

end GuideSite.Masthead
