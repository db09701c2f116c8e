import GuideSite.Proofs.Config.WellFormed
import GuideSite.Proofs.Language.Sorting
import GuideSite.Proofs.Masthead.Attributes
import GuideSite.Proofs.Nav.Decoding
import GuideSite.Proofs.Nav.Mirroring
import Mathlib.Data.List.Nodup
import Mathlib.Data.List.Perm.Subperm

/-!
# Ranks of languages

Languages are meant to be listed in their configured order, and those that it does not name after it (`Before`). The
rank of a code is its last position in the order, or the number of different codes if it has none. Both agree with what
is meant as long as no code is repeated: then the last position is the only one, and the number of different codes is
above every position. A repeated code may rank behind one that it stands before, and the last code of an order with
repetitions ranks no higher than the codes that the order does not name.

* `lastPosition?_eq_some_iff`: ranks of known codes.
* `length_le_length_eraseDups_iff`: ranks of unknown codes.
* `pairwise_before_sort`, `pairwise_follows_sort`: what sorting gives without repetitions, and in any order.
* `sort_isInOrder`: the languages of an accepted site, in its navigation and in its masthead.
-/

namespace GuideSite.Language

open MastheadItem (attributeName translationAttributes)

variable {order : List String} {a b : String}

/-- The first code is meant to be listed before the second: known codes by their first occurrences, then unknown codes
by their code points. -/
inductive Before (order : List String) (a b : String) : Prop
  | known (ha : a ∈ order) (hb : b ∈ order) (h : order.idxOf a < order.idxOf b)
  | knownFirst (ha : a ∈ order) (hb : b ∉ order)
  | unknown (ha : a ∉ order) (hb : b ∉ order) (h : a < b)

/-- The listed codes are the given ones, and each is listed before those that it is meant to be listed before. -/
structure IsInOrder (order codes listed : List String) : Prop where
  perm : listed.Perm codes
  pairwise : listed.Pairwise (Before order)

/-- What holds of two codes of a sorted list, whatever the order repeats: known codes stand in the sequence of their
last occurrences, unknown ones by their code points. -/
structure Follows (order : List String) (a b : String) : Prop where
  known : a ∈ order → b ∈ order → order.reverse.idxOf b < order.reverse.idxOf a
  unknown : a ∉ order → b ∉ order → a < b

/-! ## Known codes -/

/-- The last position of a code is that of its first occurrence from the end. -/
theorem lastPosition?_eq_some_iff {i : Nat} :
    lastPosition? a order = some i ↔ a ∈ order ∧ i + order.reverse.idxOf a + 1 = order.length := by
  induction order generalizing i with
  | nil => simp [lastPosition?]
  | cons c cs ih =>
    rw [lastPosition?, List.reverse_cons, List.idxOf_append, List.length_cons]
    by_cases hmem : a ∈ cs
    · have hlt := List.idxOf_lt_length_iff.2 (List.mem_reverse.2 hmem)
      rw [List.length_reverse] at hlt
      have hlast := ih.2 ⟨hmem, show cs.length - cs.reverse.idxOf a - 1 + cs.reverse.idxOf a + 1 = cs.length by omega⟩
      simp only [hlast, List.mem_reverse, hmem, List.mem_cons, or_true, true_and, if_true, Option.some.injEq]
      omega
    · have hlast : lastPosition? a cs = none := Option.eq_none_iff_forall_ne_some.2 fun j hj => hmem (ih.1 hj).1
      by_cases hc : c = a
      · simp [hlast, hmem, hc]
        omega
      · simp [hlast, hmem, hc, Ne.symm hc]

theorem rank_of_mem (h : a ∈ order) : rank order a + order.reverse.idxOf a + 1 = order.length := by
  have hlt := List.idxOf_lt_length_iff.2 (List.mem_reverse.2 h)
  rw [List.length_reverse] at hlt
  have hlast : lastPosition? a order = some (order.length - order.reverse.idxOf a - 1) :=
    lastPosition?_eq_some_iff.2 ⟨h, by omega⟩
  rw [rank, hlast, Option.getD_some]
  omega

theorem rank_of_not_mem (h : a ∉ order) : rank order a = order.eraseDups.length := by
  have hlast : lastPosition? a order = none :=
    Option.eq_none_iff_forall_ne_some.2 fun i hi => h (lastPosition?_eq_some_iff.1 hi).1
  rw [rank, hlast, Option.getD_none]

/-- Without repetitions the last occurrence of a code is the first one. -/
theorem rank_eq_idxOf (hnodup : order.Nodup) (h : a ∈ order) : rank order a = order.idxOf a := by
  have hidx := List.idxOf_lt_length_iff.2 h
  have hreverse : order.reverse.idxOf a = order.length - 1 - order.idxOf a := by
    have hbound : order.length - 1 - order.idxOf a < order.reverse.length := by
      rw [List.length_reverse]
      omega
    have hget : order.reverse[order.length - 1 - order.idxOf a] = a := by
      rw [List.getElem_reverse]
      simp only [show order.length - 1 - (order.length - 1 - order.idxOf a) = order.idxOf a by omega]
      exact List.getElem_idxOf hidx
    conv_lhs => rw [← hget]
    exact (List.nodup_reverse.2 hnodup).idxOf_getElem _ _
  have hrank := rank_of_mem h
  omega

/-! ## Unknown codes -/

/-- The different codes are the keys of a dictionary. -/
theorem nodup_eraseDups (order : List String) : order.eraseDups.Nodup := by
  have hkeys := (Dictionary.ofList (order.map fun code => (code, ()))).nodup
  change (Dictionary.ofList _).keys.Nodup at hkeys
  rwa [Dictionary.keys_ofList, List.map_map, Function.comp_def, List.map_id'] at hkeys

theorem length_le_length_eraseDups_iff : order.length ≤ order.eraseDups.length ↔ order.Nodup := by
  have hsubperm : order.eraseDups.Subperm order :=
    List.subperm_of_subset (nodup_eraseDups order) fun code hcode => List.mem_eraseDups.1 hcode
  constructor
  · intro hle
    exact (hsubperm.perm_of_length_le hle).nodup_iff.1 (nodup_eraseDups order)
  · intro hnodup
    exact (List.subperm_of_subset hnodup fun code hcode => List.mem_eraseDups.2 hcode).length_le

/-! ## Sorting -/

/-- Sorting keeps different codes different, so each ranks before the next ones or is smaller in the same rank. -/
theorem pairwise_sort_of_nodup {codes : List String} (h : codes.Nodup) : (sort order codes).Pairwise fun a b =>
    rank order a < rank order b ∨ rank order a = rank order b ∧ a < b := by
  have hne : (sort order codes).Pairwise (· ≠ ·) := (sort_perm order codes).nodup_iff.2 h
  refine ((pairwise_sort order codes).and hne).imp fun ⟨hprecedes, hne⟩ => ?_
  refine (precedes_iff.1 hprecedes).imp_right fun ⟨hrank, hle⟩ => ⟨hrank, ?_⟩
  exact String.not_le.1 fun hge => hne (String.le_antisymm hle hge)

theorem sort_eq_of_pairwise {codes listed : List String} (hperm : listed.Perm codes)
    (h : listed.Pairwise fun a b => precedes order a b = true) : sort order codes = listed :=
  ((sort_perm order codes).trans hperm.symm).eq_of_pairwise (fun _ _ _ _ => precedes_antisymm)
    (pairwise_sort order codes) h

theorem pairwise_follows_sort {codes : List String} (h : codes.Nodup) :
    (sort order codes).Pairwise (Follows order) := by
  refine (pairwise_sort_of_nodup h).imp fun {a b} hsorted => ⟨fun ha hb => ?_, fun ha hb => ?_⟩
  · have hranka := rank_of_mem ha
    have hrankb := rank_of_mem hb
    obtain hlt | ⟨heq, hlt⟩ := hsorted
    · omega
    · -- Known codes of one rank are the same.
      have hidx : order.reverse.idxOf a = order.reverse.idxOf b := by omega
      obtain rfl := (List.idxOf_inj (List.mem_reverse.2 ha)).1 hidx
      exact absurd hlt (String.lt_irrefl a)
  · rw [rank_of_not_mem ha, rank_of_not_mem hb] at hsorted
    exact (hsorted.resolve_left (lt_irrefl _)).2

theorem pairwise_before_sort (hnodup : order.Nodup) {codes : List String} (h : codes.Nodup) :
    (sort order codes).Pairwise (Before order) := by
  have habove : ∀ {known : String}, known ∈ order → rank order known < order.eraseDups.length := fun hknown => by
    have hlength := length_le_length_eraseDups_iff.2 hnodup
    have hrank := rank_of_mem hknown
    omega
  refine ((pairwise_sort_of_nodup h).and (pairwise_follows_sort h)).imp fun {a b} ⟨hsorted, hfollows⟩ => ?_
  by_cases ha : a ∈ order <;> by_cases hb : b ∈ order
  · have hlast := hfollows.known ha hb
    have hranka := rank_of_mem ha
    have hrankb := rank_of_mem hb
    rw [rank_eq_idxOf hnodup ha] at hranka
    rw [rank_eq_idxOf hnodup hb] at hrankb
    exact .known ha hb (by omega)
  · exact .knownFirst ha hb
  · have hlt := habove hb
    rw [rank_of_not_mem ha] at hsorted
    omega
  · exact .unknown ha hb (hfollows.unknown ha hb)

/-- What is meant to be listed first is not meant to be listed second. -/
theorem Before.eq_of_before (hab : Before order a b) (hba : Before order b a) : a = b := by
  cases hab <;> cases hba <;> first | contradiction | skip
  · omega
  · exact absurd ‹a < b› (String.lt_asymm ‹b < a›)

/-- The last code of an order with repetitions ranks no lower than the blank one, which no order names. -/
theorem nodup_of_forall_isInOrder (hblank : "" ∉ order)
    (h : ∀ codes : List String, codes.Nodup → IsInOrder order codes (sort order codes)) : order.Nodup := by
  rcases order.eq_nil_or_concat with rfl | ⟨front, last, horder⟩
  · exact List.nodup_nil
  · rw [List.concat_eq_append] at horder
    have hlast : last ∈ order := by simp [horder]
    have hne : last ≠ "" := fun heq => hblank (heq ▸ hlast)
    -- With a repetition the two would have ranks the other way round, or one rank, and then the blank code is smaller.
    have hcodes : [last, ""].Nodup := by simp [hne]
    have hsort : sort order [last, ""] = [last, ""] :=
      (h _ hcodes).perm.eq_of_pairwise (fun _ _ _ _ => Before.eq_of_before) (h _ hcodes).pairwise
        (List.pairwise_pair.2 (.knownFirst hlast hblank))
    have hranks := @pairwise_sort_of_nodup order _ hcodes
    rw [hsort, List.pairwise_pair, rank_of_not_mem hblank] at hranks
    have hlt : rank order last < order.eraseDups.length := hranks.resolve_right fun htie =>
      List.not_lt_nil last.toList (String.lt_iff.1 htie.2)
    have hrank := rank_of_mem hlast
    have hidx : order.reverse.idxOf last = 0 := by simp [horder]
    rw [← length_le_length_eraseDups_iff]
    omega

/-! ## Navigation and masthead -/

/-- The labels of an item are in the languages of its node, sorted, and so are those of the items below it. -/
inductive IsSorted (order : List String) : NavNode → NavItem → Prop
  | intro {n : NavNode} {item : NavItem}
      (spans : item.spans.map LabelSpan.language = sort order n.labelVariants.keys)
      (children : List.Forall₂ (IsSorted order) n.children item.children) : IsSorted order n item

mutual

theorem isSorted_ofNode (order : List String) (toRoot language : String) : ∀ n : NavNode,
    IsSorted order n (.ofNode order toRoot language n)
  | ⟨title, link, labels, children⟩ => by
    rw [NavItem.ofNode]
    exact .intro (NavNode.languages_spans _ order language) (isSorted_ofNodes order toRoot language children)

theorem isSorted_ofNodes (order : List String) (toRoot language : String) : ∀ ns : List NavNode,
    List.Forall₂ (IsSorted order) ns (NavItem.ofNodes order toRoot language ns)
  | [] => .nil
  | n :: ns => .cons (isSorted_ofNode order toRoot language n) (isSorted_ofNodes order toRoot language ns)

end

theorem attributeName_injective : Function.Injective attributeName := fun a b h => by
  simpa [attributeName] using h

/-- The translations of an entry stand at its link in the sequence of their languages, sorted. -/
theorem exists_sorted_translations (m : Masthead) (order : List String) (calls : Script.SearchCalls) (toRoot : String)
    (flags : SectionFlags) (language : String) {e : MastheadEntry} (he : e ∈ m.entriesShown flags) :
    ∃ ts : List (String × String), ts.Perm e.translations.entries ∧
      ts.map Prod.fst = sort order e.translations.keys ∧
      .opening "a" (Masthead.meantAttributes flags toRoot e ts) ∈ m.fragment order calls toRoot flags language := by
  obtain ⟨ts, hperm, hts⟩ := Masthead.translationAttributes_eq order e.translations
  refine ⟨ts, hperm, ?_, ?_⟩
  · have hnames := congrArg (List.map Prod.fst) hts
    rw [translationAttributes, List.map_map, List.map_map] at hnames
    have hback : (ts.map Prod.fst).map attributeName = (sort order e.translations.keys).map attributeName := by
      rw [List.map_map]
      exact hnames.symm
    exact List.map_injective_iff.2 attributeName_injective hback
  · have hattributes : Masthead.linkAttributes (.ofEntry order flags toRoot language e) =
        Masthead.meantAttributes flags toRoot e ts := by
      simp [Masthead.linkAttributes, Masthead.meantAttributes, MastheadItem.ofEntry, hts]
    rw [← hattributes]
    exact (Masthead.link_infix_markup m order calls toRoot flags language he).subset List.mem_cons_self

theorem blank_not_mem_languages {doc : Value} {s : Site} (h : Config.site doc = .ok s) : "" ∉ s.languages := by
  obtain ⟨entries, h⟩ := Config.siteOfEntries_of_site h
  obtain ⟨_, -, -, -, -, -, -, -, languages, hlanguages, heq⟩ := Config.siteOfEntries_eq_ok h
  intro hmem
  rw [heq] at hmem
  exact ((Config.orStock_trimmed (Config.names_trimmed hlanguages) (by decide)).2 "" hmem).ne_empty rfl

/-- **The languages of an accepted site.** Sorting any different codes lists them as they are meant to be listed just if
the order of the site has no repetitions; in any order, known codes are listed in the sequence of their last
occurrences, and unknown ones by their code points. This is how the navigation of a page lists the labels of each node,
at any depth, and how the link of each entry of the masthead lists its translations. -/
theorem sort_isInOrder {doc : Value} {s : Site} (h : Config.site doc = .ok s) :
    ((∀ codes, codes.Nodup → IsInOrder s.languages codes (sort s.languages codes)) ↔ s.languages.Nodup) ∧
    (∀ codes, codes.Nodup → (sort s.languages codes).Perm codes ∧
      (sort s.languages codes).Pairwise (Follows s.languages)) ∧
    (∀ calls toRoot language, ∃ items,
      Nav.decode (Nav.render calls s.languages s.toc toRoot language) = some items ∧
        List.Forall₂ (IsSorted s.languages) s.toc items) ∧
    ∀ calls toRoot flags language, ∀ e ∈ s.masthead.entriesShown flags, ∃ ts : List (String × String),
      ts.Perm e.translations.entries ∧ ts.map Prod.fst = sort s.languages e.translations.keys ∧
        .opening "a" (Masthead.meantAttributes flags toRoot e ts) ∈
          s.masthead.fragment s.languages calls toRoot flags language := by
  refine ⟨⟨nodup_of_forall_isInOrder (blank_not_mem_languages h), fun hnodup codes hcodes => ?_⟩,
    fun codes hcodes => ?_, fun calls toRoot language => ?_, fun calls toRoot flags language e he => ?_⟩
  · exact ⟨sort_perm _ codes, pairwise_before_sort hnodup hcodes⟩
  · exact ⟨sort_perm _ codes, pairwise_follows_sort hcodes⟩
  · exact ⟨_, Nav.decode_tree calls s.languages s.toc toRoot language,
      isSorted_ofNodes s.languages toRoot language s.toc⟩
  · exact exists_sorted_translations s.masthead s.languages calls toRoot flags language he

theorem sort_isInOrder_untidy : ∃ s, Config.site Config.untidyDocument = .ok s ∧ s.languages = ["en", "de"] ∧
    ((∀ codes, codes.Nodup → IsInOrder s.languages codes (sort s.languages codes)) ↔ s.languages.Nodup) ∧
    (∀ codes, codes.Nodup → (sort s.languages codes).Perm codes ∧
      (sort s.languages codes).Pairwise (Follows s.languages)) ∧
    (∀ calls toRoot language, ∃ items,
      Nav.decode (Nav.render calls s.languages s.toc toRoot language) = some items ∧
        List.Forall₂ (IsSorted s.languages) s.toc items) ∧
    ∀ calls toRoot flags language, ∀ e ∈ s.masthead.entriesShown flags, ∃ ts : List (String × String),
      ts.Perm e.translations.entries ∧ ts.map Prod.fst = sort s.languages e.translations.keys ∧
        .opening "a" (Masthead.meantAttributes flags toRoot e ts) ∈
          s.masthead.fragment s.languages calls toRoot flags language :=
  ⟨_, rfl, rfl, @sort_isInOrder Config.untidyDocument _ rfl⟩

/-- A document whose order of languages names one of them twice. -/
def repeatingDocument : Value := .map [
  (.text "toc", .list [.map [(.text "title", .text "Guide"), (.text "link", .text "index.html")]]),
  (.text "defaults", .map [(.text "languages", .text "en ja en")])]

/-- The repeated language is listed after one that it stands before, and after one that the order does not name. -/
theorem sort_isInOrder_repeating : ∃ s, Config.site repeatingDocument = .ok s ∧ s.languages = ["en", "ja", "en"] ∧
    sort s.languages ["en", "ja"] = ["ja", "en"] ∧ sort s.languages ["en", "de"] = ["de", "en"] :=
  ⟨_, rfl, rfl, sort_eq_of_pairwise (.swap "en" "ja" []) (List.pairwise_pair.2 (by decide)),
    sort_eq_of_pairwise (.swap "en" "de" []) (List.pairwise_pair.2 (by decide))⟩

end GuideSite.Language
