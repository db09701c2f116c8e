import GuideSite.Nav.Item
import GuideSite.Proofs.Data.Dictionary
import GuideSite.Proofs.Language.Sorting
import Mathlib.Data.List.Forall2

/-!
# Items mirror their nodes

The items of a page have the shape of the table of contents, and each of them says the same as its node: its link below
the root, its labels in every language it has, and the one label that is visible. The language of the page decides only
which label this is.

* `mem_keys_labelVariants`, `labelFor_eq`: the labels of a node.
* `isLabelledBy_spans`: the spans of a node are its labels, and one of them is visible.
* `mirrors_ofNodes`, `unmarkedAll_ofNodes`: items and nodes, and items in two languages.
* `ofNodes_mirrors`: both for any table of contents.
-/

namespace GuideSite

namespace NavNode

/-! ## Labels -/

/-- A node has a label in the standard language and in those of its labels. -/
theorem mem_keys_labelVariants {n : NavNode} {code : String} :
    code ∈ n.labelVariants.keys ↔ code = Language.standard ∨ code ∈ n.labels.keys := by
  by_cases h : code = Language.standard
  · simp [labelVariants, Dictionary.keys, h]
  · simp [labelVariants, Dictionary.keys, Dictionary.erase, h]

/-- The title is the label in the standard language, whatever the labels say of it. -/
theorem find?_labelVariants (n : NavNode) (code : String) :
    n.labelVariants.find? code = if code = Language.standard then some n.title else n.labels.find? code := by
  have hlookup : n.labelVariants.find? code =
      if code = Language.standard then some n.title else (n.labels.erase Language.standard).find? code := by
    rw [Dictionary.find?, labelVariants, List.lookup_cons]
    by_cases h : code = Language.standard
    · simp [h]
    · rw [beq_false_of_ne h, if_neg h]
      rfl
  rw [hlookup, Dictionary.find?_erase]
  split <;> rfl

/-- The label is the title in the standard language; in another one it is the label that is there, or else the title. -/
theorem labelFor_eq (n : NavNode) (language : String) : n.labelFor language =
    if language = Language.standard then n.title else (n.labels.find? language).getD n.title := by
  rw [labelFor, find?_labelVariants]
  split <;> rfl

/-! ## Spans -/

/-- The spans are the labels of a node: there is one in every language that the node has a label in, and none twice;
each has the label in its language; one of them is visible, with the label that the page is to show. -/
structure IsLabelledBy (n : NavNode) (language : String) (spans : List LabelSpan) : Prop where
  mem_languages : ∀ code, code ∈ spans.map LabelSpan.language ↔ code = Language.standard ∨ code ∈ n.labels.keys
  nodup_languages : (spans.map LabelSpan.language).Nodup
  text : ∀ span ∈ spans, span.text = n.labelFor span.language
  visible : ∃ span, spans.filter LabelSpan.visible = [span] ∧ span.text = n.labelFor language

theorem shownLanguage_mem (n : NavNode) (language : String) : n.shownLanguage language ∈ n.labelVariants.keys := by
  rw [shownLanguage]
  split
  · assumption
  · exact mem_keys_labelVariants.2 (.inl rfl)

/-- A language without a label shows the title. -/
theorem labelFor_shownLanguage (n : NavNode) (language : String) :
    n.labelFor (n.shownLanguage language) = n.labelFor language := by
  rw [shownLanguage]
  split
  · rfl
  · rename_i hnone
    rw [mem_keys_labelVariants, not_or] at hnone
    have hlabel : n.labels.find? language = none := by
      rw [← Option.not_isSome_iff_eq_none, Dictionary.isSome_find?_iff]
      exact hnone.2
    rw [labelFor_eq, labelFor_eq, if_pos rfl, if_neg hnone.1, hlabel, Option.getD_none]

theorem languages_spans (n : NavNode) (order : List String) (language : String) :
    (n.spans order language).map LabelSpan.language = Language.sort order n.labelVariants.keys := by
  rw [spans, List.map_map]
  exact List.map_id _

/-- The text of a span is the label in its language. -/
theorem getD_find?_labelVariants {n : NavNode} {code : String} (h : code ∈ n.labelVariants.keys) :
    (n.labelVariants.find? code).getD "" = n.labelFor code := by
  obtain ⟨text, htext⟩ := Option.isSome_iff_exists.1 (Dictionary.isSome_find?_iff.2 h)
  rw [labelFor, htext]
  rfl

/-- The spans of a node are its labels. -/
theorem isLabelledBy_spans (n : NavNode) (order : List String) (language : String) :
    n.IsLabelledBy language (n.spans order language) := by
  have hperm := Language.sort_perm order n.labelVariants.keys
  have hnodup : (Language.sort order n.labelVariants.keys).Nodup := hperm.nodup_iff.2 n.labelVariants.nodup
  constructor
  case mem_languages =>
    intro code
    rw [languages_spans, hperm.mem_iff, mem_keys_labelVariants]
  case nodup_languages =>
    rw [languages_spans]
    exact hnodup
  case text =>
    intro span hspan
    obtain ⟨code, hcode, rfl⟩ := List.mem_map.1 hspan
    exact getD_find?_labelVariants (hperm.mem_iff.1 hcode)
  case visible =>
    have hshown := shownLanguage_mem n language
    -- The visible spans are those of the language that is shown, which stands once in the list of languages.
    have hfilter : (Language.sort order n.labelVariants.keys).filter (· == n.shownLanguage language) =
        [n.shownLanguage language] := by
      rw [List.filter_beq, hnodup.count, if_pos (hperm.mem_iff.2 hshown), List.replicate_one]
    refine ⟨⟨n.shownLanguage language, n.labelFor language, true⟩, ?_, rfl⟩
    have htext := (getD_find?_labelVariants hshown).trans (labelFor_shownLanguage n language)
    rw [spans, List.filter_map]
    change ((Language.sort order n.labelVariants.keys).filter (· == n.shownLanguage language)).map _ = _
    rw [hfilter, List.map_singleton, htext, beq_self_eq_true]

end NavNode

/-! ## Items -/

namespace NavItem

/-- The item says on a page what its node says, and so do the items below it, one for each node below the node. -/
inductive Mirrors (toRoot language : String) : NavNode → NavItem → Prop
  | intro {n : NavNode} {item : NavItem} (href : item.href = toRoot ++ n.link)
      (isSection : item.isSection = true ↔ n.children ≠ []) (spans : n.IsLabelledBy language item.spans)
      (children : List.Forall₂ (Mirrors toRoot language) n.children item.children) : Mirrors toRoot language n item

mutual

theorem mirrors_ofNode (order : List String) (toRoot language : String) : ∀ n : NavNode,
    Mirrors toRoot language n (ofNode order toRoot language n)
  | ⟨title, link, labels, children⟩ => by
    rw [ofNode]
    refine .intro rfl ?_ (NavNode.isLabelledBy_spans _ order language) ?_
    · simp [NavNode.isSection]
    · exact mirrors_ofNodes order toRoot language children

theorem mirrors_ofNodes (order : List String) (toRoot language : String) : ∀ ns : List NavNode,
    List.Forall₂ (Mirrors toRoot language) ns (ofNodes order toRoot language ns)
  | [] => .nil
  | n :: ns => .cons (mirrors_ofNode order toRoot language n) (mirrors_ofNodes order toRoot language ns)

end

end NavItem

/-! ## Marks -/

/-- The span without its mark. -/
def LabelSpan.unmarked (span : LabelSpan) : LabelSpan := { span with visible := false }

namespace NavItem

mutual

/-- The item, and those below it, without the marks that say which labels are visible. -/
def unmarked : NavItem → NavItem
  | ⟨href, spans, isSection, children⟩ => ⟨href, spans.map LabelSpan.unmarked, isSection, unmarkedAll children⟩

/-- The items of a list without their marks. -/
def unmarkedAll : List NavItem → List NavItem
  | [] => []
  | item :: items => unmarked item :: unmarkedAll items

end

/-- Without their marks the spans are the same in every language of the page. -/
theorem map_unmarked_spans (n : NavNode) (order : List String) (language language' : String) :
    (n.spans order language).map LabelSpan.unmarked = (n.spans order language').map LabelSpan.unmarked := by
  rw [NavNode.spans, NavNode.spans, List.map_map, List.map_map]
  rfl

mutual

theorem unmarked_ofNode (order : List String) (toRoot language language' : String) : ∀ n : NavNode,
    unmarked (ofNode order toRoot language n) = unmarked (ofNode order toRoot language' n)
  | ⟨title, link, labels, children⟩ => by
    rw [ofNode, ofNode, unmarked, unmarked, map_unmarked_spans _ order language language',
      unmarkedAll_ofNodes order toRoot language language' children]

theorem unmarkedAll_ofNodes (order : List String) (toRoot language language' : String) : ∀ ns : List NavNode,
    unmarkedAll (ofNodes order toRoot language ns) = unmarkedAll (ofNodes order toRoot language' ns)
  | [] => rfl
  | n :: ns => by
    rw [ofNodes, ofNodes, unmarkedAll, unmarkedAll, unmarked_ofNode order toRoot language language' n,
      unmarkedAll_ofNodes order toRoot language language' ns]

end

/-- **The items of a page mirror the table of contents**, node by node and at any depth. The label of a node is its
title in the standard language, and in another one the label that it has, or else the title. In two languages the items
differ in nothing but the marks of their labels. -/
theorem ofNodes_mirrors (order : List String) (toRoot : String) (nodes : List NavNode) :
    (∀ language, List.Forall₂ (Mirrors toRoot language) nodes (ofNodes order toRoot language nodes)) ∧
    (∀ (n : NavNode) (language : String), n.labelFor language =
      if language = Language.standard then n.title else (n.labels.find? language).getD n.title) ∧
    ∀ language language', unmarkedAll (ofNodes order toRoot language nodes) =
      unmarkedAll (ofNodes order toRoot language' nodes) :=
  ⟨fun language => mirrors_ofNodes order toRoot language nodes, NavNode.labelFor_eq,
    fun language language' => unmarkedAll_ofNodes order toRoot language language' nodes⟩

end NavItem

end GuideSite
