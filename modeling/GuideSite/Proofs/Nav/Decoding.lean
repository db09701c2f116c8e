import GuideSite.Nav.Markup
import GuideSite.Proofs.Markup.Reading

/-!
# Decoding the navigation tree

The items are read back from the markup by a machine that walks over the tags once. Its state is the stack of the lists
that are open, the innermost first; a list closes with the items it has gathered, and the decoding ends with the
outermost list, before the script.

* `run_items`: the markup of the items of some nodes takes the machine past exactly these items, whatever follows.
* `decode_render`: decoding the navigation gives its items, so different items never have the same markup, and the tags
  up to the script are fixed by the shape of the items alone.
-/

namespace GuideSite.Nav

open Markup

/-! ## The machine -/

/-- A list that is open: its items so far, the last one first, and what is known of the item that is being read. -/
structure OpenList where
  items : List NavItem
  href : String := ""
  spans : List LabelSpan := []
  isSection : Bool := false

/-- The list with the item that was being read, and nothing known of the next one. -/
def OpenList.add (l : OpenList) (children : List NavItem) : OpenList where
  items := ⟨l.href, l.spans.reverse, l.isSection, children⟩ :: l.items

/-- The open lists after one more piece. -/
def step (l : OpenList) (outer : List OpenList) (p : Piece) : Option (List OpenList) :=
  match p.tag with
  | .opening "li" [] => some (l :: outer)
  | .opening "li" [⟨"class", "nav-section"⟩] => some ({ l with isSection := true } :: outer)
  | .opening "div" [⟨"class", "nav-section-header"⟩] => some (l :: outer)
  | .opening "a" [⟨"href", href⟩] => some ({ l with href } :: outer)
  | .opening "span" [⟨"class", language⟩] =>
    some ({ l with spans := ⟨language, p.text, true⟩ :: l.spans } :: outer)
  | .opening "span" [⟨"class", language⟩, ⟨"style", "display:none"⟩] =>
    some ({ l with spans := ⟨language, p.text, false⟩ :: l.spans } :: outer)
  | .opening "ul" [] => some ({ items := [] } :: l :: outer)
  | .closing "a" => some ((if l.isSection then l else l.add []) :: outer)
  | .closing "ul" => match outer with
    | above :: outer => some (above.add l.items.reverse :: outer)
    | [] => none
  | .closing "span" => some (l :: outer)
  | .closing "div" => some (l :: outer)
  | .closing "li" => some (l :: outer)
  | _ => none

/-- The items of the outermost list, when it closes. -/
def run : List OpenList → List Piece → Option (List NavItem)
  | l :: outer, p :: ps =>
    if p.tag = .closing "ul" ∧ outer.isEmpty then some l.items.reverse else (step l outer p).bind (run · ps)
  | _, _ => none

/-- The items of a navigation. -/
def decode (html : String) : Option (List NavItem) :=
  match read html.toList with
  | ⟨"", ⟨.opening "ul" [⟨"id", "nav"⟩], _⟩ :: ps⟩ => run [{ items := [] }] ps
  | _ => none

/-! ## Runs -/

variable {l : OpenList} {outer : List OpenList}

theorem run_of_step {p : Piece} {ls : List OpenList} (h : step l outer p = some ls) (hp : p.tag ≠ .closing "ul")
    (ps : List Piece) : run (l :: outer) (p :: ps) = run ls ps := by
  rw [run, if_neg fun e => hp e.1, h, Option.bind_some]

/-- An inner list hands its items to the item around it. -/
theorem run_closing (above : OpenList) (text : String) (ps : List Piece) :
    run (l :: above :: outer) (⟨.closing "ul", text⟩ :: ps) = run (above.add l.items.reverse :: outer) ps := by
  rw [run, if_neg (by simp)]
  rfl

/-- The labels of an item are gathered one by one. -/
theorem run_spans (spans : List LabelSpan) (l : OpenList) (r : Reading) :
    run (l :: outer) (r.after (spans.flatMap spanMarkup)).pieces =
      run ({ l with spans := spans.reverse ++ l.spans } :: outer) r.pieces := by
  induction spans generalizing l with
  | nil => rfl
  | cons span spans ih =>
    obtain ⟨language, text, visible⟩ := span
    rw [List.flatMap_cons, Reading.after_append]
    cases visible with
    | true =>
      simp only [spanMarkup, element, if_true, List.cons_append, List.nil_append, Reading.after_cons,
        Reading.after_nil, Reading.prepend, String.append_empty]
      rw [run_of_step rfl (by simp), run_of_step rfl (by simp), ih]
      simp
    | false =>
      simp only [spanMarkup, element, Bool.false_eq_true, if_false, List.cons_append, List.nil_append,
        Reading.after_cons, Reading.after_nil, Reading.prepend, String.append_empty]
      rw [run_of_step rfl (by simp), run_of_step rfl (by simp), ih]
      simp

/-- The link of a leaf completes it. -/
theorem run_leaf_link (items : List NavItem) (href : String) (spans : List LabelSpan) (r : Reading) :
    run ({ items } :: outer) (r.after (linkMarkup href spans)).pieces =
      run ({ items := ⟨href, spans, false, []⟩ :: items } :: outer) r.pieces := by
  simp only [linkMarkup, element, Reading.after_cons, Reading.after_append, Reading.after_nil, Reading.prepend]
  rw [run_of_step rfl (by simp), run_spans, run_of_step rfl (by simp)]
  simp [OpenList.add]

/-- The link of a section leaves its list of items to come. -/
theorem run_section_link (items : List NavItem) (href : String) (spans : List LabelSpan) (r : Reading) :
    run ({ items, isSection := true } :: outer) (r.after (linkMarkup href spans)).pieces =
      run (⟨items, href, spans.reverse, true⟩ :: outer) r.pieces := by
  simp only [linkMarkup, element, Reading.after_cons, Reading.after_append, Reading.after_nil, Reading.prepend]
  rw [run_of_step rfl (by simp), run_spans, run_of_step rfl (by simp)]
  simp

mutual

/-- The markup of an item takes the machine past this item. -/
theorem run_item (order : List String) (toRoot language : String) : ∀ (n : NavNode) (items : List NavItem)
    (outer : List OpenList) (r : Reading),
    run ({ items } :: outer) (r.after (itemMarkup (NavItem.ofNode order toRoot language n))).pieces =
      run ({ items := NavItem.ofNode order toRoot language n :: items } :: outer) r.pieces
  | ⟨title, link, labels, []⟩, items, outer, r => by
    simp only [NavItem.ofNode, NavItem.ofNodes, NavNode.isSection, List.isEmpty_nil, Bool.not_true, itemMarkup,
      Bool.false_eq_true, if_false, element, List.cons_append, Reading.after_cons, Reading.after_append,
      Reading.after_nil, Reading.prepend, newline]
    rw [run_of_step rfl (by simp), run_leaf_link, run_of_step rfl (by simp)]
  | ⟨title, link, labels, child :: children⟩, items, outer, r => by
    simp only [NavItem.ofNode, NavNode.isSection, List.isEmpty_cons, Bool.not_false, itemMarkup, if_true, element,
      List.cons_append, List.nil_append, List.append_assoc, Reading.after_cons, Reading.after_append,
      Reading.after_nil, Reading.prepend, newline]
    rw [run_of_step rfl (by simp), run_of_step rfl (by simp), run_section_link, run_of_step rfl (by simp),
      run_of_step rfl (by simp), run_items order toRoot language (child :: children), run_closing,
      run_of_step rfl (by simp)]
    simp [OpenList.add]

/-- The markup of a list of items takes the machine past these items. -/
theorem run_items (order : List String) (toRoot language : String) : ∀ (ns : List NavNode) (items : List NavItem)
    (outer : List OpenList) (r : Reading),
    run ({ items } :: outer) (r.after (itemsMarkup (NavItem.ofNodes order toRoot language ns))).pieces =
      run ({ items := (NavItem.ofNodes order toRoot language ns).reverse ++ items } :: outer) r.pieces
  | [], _, _, _ => rfl
  | n :: ns, items, outer, r => by
    rw [NavItem.ofNodes, itemsMarkup, Reading.after_append, run_item order toRoot language n,
      run_items order toRoot language ns]
    simp

end

/-! ## The markup of the tree -/

theorem isReadable_spanMarkup (span : LabelSpan) : IsReadable (spanMarkup span) := by
  simp only [spanMarkup, isReadable_element, isReadable_cons, isReadable_nil, Token.IsReadable]
  decide

theorem isReadable_linkMarkup (href : String) (spans : List LabelSpan) : IsReadable (linkMarkup href spans) := by
  rw [linkMarkup, isReadable_element]
  exact ⟨by decide, isReadable_flatMap fun span _ => isReadable_spanMarkup span⟩

mutual

theorem isReadable_itemMarkup : ∀ item : NavItem, IsReadable (itemMarkup item)
  | ⟨href, spans, isSection, children⟩ => by
    have hlink := isReadable_linkMarkup href spans
    have hitems := isReadable_itemsMarkup children
    rw [itemMarkup]
    split
    · simp only [isReadable_append, isReadable_cons, isReadable_element, isReadable_nil, Token.IsReadable, newline,
        hlink, hitems]
      decide
    · simp only [isReadable_append, isReadable_cons, isReadable_element, isReadable_nil, Token.IsReadable, newline,
        hlink]
      decide

theorem isReadable_itemsMarkup : ∀ items : List NavItem, IsReadable (itemsMarkup items)
  | [] => isReadable_nil
  | item :: items => isReadable_append.2 ⟨isReadable_itemMarkup item, isReadable_itemsMarkup items⟩

end

/-- The navigation up to the content of its script. -/
def treeMarkup (items : List NavItem) : Fragment :=
  element "ul" [⟨"id", "nav"⟩] (newline 0 :: itemsMarkup items) ++
    [newline 0, .opening "script" [⟨"type", "text/javascript"⟩]]

/-- The content of the script, and its end. -/
def scriptEnd (calls : Script.NavCalls) : String :=
  Markup.render ((scriptMarkup calls).tail)

theorem isReadable_treeMarkup (items : List NavItem) : IsReadable (treeMarkup items) := by
  simp only [treeMarkup, isReadable_append, isReadable_cons, isReadable_element, isReadable_nil, Token.IsReadable,
    newline, isReadable_itemsMarkup]
  decide

/-- The calls into the scripts of the site stand after the tree. -/
theorem render_eq (calls : Script.NavCalls) (order : List String) (nodes : List NavNode) (toRoot language : String) :
    render calls order nodes toRoot language =
      Markup.render (treeMarkup (NavItem.ofNodes order toRoot language nodes)) ++ scriptEnd calls := by
  rw [render, fragment, scriptEnd, ← render_append]
  simp [markup, treeMarkup, scriptMarkup, element]

/-! ## Decoding -/

/-- The items of a navigation are decoded. -/
theorem decode_tree (calls : Script.NavCalls) (order : List String) (nodes : List NavNode) (toRoot language : String) :
    decode (render calls order nodes toRoot language) = some (NavItem.ofNodes order toRoot language nodes) := by
  rw [decode, render_eq, String.toList_append, Markup.render, String.toList_ofList,
    read_chars_append (isReadable_treeMarkup _)]
  simp only [treeMarkup, element, List.cons_append, List.append_assoc, Reading.after_cons, Reading.after_append,
    Reading.after_nil, Reading.prepend, newline]
  rw [run_items, run, if_pos ⟨rfl, rfl⟩]
  simp

mutual

/-- The tags of an item, as its place in the tree and the number of its labels fix them. -/
def outline : NavItem → List String
  | ⟨_, spans, isSection, children⟩ =>
    let link := "a" :: (List.replicate spans.length ["span", "/span"]).flatten ++ ["/a"]
    if isSection then ["li", "div"] ++ link ++ ["/div", "ul"] ++ outlines children ++ ["/ul", "/li"]
    else ["li"] ++ link ++ ["/li"]

/-- The tags of a list of items. -/
def outlines : List NavItem → List String
  | [] => []
  | item :: items => outline item ++ outlines items

end

theorem outline_spans (spans : List LabelSpan) :
    ((spans.flatMap spanMarkup).filter Token.isTag).map Token.tagName =
      (List.replicate spans.length ["span", "/span"]).flatten := by
  induction spans with
  | nil => rfl
  | cons span spans ih =>
    rw [List.flatMap_cons, List.filter_append, List.map_append, ih, List.length_cons, List.replicate_succ,
      List.flatten_cons]
    rfl

mutual

theorem outline_item : ∀ item : NavItem, ((itemMarkup item).filter Token.isTag).map Token.tagName = outline item
  | ⟨href, spans, isSection, children⟩ => by
    have hspans := outline_spans spans
    have hitems := outline_items children
    cases isSection <;>
      simp [itemMarkup, outline, linkMarkup, element, newline, Token.isTag, Token.tagName, List.filter_cons, hspans, hitems]

theorem outline_items : ∀ items : List NavItem, ((itemsMarkup items).filter Token.isTag).map Token.tagName = outlines items
  | [] => rfl
  | item :: items => by
    rw [itemsMarkup, List.filter_append, List.map_append, outline_item, outline_items, outlines]

end

/-- The tags up to the script are fixed by the shape of the items: no text opens, closes or forges one. -/
theorem outline_prefix (calls : Script.NavCalls) (order : List String) (nodes : List NavNode)
    (toRoot language : String) :
    "ul" :: outlines (NavItem.ofNodes order toRoot language nodes) ++ ["/ul", "script"] <+:
      (tags (render calls order nodes toRoot language)).map Token.tagName := by
  rw [render_eq, tags_render_append (isReadable_treeMarkup _), List.map_append]
  have htree : ((treeMarkup (NavItem.ofNodes order toRoot language nodes)).filter Token.isTag).map Token.tagName =
      "ul" :: outlines (NavItem.ofNodes order toRoot language nodes) ++ ["/ul", "script"] := by
    simp [treeMarkup, element, newline, Token.isTag, Token.tagName, List.filter_cons, outline_items]
  rw [htree]
  exact List.prefix_append _ _

/-- **The markup of the navigation is uniquely decodable.** Whatever the texts hold and whatever the calls into the
scripts are, the decoding gives the items; so different items have different markup, and the tags up to the script are
those of the shape of the items. -/
theorem decode_render :
    (∀ (calls : Script.NavCalls) (order : List String) (nodes : List NavNode) (toRoot language : String),
      decode (render calls order nodes toRoot language) = some (NavItem.ofNodes order toRoot language nodes) ∧
      "ul" :: outlines (NavItem.ofNodes order toRoot language nodes) ++ ["/ul", "script"] <+:
        (tags (render calls order nodes toRoot language)).map Token.tagName) ∧
    ∀ (calls calls' : Script.NavCalls) (order order' : List String) (nodes nodes' : List NavNode)
      (toRoot toRoot' language language' : String),
      render calls order nodes toRoot language = render calls' order' nodes' toRoot' language' →
      NavItem.ofNodes order toRoot language nodes = NavItem.ofNodes order' toRoot' language' nodes' := by
  refine ⟨fun calls order nodes toRoot language =>
    ⟨decode_tree calls order nodes toRoot language, outline_prefix calls order nodes toRoot language⟩, ?_⟩
  intro calls calls' order order' nodes nodes' toRoot toRoot' language language' h
  have hdecode := decode_tree calls order nodes toRoot language
  rw [h, decode_tree] at hdecode
  exact (Option.some.inj hdecode).symm

end GuideSite.Nav
