import GuideSite.Links.Catalogue
import GuideSite.Proofs.Masthead.Reading
import GuideSite.Proofs.Nav.Decoding
import Mathlib.Data.List.Basic
import Mathlib.Tactic.Tauto

/-!
# The catalogue and the links of the pages

The catalogue is collected from the site, the links of a page are written with its markup, and the two agree. The links
are taken from the text of the markup: those of the navigation stand before its script, and those of the masthead are
all of its links but two groups, the buttons of the shortcuts and the menu of other sites.

* `navLinks_render`, `mastheadLinks_render`: the links in the navigation and in the masthead, in order.
* `emitted_links`: they are the links of the catalogue below the root, the secondary bar apart where it is not shown.
-/

namespace GuideSite.Links

open Markup

/-! ## Links in markup -/

/-- The value of an attribute; of two with one name the first counts. -/
def attribute? (name : String) (attributes : List Attribute) : Option String :=
  (attributes.find? (·.name = name)).map Attribute.value

/-- Where a tag leads: the `href` of a link, or the `src` of an image. -/
def link? : Token → Option String
  | .opening tag attributes => if tag = "a" then attribute? "href" attributes else none
  | .single tag attributes => if tag = "img" then attribute? "src" attributes else none
  | _ => none

/-- The tag starts a script. -/
def isScript : Token → Bool
  | .opening tag _ => tag = "script"
  | _ => false

/-- The links of a navigation, up to its script. -/
def navLinks (html : String) : List String :=
  ((tags html).takeWhile fun token => !isScript token).filterMap link?

/-- How many elements are open after a tag, of `depth` before it. -/
def depthAfter (depth : Nat) : Token → Nat
  | .opening _ _ => depth + 1
  | .closing _ => depth - 1
  | _ => depth

/-- The links of tags that do not stand in an element of some kind; `depth` counts the open elements from the outermost
one of this kind. -/
def linksOutside (kind : Token → Bool) : (depth : Nat) → List Token → List String
  | _, [] => []
  | 0, token :: tokens =>
    if kind token then linksOutside kind 1 tokens else (link? token).toList ++ linksOutside kind 0 tokens
  | depth + 1, token :: tokens => linksOutside kind (depthAfter (depth + 1) token) tokens

/-- The tag starts the buttons of the shortcuts or the menu of other sites. -/
def isAside : Token → Bool
  | .opening tag attributes =>
    tag = "div" && (attribute? "id" attributes = some "btn-quicknav" || attribute? "id" attributes = some "moremenu")
  | _ => false

/-- The links of a masthead to places of the site. -/
def mastheadLinks (html : String) : List String :=
  linksOutside isAside 0 (tags html)

-- Below, markup is written out tag by tag, and each tag is looked at by itself.
attribute [local simp] element newline attribute? link? isScript depthAfter linksOutside isAside

/-! ## The navigation -/

theorem filterMap_link?_filter (f : Fragment) : (f.filter Token.isTag).filterMap link? = f.filterMap link? := by
  induction f with
  | nil => rfl
  | cons token f ih => cases token <;> simp [List.filter_cons, List.filterMap_cons, Token.isTag, ih]

theorem filterMap_link?_spans (spans : List LabelSpan) : (spans.flatMap Nav.spanMarkup).filterMap link? = [] := by
  induction spans with
  | nil => rfl
  | cons span spans ih =>
    rw [List.flatMap_cons, List.filterMap_append, ih, List.append_nil]
    rfl

theorem filterMap_link?_link (href : String) (spans : List LabelSpan) :
    (Nav.linkMarkup href spans).filterMap link? = [href] := by
  rw [Nav.linkMarkup, element, List.filterMap_cons, List.filterMap_append, filterMap_link?_spans]
  rfl

mutual

theorem filterMap_link?_item (order : List String) (toRoot language : String) : ∀ n : NavNode,
    (Nav.itemMarkup (NavItem.ofNode order toRoot language n)).filterMap link? = (ofNode n).map (toRoot ++ ·)
  | ⟨title, link, labels, children⟩ => by
    have hitems := filterMap_link?_items order toRoot language children
    simp only [NavItem.ofNode, Nav.itemMarkup, ofNode]
    split
    · simp [List.filterMap_cons, filterMap_link?_link, hitems]
    · rename_i hleaf
      have hnil : children = [] := by simpa [NavNode.isSection] using hleaf
      subst hnil
      simp [List.filterMap_cons, filterMap_link?_link, ofNodes]

theorem filterMap_link?_items (order : List String) (toRoot language : String) : ∀ ns : List NavNode,
    (Nav.itemsMarkup (NavItem.ofNodes order toRoot language ns)).filterMap link? = (ofNodes ns).map (toRoot ++ ·)
  | [] => rfl
  | n :: ns => by
    rw [NavItem.ofNodes, Nav.itemsMarkup, List.filterMap_append, filterMap_link?_item, filterMap_link?_items, ofNodes,
      List.map_append]

end

theorem any_isScript_link (href : String) (spans : List LabelSpan) :
    (Nav.linkMarkup href spans).any isScript = false := by
  have hspans : (spans.flatMap Nav.spanMarkup).any isScript = false := by
    rw [List.any_flatMap]
    exact List.any_eq_false.2 fun span _ => by simp [Nav.spanMarkup]
  simp [Nav.linkMarkup, hspans]

mutual

/-- No item starts a script. -/
theorem any_isScript_item : ∀ item : NavItem, (Nav.itemMarkup item).any isScript = false
  | ⟨href, spans, isSection, children⟩ => by
    have hlink := any_isScript_link href spans
    have hitems := any_isScript_items children
    cases isSection <;> simp [Nav.itemMarkup, hlink, hitems]

theorem any_isScript_items : ∀ items : List NavItem, (Nav.itemsMarkup items).any isScript = false
  | [] => rfl
  | item :: items => by
    rw [Nav.itemsMarkup, List.any_append, any_isScript_item, any_isScript_items, Bool.or_false]

end

/-- The links of the navigation are those of the nodes, each before those below it. -/
theorem navLinks_render (calls : Script.NavCalls) (order : List String) (nodes : List NavNode)
    (toRoot language : String) :
    navLinks (Nav.render calls order nodes toRoot language) = (ofNodes nodes).map (toRoot ++ ·) := by
  have hany : (element "ul" [⟨"id", "nav"⟩]
      (newline 0 :: Nav.itemsMarkup (NavItem.ofNodes order toRoot language nodes))).any isScript = false := by
    simp [any_isScript_items]
  have hlist : ∀ token ∈ (element "ul" [⟨"id", "nav"⟩]
      (newline 0 :: Nav.itemsMarkup (NavItem.ofNodes order toRoot language nodes))).filter Token.isTag,
      (!isScript token) = true := fun token htoken => by
    simpa using List.any_eq_false.1 hany token (List.mem_filter.1 htoken).1
  rw [navLinks, Nav.render_eq, tags_render_append (Nav.isReadable_treeMarkup _), Nav.treeMarkup, List.filter_append,
    List.append_assoc, List.takeWhile_append_of_pos hlist, List.filterMap_append, filterMap_link?_filter]
  simp [Token.isTag, List.filter_cons, List.filterMap_cons, filterMap_link?_items]

/-! ## The masthead -/

theorem linksOutside_filter (f : Fragment) (depth : Nat) :
    linksOutside isAside depth (f.filter Token.isTag) = linksOutside isAside depth f := by
  induction f generalizing depth with
  | nil => rfl
  | cons token f ih =>
    cases depth <;> cases token <;>
      simp [List.filter_cons, Token.isTag, ih]

/-- A bar has the links of its items. -/
theorem linksOutside_items (indent : Nat) (items : List MastheadItem) (rest : Fragment) :
    linksOutside isAside 0 (Masthead.itemsMarkup indent items ++ rest) =
      items.map MastheadItem.href ++ linksOutside isAside 0 rest := by
  induction items with
  | nil => rfl
  | cons item items ih =>
    rw [Masthead.itemsMarkup, List.flatMap_cons, List.append_assoc, ← Masthead.itemsMarkup]
    simp [Masthead.itemMarkup, Masthead.linkMarkup, Masthead.linkAttributes, ih]

/-- The menu of other sites adds no link. -/
theorem linksOutside_more (depth : Nat) (links : List ExternalLink) (rest : Fragment) :
    linksOutside isAside (depth + 1) (links.flatMap Masthead.moreLinkMarkup ++ rest) =
      linksOutside isAside (depth + 1) rest := by
  induction links with
  | nil => rfl
  | cons link links ih =>
    rw [List.flatMap_cons, List.append_assoc]
    simp [Masthead.moreLinkMarkup, ih]

section Blocks

variable (v : Masthead.View) (rest : Fragment)

theorem linksOutside_logo : linksOutside isAside 0 (Masthead.logoMarkup v ++ rest) =
    (v.toRoot ++ v.logo.link) :: (v.toRoot ++ v.logo.src) :: linksOutside isAside 0 rest := by
  simp [Masthead.logoMarkup]

theorem linksOutside_moreMarkup :
    linksOutside isAside 0 (Masthead.moreMarkup v ++ rest) = linksOutside isAside 0 rest := by
  simp [Masthead.moreMarkup, Masthead.emptyBlock, linksOutside_more]

theorem linksOutside_search (s : Script.SearchHandlers) :
    linksOutside isAside 0 (Masthead.searchMarkup s ++ rest) = linksOutside isAside 0 rest := by
  simp [Masthead.searchMarkup, Masthead.emptyBlock]

theorem linksOutside_quicknav : linksOutside isAside 0 (Masthead.quicknavMarkup v ++ rest) =
    v.quicknav.map MastheadItem.href ++ linksOutside isAside 0 rest := by
  simp [Masthead.quicknavMarkup, linksOutside_items]

theorem linksOutside_header : linksOutside isAside 0 (Masthead.headerMarkup v ++ rest) =
    (v.toRoot ++ v.logo.link) :: (v.toRoot ++ v.logo.src) ::
      (v.primary.map MastheadItem.href ++ v.quicknav.map MastheadItem.href ++ linksOutside isAside 0 rest) := by
  simp [Masthead.headerMarkup, linksOutside_items, linksOutside_logo, linksOutside_moreMarkup, linksOutside_search,
    linksOutside_quicknav]

theorem linksOutside_secondary : linksOutside isAside 0 (Masthead.secondaryMarkup v ++ rest) =
    v.secondary.map MastheadItem.href ++ linksOutside isAside 0 rest := by
  simp [Masthead.secondaryMarkup, linksOutside_items]

theorem linksOutside_results :
    linksOutside isAside 0 (Masthead.resultsMarkup ++ rest) = linksOutside isAside 0 rest := by
  simp [Masthead.resultsMarkup]

theorem linksOutside_newline (indent : Nat) :
    linksOutside isAside 0 (newline indent :: rest) = linksOutside isAside 0 rest := rfl

theorem linksOutside_markup : linksOutside isAside 0 (Masthead.markup v) =
    (v.toRoot ++ v.logo.link) :: (v.toRoot ++ v.logo.src) ::
      (v.primary.map MastheadItem.href ++ v.quicknav.map MastheadItem.href ++
        if v.showsSecondary then v.secondary.map MastheadItem.href else []) := by
  have hsecondary := linksOutside_secondary v []
  rw [List.append_nil] at hsecondary
  simp only [Masthead.markup, List.append_assoc, List.cons_append, List.nil_append, linksOutside_header,
    linksOutside_newline, linksOutside_results]
  cases v.showsSecondary with
  | true => simp [hsecondary]
  | false => simp

end Blocks

/-- The links of the masthead in order: the logo, the primary bar, the shortcuts, and the secondary bar if it is
shown. -/
theorem mastheadLinks_render (m : Masthead) (order : List String) (calls : Script.SearchCalls) (toRoot : String)
    (flags : SectionFlags) (language : String) :
    mastheadLinks (m.render order calls toRoot flags language) =
      (m.logo.link :: m.logo.src :: (m.primary.map MastheadEntry.link ++ m.quicknav.map MastheadEntry.link ++
        if m.showsSecondary flags then m.secondary.map MastheadEntry.link else [])).map (toRoot ++ ·) := by
  rw [mastheadLinks, Masthead.render, Masthead.fragment, tags_render (Masthead.isReadable_markup _),
    linksOutside_filter, linksOutside_markup]
  cases hshows : m.showsSecondary flags <;>
    simp [Masthead.view, MastheadItem.ofEntry, hshows, Function.comp_def]

/-! ## The catalogue -/

/-- The links of a site that every page has, whether or not it shows the secondary bar. -/
def onEveryPage (site : Site) : List String :=
  ofNodes site.toc ++ site.masthead.logo.link :: site.masthead.logo.src ::
    (site.masthead.primary ++ site.masthead.quicknav).map MastheadEntry.link

/-- The links of the secondary bar. -/
def onSecondary (site : Site) : List String := site.masthead.secondary.map MastheadEntry.link

theorem mem_catalogue {site : Site} {target : String} :
    target ∈ catalogue site ↔ target ≠ "" ∧ (target ∈ onEveryPage site ∨ target ∈ onSecondary site) := by
  rw [catalogue, NameSet.mem_toList, NameSet.mem_ofList, List.mem_filter, decide_eq_true_iff, and_comm]
  refine and_congr_right fun _ => ?_
  simp only [ofMasthead, onEveryPage, onSecondary, List.map_append, List.mem_append, List.mem_cons]
  tauto

/-- The links that a page writes, in its navigation and in its masthead. -/
def emitted (site : Site) (order : List String) (navigation : Script.NavCalls) (search : Script.SearchCalls)
    (flags : SectionFlags) (toRoot language : String) : List String :=
  navLinks (Nav.render navigation order site.toc toRoot language) ++
    mastheadLinks (site.masthead.render order search toRoot flags language)

theorem emitted_eq (site : Site) (order : List String) (navigation : Script.NavCalls) (search : Script.SearchCalls)
    (flags : SectionFlags) (toRoot language : String) :
    emitted site order navigation search flags toRoot language =
      (onEveryPage site ++ if site.masthead.showsSecondary flags then onSecondary site else []).map (toRoot ++ ·) := by
  rw [emitted, navLinks_render, mastheadLinks_render, ← List.map_append]
  simp [onEveryPage, onSecondary]

/-- Every link of a page is one of the catalogue below the root, or the root itself. -/
theorem exists_of_mem_emitted {site : Site} {order : List String} {navigation : Script.NavCalls}
    {search : Script.SearchCalls} {flags : SectionFlags} {toRoot language href : String}
    (h : href ∈ emitted site order navigation search flags toRoot language) :
    ∃ target, href = toRoot ++ target ∧ (target = "" ∨ target ∈ catalogue site) := by
  obtain ⟨target, hmem, rfl⟩ := List.mem_map.1 (emitted_eq site order navigation search flags toRoot language ▸ h)
  refine ⟨target, rfl, (Decidable.em (target = "")).imp_right fun hne => mem_catalogue.2 ⟨hne, ?_⟩⟩
  obtain hpage | hsecondary := List.mem_append.1 hmem
  · exact .inl hpage
  · split at hsecondary
    · exact .inr hsecondary
    · exact absurd hsecondary List.not_mem_nil

/-- A link below the root is written just where the part after the root is a link of the page. -/
theorem append_mem_emitted {site : Site} {order : List String} {navigation : Script.NavCalls}
    {search : Script.SearchCalls} {flags : SectionFlags} {toRoot language target : String} :
    toRoot ++ target ∈ emitted site order navigation search flags toRoot language ↔
      target ∈ onEveryPage site ∨ site.masthead.showsSecondary flags = true ∧ target ∈ onSecondary site := by
  have hinjective : Function.Injective (toRoot ++ · : String → String) := fun a b h => by simpa using h
  rw [emitted_eq, List.mem_map_of_injective hinjective, List.mem_append]
  cases site.masthead.showsSecondary flags <;> simp

/-- **The catalogue is what the pages write.** Every link in the navigation and the masthead of a page is one of the
catalogue below the root, or the root itself; every link of the catalogue is written, but one of the secondary bar alone
only where that bar is shown; and the catalogue is strictly increasing, without the empty link. -/
theorem emitted_links (site : Site) (order : List String) (navigation : Script.NavCalls) (search : Script.SearchCalls)
    (flags : SectionFlags) (toRoot language : String) :
    (∀ href ∈ emitted site order navigation search flags toRoot language,
      ∃ target, href = toRoot ++ target ∧ (target = "" ∨ target ∈ catalogue site)) ∧
    (∀ target ∈ catalogue site,
      (target ∈ onEveryPage site → toRoot ++ target ∈ emitted site order navigation search flags toRoot language) ∧
      (target ∉ onEveryPage site →
        (toRoot ++ target ∈ emitted site order navigation search flags toRoot language ↔
          site.masthead.showsSecondary flags = true))) ∧
    (catalogue site).Pairwise (· < ·) ∧ "" ∉ catalogue site := by
  refine ⟨fun href => exists_of_mem_emitted, ?_, NameSet.ordered _, fun h => (mem_catalogue.1 h).1 rfl⟩
  intro target htarget
  refine ⟨fun hpage => append_mem_emitted.2 (.inl hpage), fun hpage => ?_⟩
  have hsecondary : target ∈ onSecondary site := (mem_catalogue.1 htarget).2.resolve_left hpage
  rw [append_mem_emitted]
  exact ⟨fun h => (h.resolve_left hpage).1, fun h => .inr ⟨h, hsecondary⟩⟩

end GuideSite.Links
