import GuideSite.Proofs.Masthead.Reading
import Mathlib

/-!
# Decoding the masthead

What a masthead shows is read back from its markup in two steps. Its marks are the tags that have to do with what is
shown, without the blocks around them; the marks are then read from the first to the last. Texts and attributes bring in
no mark, and the translations of an item are told from its class by their names.

* `marks_markup`: the marks of a masthead, block by block.
* `decode_markup`: decoding gives what is shown.
* `infix_secondary_iff`: the secondary bar is known by its tag.
* `decode_masthead`: mastheads that show something different never have the same markup.
-/

namespace GuideSite

/-! ## What is shown -/

/-- The item as it is seen: an empty class is none. -/
def MastheadItem.seen (item : MastheadItem) : MastheadItem :=
  { item with cssClass := item.cssClass.filter (· ≠ "") }

namespace Masthead

open Markup

/-- What is seen of a masthead. -/
structure Shown where
  logoLink : String
  logoSrc : String
  logoWidth : String
  logoHeight : String
  logoAlt : String
  primary : List MastheadItem
  moreHeading : String
  moreLinks : List ExternalLink
  search : Script.SearchHandlers
  quicknavClass : String
  quicknav : List MastheadItem
  /-- The items of the secondary bar, if there is one. -/
  secondary : Option (List MastheadItem)
  deriving DecidableEq

/-- What is seen of a view. -/
def View.shown (v : View) : Shown where
  logoLink := v.toRoot ++ v.logo.link
  logoSrc := v.toRoot ++ v.logo.src
  logoWidth := toString v.logo.width
  logoHeight := toString v.logo.height
  logoAlt := v.logo.alt
  primary := v.primary.map .seen
  moreHeading := v.moreHeading
  moreLinks := v.moreLinks
  search := v.search
  quicknavClass := v.sectionClass ++ " last"
  quicknav := v.quicknav.map .seen
  secondary := if v.showsSecondary then some (v.secondary.map .seen) else none

/-! ## Marks -/

/-- A tag that has to do with what is shown. -/
inductive Mark
  | link (href : String) (others : List Attribute) (label : String)
  | image (src width height alt : String)
  | list
  | listEnd
  | item (cssClass : Option String)
  | heading (text : String)
  | form (submit : String)
  | input (focus blur keyDown keyUp : String)
  | secondary

/-- The mark of a piece, if it is one. -/
def mark (p : Piece) : Option Mark :=
  match p.tag with
  | .opening "a" (⟨"href", href⟩ :: others) => some (.link href others p.text)
  | .single "img" [⟨_, src⟩, ⟨_, width⟩, ⟨_, height⟩, ⟨_, alt⟩] => some (.image src width height alt)
  | .opening "ul" _ => some .list
  | .closing "ul" => some .listEnd
  | .opening "li" as => some (.item (as.head?.map Attribute.value))
  | .opening "div" [⟨"class", "header"⟩] => some (.heading p.text)
  | .opening "form" [⟨_, submit⟩] => some (.form submit)
  | .single "input" [_, _, _, _, _, ⟨_, focus⟩, ⟨_, blur⟩, ⟨_, keyDown⟩, ⟨_, keyUp⟩] =>
    some (.input focus blur keyDown keyUp)
  | .opening "div" [⟨"id", "nav-x"⟩] => some .secondary
  | _ => none

/-- The marks in a reading. -/
def marks (r : Reading) : List Mark := r.pieces.filterMap mark

/-! ## The decoder -/

/-- The item of a link, in an item with a class. -/
def itemOf (cssClass : Option String) (href label : String) : List Attribute → MastheadItem
  | ⟨"class", "selected"⟩ :: as => ⟨label, href, true, cssClass, as.map fun a => (a.name, a.value)⟩
  | as => ⟨label, href, false, cssClass, as.map fun a => (a.name, a.value)⟩

/-- The items that come first, and the marks after them. -/
def readItems : List Mark → List MastheadItem × List Mark
  | .item cssClass :: .link href others label :: ms =>
    (itemOf cssClass href label others :: (readItems ms).1, (readItems ms).2)
  | ms => ([], ms)

/-- The items of the secondary bar, if there is one. -/
def readSecondary : List Mark → Option (List MastheadItem)
  | .secondary :: .list :: ms => some (readItems ms).1
  | _ => none

/-- What the marks of a masthead say that it shows. -/
def decodeMarks : List Mark → Option Shown
  | .link logoLink _ _ :: .image logoSrc logoWidth logoHeight logoAlt :: .link _ _ _ :: .link _ _ _ :: .list :: ms =>
    match readItems ms with
    | (primary, .listEnd :: .heading moreHeading :: .list :: ms) =>
      match readItems ms with
      | (links, .listEnd :: .form submit :: .input focus blur keyDown keyUp :: .list :: .listEnd :: .list ::
          .item (some quicknavClass) :: .list :: ms) =>
        match readItems ms with
        | (quicknav, .listEnd :: .listEnd :: ms) => some {
            logoLink, logoSrc, logoWidth, logoHeight, logoAlt, primary, moreHeading, quicknavClass, quicknav
            moreLinks := links.map fun item => ⟨item.label, item.href⟩
            search := ⟨submit, focus, blur, keyDown, keyUp⟩
            secondary := readSecondary ms }
        | _ => none
      | _ => none
    | _ => none
  | _ => none

/-- What a masthead shows. -/
def decode (html : String) : Option Shown := decodeMarks (marks (read html.toList))

/-! ## Marks of the markup -/

variable (v : View) (r : Reading)

/-- The mark of a token before a text, if it is a tag and has one. -/
def markOf (text : String) : Token → List Mark
  | .text _ => []
  | tag => (mark ⟨tag, text⟩).toList

theorem marks_cons (token : Token) (f : Fragment) :
    marks (r.after (token :: f)) = markOf (r.after f).text token ++ marks (r.after f) := by
  have hcons : ∀ (p : Piece) (ps : List Piece), (p :: ps).filterMap mark = (mark p).toList ++ ps.filterMap mark := by
    intro p ps
    cases h : mark p <;> simp [h]
  cases token with
  | text content => rfl
  | _ => exact hcons _ _

/-- The marks of an item. -/
def itemMarks (item : MastheadItem) : List Mark :=
  [.item (item.cssClass.filter (· ≠ "")), .link item.href (linkAttributes item).tail item.label]

/-- The marks of a bar. -/
def barMarks (items : List MastheadItem) : List Mark := Mark.list :: (items.flatMap itemMarks ++ [Mark.listEnd])

/-- The marks of the logo and the buttons for the shortcuts. -/
def logoMarks : List Mark :=
  [.link (v.toRoot ++ v.logo.link) [] "\n        ",
    .image (v.toRoot ++ v.logo.src) (toString v.logo.width) (toString v.logo.height) v.logo.alt,
    .link "#" [⟨"class", "arrow-inactive"⟩] "Quicknav", .link "#" [⟨"class", "arrow-active"⟩] "Quicknav"]

/-- The marks of a link of the menu. -/
def moreLinkMarks (link : ExternalLink) : List Mark := [.item none, .link link.href [] link.label]

/-- The marks of the menu of other sites. -/
def moreMarks : List Mark :=
  Mark.heading v.moreHeading :: Mark.list :: (v.moreLinks.flatMap moreLinkMarks ++ [Mark.listEnd])

/-- The marks of the search box, which has an empty list for its results. -/
def searchMarks (s : Script.SearchHandlers) : List Mark :=
  [.form s.submit, .input s.focus s.blur s.keyDown s.keyUp, .list, .listEnd]

/-- The marks of the shortcuts. -/
def quicknavMarks : List Mark :=
  Mark.list :: Mark.item (some (v.sectionClass ++ " last")) :: (barMarks v.quicknav ++ [Mark.listEnd])

/-- The marks of the secondary bar, if there is one. -/
def secondaryMarks : List Mark := if v.showsSecondary then Mark.secondary :: barMarks v.secondary else []

/-- The marks of the whole masthead. -/
def allMarks : List Mark :=
  logoMarks v ++ (barMarks v.primary ++ (moreMarks v ++ (searchMarks v.search ++ (quicknavMarks v ++ secondaryMarks v))))

theorem marks_item (indent : Nat) (item : MastheadItem) :
    marks (r.after (itemMarkup indent item)) = itemMarks item ++ marks r := by
  obtain ⟨label, href, selected, cssClass, translations⟩ := item
  have hlabel : label ++ "" = label := String.append_empty
  have hmarks : marks (r.after (itemMarkup indent ⟨label, href, selected, cssClass, translations⟩)) =
      .item ((classAttributes cssClass).head?.map Attribute.value) ::
        .link href (linkAttributes ⟨label, href, selected, cssClass, translations⟩).tail (label ++ "") :: marks r := rfl
  have hclass : (classAttributes cssClass).head?.map Attribute.value = cssClass.filter (· ≠ "") := by
    cases cssClass with
    | none => rfl
    | some name => by_cases h : name = "" <;> simp [classAttributes, Option.filter_some, h]
  rw [hmarks, hlabel, hclass]
  rfl

theorem marks_items (indent : Nat) (items : List MastheadItem) :
    marks (r.after (itemsMarkup indent items)) = items.flatMap itemMarks ++ marks r := by
  induction items with
  | nil => rfl
  | cons item items ih =>
    rw [itemsMarkup, List.flatMap_cons, ← itemsMarkup, Reading.after_append, marks_item, ih, List.flatMap_cons,
      List.append_assoc]

theorem marks_moreLinks (links : List ExternalLink) :
    marks (r.after (links.flatMap moreLinkMarkup)) = links.flatMap moreLinkMarks ++ marks r := by
  induction links with
  | nil => rfl
  | cons link links ih =>
    have hlink : ∀ r : Reading, marks (r.after (moreLinkMarkup link)) =
        .item none :: .link link.href [] (link.label ++ "") :: marks r := fun _ => rfl
    rw [List.flatMap_cons, Reading.after_append, hlink, ih, String.append_empty]
    rfl

theorem marks_logo : marks (r.after (logoMarkup v)) = logoMarks v ++ marks r := rfl

theorem marks_more : marks (r.after (moreMarkup v)) = moreMarks v ++ marks r := by
  have hheading : v.moreHeading ++ "" = v.moreHeading := String.append_empty
  simp only [moreMarkup, emptyBlock, element, List.cons_append, List.nil_append, List.append_assoc, marks_cons,
    Reading.after_append, marks_moreLinks, moreMarks]
  conv_rhs => rw [← hheading]
  rfl

theorem marks_search (s : Script.SearchHandlers) : marks (r.after (searchMarkup s)) = searchMarks s ++ marks r := by
  simp only [searchMarkup, emptyBlock, element, List.cons_append, List.nil_append, marks_cons]
  rfl

theorem marks_quicknav : marks (r.after (quicknavMarkup v)) = quicknavMarks v ++ marks r := by
  simp only [quicknavMarkup, element, List.cons_append, List.nil_append, List.append_assoc, marks_cons,
    Reading.after_append, marks_items, quicknavMarks, barMarks]
  rfl

theorem marks_header : marks (r.after (headerMarkup v)) =
    logoMarks v ++ (barMarks v.primary ++ (moreMarks v ++ (searchMarks v.search ++ (quicknavMarks v ++ marks r)))) := by
  simp only [headerMarkup, element, List.cons_append, List.nil_append, List.append_assoc, marks_cons,
    Reading.after_append, marks_logo, marks_items, marks_more, marks_search, marks_quicknav, barMarks]
  rfl

theorem marks_secondary : marks (r.after (secondaryMarkup v)) =
    Mark.secondary :: (barMarks v.secondary ++ marks r) := by
  simp only [secondaryMarkup, element, List.cons_append, List.nil_append, List.append_assoc, marks_cons,
    Reading.after_append, marks_items, barMarks]
  rfl

/-- The marks in a masthead that is read back. -/
theorem marks_markup : marks ((read []).after (markup v)) = allMarks v := by
  have hbetween : ∀ r : Reading,
      marks (((r.after [newline 0]).after resultsMarkup).after [newline 0, newline 0]) = marks r := fun _ => rfl
  simp only [markup, Reading.after_append, marks_header, hbetween, allMarks]
  cases hshown : v.showsSecondary with
  | true =>
    have hnil : marks (read []) = [] := rfl
    have hline : markOf ((read []).after (secondaryMarkup v)).text (newline 0) = [] := rfl
    simp only [secondaryMarks, hshown, if_true, marks_cons, marks_secondary, hnil, hline, List.append_nil,
      List.nil_append]
  | false =>
    simp only [secondaryMarks, hshown, Bool.false_eq_true, if_false]
    rfl

/-! ## Decoding -/

/-- No translation of the item is taken for its class. -/
def HasOwnClass (item : MastheadItem) : Prop := ∀ t ∈ item.translations, t.1 ≠ "class"

theorem itemOf_linkAttributes {item : MastheadItem} (h : HasOwnClass item) (cssClass : Option String) :
    itemOf cssClass item.href item.label (linkAttributes item).tail = { item with cssClass } := by
  obtain ⟨label, href, selected, cssClass', translations⟩ := item
  have hback : (translations.map fun t => Attribute.mk t.1 t.2).map (fun a => (a.name, a.value)) = translations := by
    rw [List.map_map]
    exact List.map_id _
  cases selected with
  | true => simp only [linkAttributes, List.tail_cons, if_true, List.singleton_append, itemOf, hback]
  | false =>
    simp only [linkAttributes, List.tail_cons, Bool.false_eq_true, if_false, List.nil_append]
    cases translations with
    | nil => rfl
    | cons t ts =>
      have hname : t.1 ≠ "class" := h t List.mem_cons_self
      rw [List.map_cons] at hback ⊢
      rw [itemOf, hback]
      intro as heq
      exact hname (congrArg Attribute.name (List.cons.inj heq).1)

/-- The items of a bar are read up to its end. -/
theorem readItems_items {items : List MastheadItem} (h : ∀ item ∈ items, HasOwnClass item) (ms : List Mark) :
    readItems (items.flatMap itemMarks ++ .listEnd :: ms) = (items.map .seen, .listEnd :: ms) := by
  induction items with
  | nil => rfl
  | cons item items ih =>
    obtain ⟨hitem, hitems⟩ := List.forall_mem_cons.1 h
    have hread : readItems ((item :: items).flatMap itemMarks ++ .listEnd :: ms) =
        (itemOf (item.cssClass.filter (· ≠ "")) item.href item.label (linkAttributes item).tail ::
          (readItems (items.flatMap itemMarks ++ .listEnd :: ms)).1,
          (readItems (items.flatMap itemMarks ++ .listEnd :: ms)).2) := rfl
    rw [hread, ih hitems, itemOf_linkAttributes hitem]
    rfl

theorem readItems_moreLinks (links : List ExternalLink) (ms : List Mark) :
    readItems (links.flatMap moreLinkMarks ++ .listEnd :: ms) =
      (links.map fun link => ⟨link.label, link.href, false, none, []⟩, .listEnd :: ms) := by
  induction links with
  | nil => rfl
  | cons link links ih =>
    have hread : readItems ((link :: links).flatMap moreLinkMarks ++ .listEnd :: ms) =
        (⟨link.label, link.href, false, none, []⟩ :: (readItems (links.flatMap moreLinkMarks ++ .listEnd :: ms)).1,
          (readItems (links.flatMap moreLinkMarks ++ .listEnd :: ms)).2) := rfl
    rw [hread, ih]
    rfl

/-- No translation of an item that a view shows is taken for a class. -/
def View.HasOwnClasses (v : View) : Prop := ∀ item ∈ v.primary ++ v.quicknav ++ v.secondary, HasOwnClass item

/-- The marks of a masthead say what it shows. -/
theorem decodeMarks_allMarks {v : View} (h : v.HasOwnClasses) : decodeMarks (allMarks v) = some v.shown := by
  obtain ⟨hprimary, hquicknav, hsecondary⟩ : (∀ item ∈ v.primary, HasOwnClass item) ∧
      (∀ item ∈ v.quicknav, HasOwnClass item) ∧ ∀ item ∈ v.secondary, HasOwnClass item := by
    simpa only [View.HasOwnClasses, List.forall_mem_append, and_assoc] using h
  have hlinks : (v.moreLinks.map fun link => MastheadItem.mk link.label link.href false none []).map
      (fun item => ExternalLink.mk item.label item.href) = v.moreLinks := by
    rw [List.map_map]
    exact List.map_id _
  have hbar : readSecondary (secondaryMarks v) =
      if v.showsSecondary then some (v.secondary.map .seen) else none := by
    cases hshown : v.showsSecondary with
    | true => simp only [secondaryMarks, barMarks, hshown, if_true, readSecondary, readItems_items hsecondary]
    | false => simp only [secondaryMarks, hshown, Bool.false_eq_true, if_false, readSecondary]
  simp only [allMarks, logoMarks, barMarks, moreMarks, searchMarks, quicknavMarks, List.cons_append, List.nil_append,
    List.append_assoc, decodeMarks, readItems_items hprimary, readItems_items hquicknav, readItems_moreLinks, hbar,
    hlinks, View.shown]

/-- The markup of a view is decoded. -/
theorem decode_markup {v : View} (h : v.HasOwnClasses) : decode (Markup.render (markup v)) = some v.shown := by
  have hread := read_chars_append (isReadable_markup v) []
  rw [List.append_nil] at hread
  rw [decode, Markup.render, String.toList_ofList, hread, marks_markup, decodeMarks_allMarks h]

/-! ## The secondary bar -/

/-- The tag that starts the secondary bar. -/
def secondaryTag : Token := .opening "div" [⟨"id", "nav-x"⟩]

theorem secondary_mem_marks {f : Fragment} (h : secondaryTag ∈ f) : .secondary ∈ marks (r.after f) := by
  induction f with
  | nil => cases h
  | cons token f ih =>
    rw [marks_cons]
    obtain rfl | h := List.mem_cons.1 h
    · exact List.mem_append_left _ List.mem_cons_self
    · exact List.mem_append_right _ (ih h)

/-- The tag is written only for the secondary bar. -/
theorem secondaryTag_mem_markup : secondaryTag ∈ markup v ↔ v.showsSecondary = true := by
  constructor
  · intro hmem
    by_contra hhidden
    have hmark := secondary_mem_marks (read []) hmem
    rw [marks_markup] at hmark
    simp [allMarks, logoMarks, barMarks, itemMarks, moreMarks, moreLinkMarks, searchMarks, quicknavMarks,
      secondaryMarks, hhidden] at hmark
  · intro hshown
    rw [markup, if_pos hshown]
    exact List.mem_append_right _ (by simp [secondaryMarkup, element, secondaryTag])

/-- The text of the tag occurs in a masthead just if some flag of the bar is set, whatever the texts are. -/
theorem infix_secondary_iff (m : Masthead) (order : List String) (calls : Script.SearchCalls) (toRoot : String)
    (flags : SectionFlags) (language : String) :
    "<div id=\"nav-x\">".toList <:+: (m.render order calls toRoot flags language).toList ↔
      ∃ name ∈ m.barFlags, name ∈ flags := by
  have htag : "<div id=\"nav-x\">".toList = secondaryTag.chars := by decide
  have hshows : m.showsSecondary flags = true ↔ ∃ name ∈ m.barFlags, name ∈ flags := NameSet.meets_eq_true
  rw [htag, ← hshows]
  exact (infix_render_iff (isReadable_markup _) (by decide)).trans (secondaryTag_mem_markup _)

/-! ## Mastheads with one markup -/

/-- Two views show the same, part by part; of a secondary bar that is not shown nothing is seen. -/
structure View.ShowsSame (v w : View) : Prop where
  showsSecondary : v.showsSecondary = w.showsSecondary
  primary : v.primary.map MastheadItem.seen = w.primary.map MastheadItem.seen
  quicknav : v.quicknav.map MastheadItem.seen = w.quicknav.map MastheadItem.seen
  secondary : v.showsSecondary = true → v.secondary.map MastheadItem.seen = w.secondary.map MastheadItem.seen
  moreLinks : v.moreLinks = w.moreLinks
  moreHeading : v.moreHeading = w.moreHeading
  sectionClass : v.sectionClass = w.sectionClass
  search : v.search = w.search
  logoLink : v.toRoot ++ v.logo.link = w.toRoot ++ w.logo.link
  logoSrc : v.toRoot ++ v.logo.src = w.toRoot ++ w.logo.src
  logoAlt : v.logo.alt = w.logo.alt
  logoWidth : v.logo.width = w.logo.width
  logoHeight : v.logo.height = w.logo.height

/-- What is seen of a view tells all its parts. -/
theorem View.showsSame_of_shown_eq {v w : View} (h : v.shown = w.shown) : v.ShowsSame w := by
  have hshows : v.showsSecondary = w.showsSecondary := by
    have hsome : ∀ u : View, u.shown.secondary.isSome = u.showsSecondary := fun u => by
      cases hu : u.showsSecondary <;> simp [shown, hu]
    rw [← hsome v, ← hsome w, h]
  have hwidth : toString v.logo.width = toString w.logo.width := congrArg Shown.logoWidth h
  have hheight : toString v.logo.height = toString w.logo.height := congrArg Shown.logoHeight h
  have hclass : v.sectionClass ++ " last" = w.sectionClass ++ " last" := congrArg Shown.quicknavClass h
  exact {
    showsSecondary := hshows
    primary := congrArg Shown.primary h
    quicknav := congrArg Shown.quicknav h
    secondary := fun hshown => by
      have hsecondary := congrArg Shown.secondary h
      simpa only [shown, ← hshows, hshown, if_true, Option.some.injEq] using hsecondary
    moreLinks := congrArg Shown.moreLinks h
    moreHeading := congrArg Shown.moreHeading h
    sectionClass := by simpa using hclass
    search := congrArg Shown.search h
    logoLink := congrArg Shown.logoLink h
    logoSrc := congrArg Shown.logoSrc h
    logoAlt := congrArg Shown.logoAlt h
    logoWidth := Int.repr_inj.1 hwidth
    logoHeight := Int.repr_inj.1 hheight }

theorem attributeName_ne_class (code : String) : MastheadItem.attributeName code ≠ "class" := by
  intro h
  have hlast := congrArg (fun s : String => s.toList.getLast?) h
  simp [MastheadItem.attributeName] at hlast

/-- The names of translations do not meet the name of the class. -/
theorem hasOwnClasses_view (m : Masthead) (order : List String) (calls : Script.SearchCalls) (toRoot : String)
    (flags : SectionFlags) (language : String) : (m.view order calls toRoot flags language).HasOwnClasses := by
  have hentry : ∀ e : MastheadEntry, HasOwnClass (.ofEntry order flags toRoot language e) := by
    intro e t ht
    obtain ⟨code, -, rfl⟩ := List.mem_map.1 ht
    exact attributeName_ne_class code
  simp only [View.HasOwnClasses, view, ← List.map_append, List.forall_mem_map]
  exact fun e _ => hentry e

/-- **The markup of a masthead is uniquely decodable.** Whatever the texts, the order of languages and the calls of the
search box are, decoding the markup gives what the masthead shows, and the tag of the secondary bar occurs in it just if
some flag of the bar is set. So two mastheads with the same markup show the same. -/
theorem decode_masthead :
    (∀ (m : Masthead) (order : List String) (calls : Script.SearchCalls) (toRoot : String) (flags : SectionFlags)
      (language : String),
      decode (m.render order calls toRoot flags language) = some (m.view order calls toRoot flags language).shown ∧
      ("<div id=\"nav-x\">".toList <:+: (m.render order calls toRoot flags language).toList ↔
        ∃ name ∈ m.barFlags, name ∈ flags)) ∧
    ∀ (m m' : Masthead) (order order' : List String) (calls calls' : Script.SearchCalls) (toRoot toRoot' : String)
      (flags flags' : SectionFlags) (language language' : String),
      m.render order calls toRoot flags language = m'.render order' calls' toRoot' flags' language' →
      (m.view order calls toRoot flags language).ShowsSame (m'.view order' calls' toRoot' flags' language') := by
  have hdecode : ∀ (m : Masthead) (order : List String) (calls : Script.SearchCalls) (toRoot : String)
      (flags : SectionFlags) (language : String), decode (m.render order calls toRoot flags language) =
        some (m.view order calls toRoot flags language).shown := fun m order calls toRoot flags language =>
    decode_markup (hasOwnClasses_view m order calls toRoot flags language)
  refine ⟨fun m order calls toRoot flags language => ⟨hdecode m order calls toRoot flags language,
    infix_secondary_iff m order calls toRoot flags language⟩, ?_⟩
  intro m m' order order' calls calls' toRoot toRoot' flags flags' language language' h
  have hshown := hdecode m order calls toRoot flags language
  rw [h, hdecode] at hshown
  exact View.showsSame_of_shown_eq (Option.some.inj hshown).symm

end Masthead

end GuideSite
