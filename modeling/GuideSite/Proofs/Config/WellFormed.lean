import GuideSite.Proofs.Config.Settings
import GuideSite.Proofs.Text.Trimming

/-!
# Well-formed sites

A document may write its settings in many ways, and what is read of them has one form: texts are trimmed, links have no
slash before them, labels are in languages other than the standard one, and what is blank or left out has been replaced.
The renderers and the checks of links rely on this form.

`IsWellFormed` says it for each part of a site, and there is one lemma for each function that reads a part.

* `optionalText_trimmed`, `names_trimmed`, `labels_trimmed`: single settings.
* `tocNode_isWellFormed`, `mastheadEntry_isWellFormed`, `page_isWellFormed`: the parts of a site.
* `site_isWellFormed`: sites.
-/

namespace GuideSite

open Text (IsTrimmed)

/-! ## The form of a site -/

/-- The languages and the texts of some labels are trimmed. -/
def AreTrimmed (labels : Dictionary String) : Prop :=
  ∀ entry ∈ labels.entries, IsTrimmed entry.1 ∧ IsTrimmed entry.2

instance (labels : Dictionary String) : Decidable (AreTrimmed labels) :=
  inferInstanceAs (Decidable (∀ entry ∈ labels.entries, _))

/-- The text has no slash before it. -/
def IsUnrooted (link : String) : Prop := link.toList.head? ≠ some '/'

instance (link : String) : Decidable (IsUnrooted link) := inferInstanceAs (Decidable (_ ≠ _))

/-- The form of a node, and of the nodes below it. -/
inductive NavNode.IsWellFormed : NavNode → Prop
  | intro {n : NavNode} (title : IsTrimmed n.title) (link : IsUnrooted n.link) (labels : AreTrimmed n.labels)
      (standard : Language.standard ∉ n.labels.keys) (children : ∀ child ∈ n.children, child.IsWellFormed) :
      n.IsWellFormed

/-- The form of an entry of the masthead. -/
structure MastheadEntry.IsWellFormed (e : MastheadEntry) : Prop where
  label : IsTrimmed e.label
  link : IsUnrooted e.link
  selectedBy : ∀ name ∈ e.selectedBy, IsTrimmed name
  excludedBy : ∀ name ∈ e.excludedBy, IsTrimmed name
  translations : AreTrimmed e.translations
  cssClass : ∀ text ∈ e.cssClass, IsTrimmed text

instance (e : MastheadEntry) : Decidable e.IsWellFormed :=
  decidable_of_iff (IsTrimmed e.label ∧ IsUnrooted e.link ∧ (∀ name ∈ e.selectedBy, IsTrimmed name) ∧
      (∀ name ∈ e.excludedBy, IsTrimmed name) ∧ AreTrimmed e.translations ∧ ∀ text ∈ e.cssClass, IsTrimmed text)
    ⟨fun ⟨h₁, h₂, h₃, h₄, h₅, h₆⟩ => ⟨h₁, h₂, h₃, h₄, h₅, h₆⟩, fun ⟨h₁, h₂, h₃, h₄, h₅, h₆⟩ => ⟨h₁, h₂, h₃, h₄, h₅, h₆⟩⟩

/-- The form of the masthead. -/
structure Masthead.IsWellFormed (m : Masthead) : Prop where
  primary : ∀ e ∈ m.primary, e.IsWellFormed
  secondary : ∀ e ∈ m.secondary, e.IsWellFormed
  quicknav : ∀ e ∈ m.quicknav, e.IsWellFormed
  moreLinks : ∀ link ∈ m.moreLinks, IsTrimmed link.label ∧ IsTrimmed link.href
  moreHeading : IsTrimmed m.moreHeading
  sectionClass : IsTrimmed m.sectionClass
  barFlags : m.barFlags ≠ [] ∧ ∀ name ∈ m.barFlags, IsTrimmed name

/-- The form of a page. -/
structure Page.IsWellFormed (p : Page) : Prop where
  path_ne_empty : p.path ≠ ""
  path : IsUnrooted p.path
  inside : ".." ∉ Path.segments p.path
  title : p.title ≠ ""
  language : ∀ text ∈ p.language, IsTrimmed text

/-- The form of a site. -/
structure Site.IsWellFormed (s : Site) : Prop where
  toc_ne_nil : s.toc ≠ []
  toc : ∀ n ∈ s.toc, n.IsWellFormed
  masthead : s.masthead.IsWellFormed
  /-- Every page is kept under its own path. -/
  keys : ∀ entry ∈ s.pages.entries, entry.2.path = entry.1
  pages : ∀ p ∈ s.pages.values, p.IsWellFormed
  language : IsTrimmed s.language
  siteName : IsTrimmed s.siteName
  languages : s.languages ≠ [] ∧ ∀ code ∈ s.languages, IsTrimmed code

namespace Config

/-! ## Single settings -/

section Settings

variable {v : Value}

theorem optionalText_trimmed {text : String} (h : optionalText v = .ok (some text)) : IsTrimmed text := by
  unfold optionalText at h
  split at h
  · cases h
  · obtain ⟨shown, -, h⟩ := bind_eq_ok.1 h
    obtain h := Except.ok.inj h
    split at h
    · cases h
    · rename_i hne
      obtain rfl := Option.some.inj h
      exact Text.isTrimmed_strip hne

theorem requiredText_trimmed {place : Place} {field text : String} (h : requiredText place field v = .ok text) :
    IsTrimmed text :=
  optionalText_trimmed (requiredText_eq_ok.1 h)

theorem names_trimmed {found : List String} (h : names v = .ok found) : ∀ name ∈ found, IsTrimmed name := by
  unfold names at h
  split at h
  · obtain rfl := Except.ok.inj h
    exact fun name => Text.isTrimmed_of_mem_words
  · obtain ⟨texts, -, h⟩ := bind_eq_ok.1 h
    obtain rfl := Except.ok.inj h
    intro name hname
    obtain ⟨hmem, hne⟩ := List.mem_filter.1 hname
    obtain ⟨text, -, rfl⟩ := List.mem_map.1 hmem
    exact Text.isTrimmed_strip (of_decide_eq_true hne)
  · obtain rfl := Except.ok.inj h
    exact nofun

theorem putLabel_trimmed {entry : Value × Value} {known result : Dictionary String}
    (h : putLabel known entry = .ok result) (hknown : AreTrimmed known) : AreTrimmed result := by
  obtain ⟨language, hlanguage, h⟩ := bind_eq_ok.1 h
  obtain ⟨text, htext, h⟩ := bind_eq_ok.1 h
  obtain h := Except.ok.inj h
  split at h
  · rename_i code found
    subst h
    exact forall_entries_insert hknown ⟨optionalText_trimmed hlanguage, optionalText_trimmed htext⟩
  · subst h
    exact hknown

theorem labels_trimmed {place : Place} {found : Dictionary String} (h : labels place v = .ok found) :
    AreTrimmed found := by
  unfold labels at h
  split at h
  · obtain rfl := Except.ok.inj h
    exact nofun
  · split at h
    · exact foldlM_invariant (fun entry _ known result hput hknown => putLabel_trimmed hput hknown) h nofun
    · cases h

theorem textOr_trimmed {entries : Value.Entries} {key stock text : String} (h : textOr entries key stock = .ok text)
    (hstock : IsTrimmed stock) : IsTrimmed text := by
  obtain ⟨given, hgiven, h⟩ := bind_eq_ok.1 h
  obtain rfl := Except.ok.inj h
  cases given with
  | none => exact hstock
  | some found => exact optionalText_trimmed hgiven

theorem orStock_trimmed {given stock : List String} (hgiven : ∀ name ∈ given, IsTrimmed name)
    (hstock : stock ≠ [] ∧ ∀ name ∈ stock, IsTrimmed name) :
    orStock given stock ≠ [] ∧ ∀ name ∈ orStock given stock, IsTrimmed name := by
  unfold orStock
  split
  · exact hstock
  · exact ⟨‹_›, hgiven⟩

end Settings

/-! ## The table of contents -/

theorem areTrimmed_erase {known : Dictionary String} (h : AreTrimmed known) (key : String) :
    AreTrimmed (known.erase key) := fun entry hentry => h entry (List.mem_of_mem_filter hentry)

theorem not_mem_keys_erase (known : Dictionary String) (key : String) : key ∉ (known.erase key).keys := by
  intro hkey
  obtain ⟨entry, hentry, rfl⟩ := List.mem_map.1 hkey
  exact absurd rfl (of_decide_eq_true (List.mem_filter.1 hentry).2)

theorem isUnrooted_dropSlashes (link : String) : IsUnrooted (Text.dropSlashes link) := Text.head?_dropSlashes link

/-- A title is the one that is given, or a label. -/
theorem tocTitle_trimmed {trail : List Nat} {entries : Value.Entries} {known : Dictionary String} {title : String}
    (hknown : AreTrimmed known) (h : tocTitle trail entries known = .ok title) : IsTrimmed title := by
  obtain ⟨given, hgiven, h⟩ := bind_eq_ok.1 h
  cases given with
  | some found =>
    obtain rfl := Except.ok.inj h
    exact optionalText_trimmed hgiven
  | none =>
    dsimp only at h
    split at h
    · rename_i label hlabel
      obtain rfl := Except.ok.inj h
      obtain ⟨before, after, hentries, -⟩ := List.lookup_eq_some_iff.1 hlabel
      exact (hknown (Language.standard, label) (by simp [hentries])).2
    · cases h

/-- The induction is on how deep entries may be nested. -/
theorem tocNode_isWellFormed {depth : Nat} {trail : List Nat} {v : Value} {n : NavNode}
    (h : tocNode depth trail v = .ok n) : n.IsWellFormed := by
  induction depth generalizing trail v n with
  | zero => cases h
  | succ depth ih =>
    rw [tocNode] at h
    split at h
    · cases h
    · obtain ⟨known, hlabels, h⟩ := bind_eq_ok.1 h
      obtain ⟨title, htitle, h⟩ := bind_eq_ok.1 h
      obtain ⟨link, -, h⟩ := bind_eq_ok.1 h
      obtain ⟨below, -, h⟩ := bind_eq_ok.1 h
      obtain ⟨children, hchildren, h⟩ := bind_eq_ok.1 h
      obtain rfl := Except.ok.inj h
      have hknown := labels_trimmed hlabels
      refine .intro (tocTitle_trimmed hknown htitle) (isUnrooted_dropSlashes link) (areTrimmed_erase hknown _)
        (not_mem_keys_erase known _) fun child hchild => ?_
      obtain ⟨⟨entry, i⟩, -, hentry⟩ := mem_of_mapM hchildren hchild
      exact ih hentry

theorem toc_isWellFormed {v : Value} {nodes : List NavNode} (h : toc v = .ok nodes) :
    nodes ≠ [] ∧ ∀ n ∈ nodes, n.IsWellFormed := by
  unfold toc at h
  split at h
  · cases h
  · rename_i items hne hitems
    constructor
    · rintro rfl
      have hlength := (forall₂_of_mapM h).length_eq
      rw [List.length_zipIdx] at hlength
      exact hne (List.eq_nil_of_length_eq_zero hlength)
    · intro n hn
      obtain ⟨⟨entry, i⟩, -, hentry⟩ := mem_of_mapM h hn
      exact tocNode_isWellFormed hentry
  · cases h

/-! ## The masthead -/

theorem mastheadEntry_isWellFormed {bar : String} {v : Value} {e : MastheadEntry}
    (h : mastheadEntry bar v = .ok e) : e.IsWellFormed := by
  have hparts := entryParts h
  obtain ⟨link, -, hlink⟩ := hparts.link
  obtain ⟨_, htranslations⟩ := hparts.translations
  refine ⟨optionalText_trimmed hparts.label, ?_, names_trimmed hparts.selectedBy, names_trimmed hparts.excludedBy,
    labels_trimmed htranslations, fun text htext => ?_⟩
  · rw [hlink]
    exact isUnrooted_dropSlashes link
  · obtain htext : e.cssClass = some text := htext
    exact optionalText_trimmed (hparts.cssClass.trans (congrArg Except.ok htext))

theorem mastheadBar_isWellFormed {bar : String} {stock found : List MastheadEntry} {v : Value}
    (hstock : ∀ e ∈ stock, e.IsWellFormed) (h : mastheadBar bar stock v = .ok found) :
    ∀ e ∈ found, e.IsWellFormed := by
  unfold mastheadBar at h
  split at h
  · obtain rfl := Except.ok.inj h
    exact hstock
  · split at h
    · intro e he
      obtain ⟨item, -, hitem⟩ := mem_of_mapM h he
      exact mastheadEntry_isWellFormed hitem
    · cases h

theorem moreLink_trimmed {v : Value} {link : ExternalLink} (h : moreLink v = .ok link) :
    IsTrimmed link.label ∧ IsTrimmed link.href := by
  unfold moreLink at h
  split at h
  · cases h
  · split at h
    · obtain ⟨label, hlabel, h⟩ := bind_eq_ok.1 h
      obtain ⟨href, hhref, h⟩ := bind_eq_ok.1 h
      obtain rfl := Except.ok.inj h
      exact ⟨requiredText_trimmed hlabel, requiredText_trimmed hhref⟩
    · cases h

theorem moreLinks_trimmed {stock found : List ExternalLink} {v : Value}
    (hstock : ∀ link ∈ stock, IsTrimmed link.label ∧ IsTrimmed link.href) (h : moreLinks stock v = .ok found) :
    ∀ link ∈ found, IsTrimmed link.label ∧ IsTrimmed link.href := by
  unfold moreLinks at h
  split at h
  · obtain rfl := Except.ok.inj h
    exact hstock
  · split at h
    · intro link hlink
      obtain ⟨item, -, hitem⟩ := mem_of_mapM h hlink
      exact moreLink_trimmed hitem
    · cases h

theorem stock_isWellFormed : Masthead.stock.IsWellFormed := by
  constructor <;> decide

theorem masthead_isWellFormed {v : Value} {m : Masthead} (h : masthead v = .ok m) : m.IsWellFormed := by
  have hstock := stock_isWellFormed
  have hparts := mastheadParts h
  obtain ⟨found, hfound, hbar⟩ := hparts.barFlags
  exact {
    primary := mastheadBar_isWellFormed hstock.primary hparts.primary
    secondary := mastheadBar_isWellFormed hstock.secondary hparts.secondary
    quicknav := mastheadBar_isWellFormed hstock.quicknav hparts.quicknav
    moreLinks := moreLinks_trimmed hstock.moreLinks hparts.moreLinks
    moreHeading := textOr_trimmed hparts.moreHeading hstock.moreHeading
    sectionClass := textOr_trimmed hparts.sectionClass hstock.sectionClass
    barFlags := by
      rw [hbar]
      exact orStock_trimmed (names_trimmed hfound) hstock.barFlags }

/-! ## Titles of pages -/

theorem dropSuffix_ne_empty {name : String} (h : name ≠ "") : Path.dropSuffix name ≠ "" := by
  unfold Path.dropSuffix
  dsimp only
  split
  · split
    · exact h
    · rename_i base _ hsome
      push Not at hsome
      simpa using hsome.1
  · exact h

theorem caseForm_ne_nil {expansions : List (Nat × List Nat)} (h : ∀ e ∈ expansions, e.2 ≠ [])
    (shifts : List Text.CaseShift) (c : Char) : Text.caseForm expansions shifts c ≠ [] := by
  unfold Text.caseForm
  split
  · rename_i forms hforms
    obtain ⟨before, after, hentries, -⟩ := List.lookup_eq_some_iff.1 hforms
    simpa using h (c.toNat, forms) (by simp [hentries])
  · split <;> exact List.cons_ne_nil _ _

/-- No character is lost in title case. -/
theorem titleChars_ne_nil (before : List Char) {cs : List Char} (h : cs ≠ []) : Text.titleChars before cs ≠ [] := by
  obtain ⟨c, rest, rfl⟩ := List.exists_cons_of_ne_nil h
  have hlower : Text.lowerForm c ≠ [] := by
    unfold Text.lowerForm
    split
    · exact List.cons_ne_nil _ _
    · exact caseForm_ne_nil (by decide) _ c
  have htitle : Text.titleForm c ≠ [] := by
    unfold Text.titleForm
    split
    · exact List.cons_ne_nil _ _
    · exact caseForm_ne_nil (by decide) _ c
  rw [Text.titleChars]
  refine List.append_ne_nil_of_left_ne_nil ?_ _
  split
  · split
    · exact List.cons_ne_nil _ _
    · exact hlower
  · exact htitle

theorem titleOfName_ne_empty {name : String} (h : name ≠ "") : titleOfName name ≠ "" := by
  have hchars : name.toList ≠ [] := fun hnil => h (String.toList_eq_nil_iff.1 hnil)
  rw [titleOfName, Text.titleCase, ne_eq, String.ofList_eq_empty_iff]
  exact titleChars_ne_nil [] (by simpa using hchars)

/-- The title that a page of the site gets from its path is made of a name of the path. -/
theorem titleOfPath_ne_empty {path title : String} (hrelative : Path.anchorOf path = .relative)
    (h : titleOfPath path = .ok title) : title ≠ "" := by
  have hnames : ∀ name ∈ (Path.parse path).names.reverse, name ≠ "" := by
    intro name hname
    have hisName := List.of_mem_filter (List.mem_reverse.1 hname)
    rintro rfl
    exact absurd hisName (by decide)
  have habsolute : (Path.parse path).isAbsolute = false := by simp [Path.isAbsolute, Path.parse, hrelative]
  unfold titleOfPath at h
  dsimp only at h
  rw [habsolute] at h
  split at h
  · cases h
  · rename_i last above hreverse
    rw [hreverse] at hnames
    obtain ⟨hlast, habove⟩ := List.forall_mem_cons.1 hnames
    have hstem := dropSuffix_ne_empty hlast
    rw [if_neg Bool.false_ne_true] at h
    split at h
    · rename_i next _
      obtain rfl := Except.ok.inj h
      apply titleOfName_ne_empty
      split
      · exact habove next List.mem_cons_self
      · exact hstem
    · obtain rfl := Except.ok.inj h
      exact titleOfName_ne_empty hstem

/-! ## Pages -/

theorem isUnrooted_of_isPagePath {path : String} (h : IsPagePath path) : IsUnrooted path := by
  obtain ⟨text, rfl⟩ := h.trimmed
  exact isUnrooted_dropSlashes (Text.strip text)

theorem page_isWellFormed {entry : Value × Value} {p : Page} (h : page entry = .ok p) : p.IsWellFormed := by
  obtain ⟨settings, hparts⟩ := exists_pageParts h
  have hpath := isPagePath_of_pagePath hparts.path
  have htitle : p.title ≠ "" := by
    obtain hgiven | hmade := hparts.title
    · exact (optionalText_trimmed hgiven).ne_empty
    · exact titleOfPath_ne_empty hpath.anchorOf_eq hmade
  refine ⟨hpath.ne_empty, isUnrooted_of_isPagePath hpath, hpath.inside, htitle, fun text htext => ?_⟩
  obtain htext : p.language = some text := htext
  exact optionalText_trimmed (hparts.language.trans (congrArg Except.ok htext))

/-! ## Sites -/

/-- **An accepted site is well-formed.** -/
theorem site_isWellFormed {doc : Value} {s : Site} (h : site doc = .ok s) : s.IsWellFormed := by
  obtain ⟨entries, h⟩ := siteOfEntries_of_site h
  obtain ⟨ds, -, htoc, hmasthead, hlanguage, hpages, -, hname, languages, hlanguages, heq⟩ := siteOfEntries_eq_ok h
  have hforms := pages_invariant (Q := fun entry => entry.2.IsWellFormed) (fun _ _ => page_isWellFormed) hpages
  obtain ⟨htoc_ne, htoc⟩ := toc_isWellFormed htoc
  refine ⟨htoc_ne, htoc, masthead_isWellFormed hmasthead, fun entry hentry => (keepsPaths_pages hpages entry hentry).1,
    fun p hp => ?_, textOr_trimmed hlanguage (by decide), textOr_trimmed hname (by decide), ?_⟩
  · obtain ⟨entry, hentry, rfl⟩ := List.mem_map.1 hp
    exact hforms entry hentry
  · rw [heq]
    exact orStock_trimmed (names_trimmed hlanguages) (by decide)

/-- A document that leaves much to tidy up. -/
def untidyDocument : Value := .map [
  (.text "toc", .list [.map [
    (.text "link", .text " //guide/ "),
    (.text "labels", .map [
      (.text " en ", .text " Guide\n"), (.text "de ", .text " Handbuch"), (.text "fr", .text " ")]),
    (.text "children", .list [.map [(.text "title", .text "\tTools"), (.text "link", .text "tools.html")]])]]),
  (.text "masthead", .map [
    (.text "primary", .list [.map [
      (.text "label", .text " Home"), (.text "link", .text "/index.html "), (.text "css_class", .text " "),
      (.text "selected_by", .list [.text " guide ", .text ""]), (.text "excluded_by", .text " old  older ")]]),
    (.text "x_nav_flags", .list [])]),
  (.text "defaults", .map [(.text "language", .text " "), (.text "languages", .text " en  de ")]),
  (.text "pages", .map [(.text " /guide/index.html", .null)])]

/-- Its title comes from a label, its page has one made from the path, and its blank settings are the stock ones. -/
theorem site_isWellFormed_untidy : ∃ s, site untidyDocument = .ok s ∧ s.IsWellFormed ∧
    s.toc.map (fun n => (n.title, n.link, n.labels.entries)) = [("Guide", "guide/", [("de", "Handbuch")])] ∧
    s.pages.entries = [("guide/index.html", ⟨"guide/index.html", "Guide", ∅, none⟩)] ∧ s.language = "en" :=
  ⟨_, rfl, @site_isWellFormed untidyDocument _ rfl, rfl, rfl, rfl⟩

end Config

end GuideSite
