import GuideSite.Proofs.Config.Accepted
import GuideSite.Proofs.Value.Parts

/-!
# What ends the reading of a document

A document that is a mapping and a tree gives a site or a fault of its settings. Four things let another error through:
an integer with too many digits to be shown, an infinite width or height, an output directory that is no text, and a
page without a title whose path names no file.

`RaisesOnly` says which errors a reading may end with; it is carried through a sequence of readings, and there is one
lemma for each function that reads a setting.

* `displayed_raises`, `labels_raises`, `flags_raises`: settings of any section.
* `masthead_raises`, `toc_raises`, `pages_raises`, `outputDir_raises`: the sections.
* `site_raises`: documents.
-/

namespace GuideSite

/-! ## Errors of a reading -/

section RaisesOnly

variable {α β : Type} {P Q : Error → Prop}

/-- The reading ends with an error only if it is one of these. -/
def RaisesOnly (P : Error → Prop) (x : Except Error α) : Prop := ∀ e, x = .error e → P e

namespace RaisesOnly

theorem ok (a : α) : RaisesOnly P (.ok a : Except Error α) := nofun

theorem error {e : Error} (h : P e) : RaisesOnly P (.error e : Except Error α) := by
  rintro _ ⟨⟩
  exact h

theorem mono {x : Except Error α} (h : RaisesOnly P x) (hsub : ∀ e, P e → Q e) : RaisesOnly Q x :=
  fun e he => hsub e (h e he)

theorem bind {x : Except Error α} {f : α → Except Error β} (hx : RaisesOnly P x)
    (hf : ∀ a, x = .ok a → RaisesOnly P (f a)) : RaisesOnly P (x >>= f) := by
  cases x with
  | ok a => exact hf a rfl
  | error e => exact error (hx e rfl)

theorem mapError {x : Except Error α} {f : Error → Error} (h : RaisesOnly (fun e => P (f e)) x) :
    RaisesOnly P (x.mapError f) := by
  cases x with
  | ok a => exact ok a
  | error e => exact error (h e rfl)

theorem mapM {f : α → Except Error β} {xs : List α} (h : ∀ x ∈ xs, RaisesOnly P (f x)) : RaisesOnly P (xs.mapM f) := by
  induction xs with
  | nil => exact ok []
  | cons x xs ih =>
    obtain ⟨hx, hxs⟩ := List.forall_mem_cons.1 h
    rw [List.mapM_cons]
    exact bind hx fun _ _ => bind (ih hxs) fun _ _ => ok _

theorem foldlM {f : β → α → Except Error β} {xs : List α} (h : ∀ x ∈ xs, ∀ b, RaisesOnly P (f b x)) (b : β) :
    RaisesOnly P (xs.foldlM f b) := by
  induction xs generalizing b with
  | nil => exact ok b
  | cons x xs ih =>
    obtain ⟨hx, hxs⟩ := List.forall_mem_cons.1 h
    rw [List.foldlM_cons]
    exact bind (hx b) fun b' _ => ih hxs b'

end RaisesOnly

end RaisesOnly

namespace Config

variable {long : Prop} {v : Value}

/-- A fault of the settings, or an integer with too many digits. -/
def Expected (long : Prop) (e : Error) : Prop := (∃ fault, e = .config fault) ∨ e = .longInteger ∧ long

theorem expected_config (long : Prop) (fault : ConfigFault) : Expected long (.config fault) := .inl ⟨fault, rfl⟩

/-! ## Single settings -/

theorem displayed_raises (h : v.Readable long) : RaisesOnly (Expected long) v.displayed :=
  fun _ he => .inr (h.displayed_eq_error he)

theorem optionalText_raises (h : v.Readable long) : RaisesOnly (Expected long) (optionalText v) := by
  unfold optionalText
  split
  · exact .ok none
  · exact .bind (displayed_raises h) fun _ _ => .ok _

theorem requiredText_raises (place : Place) (field : String) (h : v.Readable long) :
    RaisesOnly (Expected long) (requiredText place field v) := by
  refine .bind (optionalText_raises h) fun given _ => ?_
  cases given with
  | some text => exact .ok text
  | none => exact .error (expected_config long _)

theorem names_raises (h : v.Readable long) : RaisesOnly (Expected long) (names v) := by
  unfold names
  rw [h.unfold_eq]
  split
  · exact .ok _
  · refine .bind (.mapM fun item hitem => ?_) fun _ _ => .ok _
    exact displayed_raises (h.items rfl item hitem)
  · exact .ok []

theorem putLabel_raises {entry : Value × Value} (h : entry.1.Readable long ∧ entry.2.Readable long)
    (known : Dictionary String) : RaisesOnly (Expected long) (putLabel known entry) :=
  .bind (optionalText_raises h.1) fun _ _ => .bind (optionalText_raises h.2) fun _ _ => .ok _

theorem labels_raises (place : Place) (h : v.Readable long) : RaisesOnly (Expected long) (labels place v) := by
  unfold labels
  split
  · exact .ok ∅
  · split
    · rename_i entries hentries
      exact .foldlM (fun entry hentry known => putLabel_raises (h.entries hentries entry hentry) known) ∅
    · exact .error (expected_config long _)

/-! ## Section flags -/

/-- What a mapping of section flags may end with. -/
def FlagExpected (long : Prop) (e : Error) : Prop := (∃ fault, e = .flag fault) ∨ e = .longInteger ∧ long

theorem truth_raises (name : String) (h : v.Readable long) :
    RaisesOnly (FlagExpected long) (SectionFlags.truth name v) := by
  unfold SectionFlags.truth
  split
  · exact .ok false
  · exact .ok _
  · exact .bind (fun e he => .inr (h.shown_eq_error he)) fun shown _ => .error (.inl ⟨_, rfl⟩)

/-- The induction is on the depth, which is enough as long as the value is no larger. -/
theorem enabledAt_raises {depth : Nat} {name : String} (h : v.Readable long) (hdepth : v.size ≤ depth) :
    RaisesOnly (FlagExpected long) (SectionFlags.enabledAt depth name v) := by
  induction depth generalizing name v with
  | zero =>
    have := v.size_pos
    omega
  | succ depth ih =>
    rw [SectionFlags.enabledAt]
    split
    · rename_i entries hentries
      have hreadable := h.entries hentries
      have hsize := Value.sizeEntries_lt_of_entries? h.isLoop_eq hentries
      refine .bind (truth_raises name (hreadable.get _)) fun own _ => ?_
      refine .bind (.mapM fun entry hentry => ?_) fun inner _ => ?_
      · obtain ⟨hkey, hvalue⟩ := hreadable entry (List.mem_of_mem_filter hentry)
        have hbelow := Value.size_le_sizeEntries (List.mem_of_mem_filter hentry)
        exact .bind (fun e he => .inr (hkey.displayed_eq_error he)) fun key _ => ih hvalue (by omega)
      · exact .ok _
    · exact .bind (truth_raises name h) fun own _ => .ok _

theorem ofMapping_raises {entries : Value.Entries} (h : Value.AreReadable long entries) :
    RaisesOnly (FlagExpected long) (SectionFlags.ofMapping entries) := by
  refine .bind (.mapM fun entry hentry => ?_) fun _ _ => .ok _
  obtain ⟨hkey, hvalue⟩ := h entry hentry
  have hsize := Value.size_le_sizeEntries hentry
  exact .bind (fun e he => .inr (hkey.displayed_eq_error he)) fun key _ => enabledAt_raises hvalue (by omega)

theorem expected_flagsAt (place : Place) {e : Error} (h : FlagExpected long e) : Expected long (flagsAt place e) := by
  obtain ⟨fault, rfl⟩ | ⟨rfl, hlong⟩ := h
  · exact expected_config long _
  · exact .inr ⟨rfl, hlong⟩

theorem flags_raises (place : Place) (h : v.Readable long) : RaisesOnly (Expected long) (flags place v) := by
  unfold flags
  rw [h.unfold_eq]
  split
  · exact .ok ∅
  · exact .ok _
  · refine .bind (.mapM fun item hitem => ?_) fun _ _ => .ok _
    exact displayed_raises (h.items rfl item hitem)
  · exact .mapError ((ofMapping_raises (h.entries rfl)).mono fun e he => expected_flagsAt place he)
  · exact .mapError ((ofMapping_raises (h.entries rfl)).mono fun e he => expected_flagsAt place he)
  · exact .error (expected_config long _)

/-! ## The masthead -/

theorem textOr_raises {entries : Value.Entries} (h : Value.AreReadable long entries) (key stock : String) :
    RaisesOnly (Expected long) (textOr entries key stock) :=
  .bind (optionalText_raises (h.get key)) fun _ _ => .ok _

theorem sizeOfText_raises (s : String) : RaisesOnly (Expected long) (sizeOfText s) := by
  unfold sizeOfText
  split
  · exact .ok _
  · exact .error (expected_config long _)

/-- The width or the height of the logo is infinite. -/
def HasInfiniteSize (logo : Value) : Prop :=
  ∃ entries, logo.entries? = some entries ∧
    ∃ key ∈ ["width", "height"], ∃ negative, Value.find? key entries = some (.float (.infinite negative))

/-- What a logo may end with. -/
def LogoExpected (long : Prop) (logo : Value) (e : Error) : Prop :=
  Expected long e ∨ e = .infiniteSize ∧ HasInfiniteSize logo

theorem size_raises (v : Value) :
    RaisesOnly (fun e => Expected long e ∨ e = .infiniteSize ∧ ∃ negative, v = .float (.infinite negative))
      (size v) := by
  unfold size
  split
  · exact .ok _
  · exact .ok _
  · rename_i negative
    exact .error (.inr ⟨rfl, negative, rfl⟩)
  · split
    · exact .ok _
    · exact .error (.inl (expected_config long _))
  · exact (sizeOfText_raises _).mono fun _ => .inl
  · exact (sizeOfText_raises _).mono fun _ => .inl
  · exact .error (.inl (expected_config long _))

theorem sizeOr_raises {entries : Value.Entries} {logo : Value} (hentries : logo.entries? = some entries) {key : String}
    (hkey : key ∈ ["width", "height"]) (stock : Int) :
    RaisesOnly (LogoExpected long logo) (sizeOr entries key stock) := by
  unfold sizeOr
  split
  · rename_i given hfind
    refine (size_raises given).mono fun e he => he.imp_right ?_
    rintro ⟨rfl, negative, rfl⟩
    exact ⟨rfl, entries, hentries, key, hkey, negative, hfind⟩
  · exact .ok stock

theorem logo_raises (stock : Logo) (h : v.Readable long) : RaisesOnly (LogoExpected long v) (logo stock v) := by
  unfold logo
  split
  · exact .ok stock
  · split
    · exact .error (.inl (expected_config long _))
    · rename_i entries hentries
      have htext : ∀ key stock, RaisesOnly (LogoExpected long v) (textOr entries key stock) := fun key stock =>
        (textOr_raises (h.entries hentries) key stock).mono fun _ => .inl
      refine .bind (sizeOr_raises hentries (by simp) _) fun width _ => ?_
      refine .bind (sizeOr_raises hentries (by simp) _) fun height _ => ?_
      exact .bind (htext _ _) fun _ _ => .bind (htext _ _) fun _ _ => .bind (htext _ _) fun _ _ => .ok _

theorem mastheadEntry_raises (bar : String) (h : v.Readable long) :
    RaisesOnly (Expected long) (mastheadEntry bar v) := by
  unfold mastheadEntry
  split
  · exact .error (expected_config long _)
  · rename_i entries hentries
    have hreadable := h.entries hentries
    split
    · rename_i label link hlabel hlink
      refine .bind (requiredText_raises _ _ (hreadable.find? hlabel)) fun label _ => ?_
      refine .bind (requiredText_raises _ _ (hreadable.find? hlink)) fun link _ => ?_
      refine .bind (names_raises (hreadable.get _)) fun selectedBy _ => ?_
      refine .bind (names_raises (hreadable.get _)) fun excludedBy _ => ?_
      refine .bind (labels_raises _ (hreadable.get _)) fun translations _ => ?_
      exact .bind (optionalText_raises (hreadable.get _)) fun cssClass _ => .ok _
    · exact .error (expected_config long _)

theorem mastheadBar_raises (bar : String) (stock : List MastheadEntry) (h : v.Readable long) :
    RaisesOnly (Expected long) (mastheadBar bar stock v) := by
  unfold mastheadBar
  split
  · exact .ok stock
  · split
    · rename_i items hitems
      exact .mapM fun item hitem => mastheadEntry_raises bar (h.items hitems item hitem)
    · exact .error (expected_config long _)

theorem moreLink_raises (h : v.Readable long) : RaisesOnly (Expected long) (moreLink v) := by
  unfold moreLink
  split
  · exact .error (expected_config long _)
  · rename_i entries hentries
    have hreadable := h.entries hentries
    split
    · rename_i label href hlabel hhref
      refine .bind (requiredText_raises _ _ (hreadable.find? hlabel)) fun label _ => ?_
      exact .bind (requiredText_raises _ _ (hreadable.find? hhref)) fun href _ => .ok _
    · exact .error (expected_config long _)

theorem moreLinks_raises (stock : List ExternalLink) (h : v.Readable long) :
    RaisesOnly (Expected long) (moreLinks stock v) := by
  unfold moreLinks
  split
  · exact .ok stock
  · split
    · rename_i items hitems
      exact .mapM fun item hitem => moreLink_raises (h.items hitems item hitem)
    · exact .error (expected_config long _)

/-- What a masthead may end with. -/
def MastheadExpected (long : Prop) (masthead : Value) (e : Error) : Prop :=
  Expected long e ∨ e = .infiniteSize ∧
    ∃ entries, masthead.entries? = some entries ∧ HasInfiniteSize (Value.get entries "logo")

theorem masthead_raises (h : v.Readable long) : RaisesOnly (MastheadExpected long v) (masthead v) := by
  unfold masthead
  split
  · exact .ok _
  · split
    · exact .error (.inl (expected_config long _))
    · rename_i entries hentries
      have hreadable := h.entries hentries
      have hlogo : RaisesOnly (MastheadExpected long v) (logo Masthead.stock.logo (Value.get entries "logo")) :=
        (logo_raises _ (hreadable.get _)).mono fun e he => he.imp_right fun hinf => ⟨hinf.1, entries, hentries, hinf.2⟩
      have hbar : ∀ bar stock key,
          RaisesOnly (MastheadExpected long v) (mastheadBar bar stock (Value.get entries key)) :=
        fun bar stock key => (mastheadBar_raises bar stock (hreadable.get key)).mono fun _ => .inl
      have htext : ∀ key stock, RaisesOnly (MastheadExpected long v) (textOr entries key stock) := fun key stock =>
        (textOr_raises hreadable key stock).mono fun _ => .inl
      refine .bind hlogo fun logo _ => ?_
      refine .bind (hbar _ _ _) fun primary _ => ?_
      refine .bind (hbar _ _ _) fun secondary _ => ?_
      refine .bind (hbar _ _ _) fun quicknav _ => ?_
      refine .bind ((moreLinks_raises _ (hreadable.get _)).mono fun _ => .inl) fun moreLinks _ => ?_
      refine .bind ((names_raises (hreadable.get _)).mono fun _ => .inl) fun barFlags _ => ?_
      exact .bind (htext _ _) fun _ _ => .bind (htext _ _) fun _ _ => .ok _

/-! ## The table of contents -/

theorem tocTitle_raises (trail : List Nat) {entries : Value.Entries} (h : Value.AreReadable long entries)
    (known : Dictionary String) : RaisesOnly (Expected long) (tocTitle trail entries known) := by
  refine .bind (optionalText_raises (h.get _)) fun given _ => ?_
  cases given with
  | some title => exact .ok title
  | none =>
    dsimp only
    split
    · exact .ok _
    · exact .error (expected_config long _)

theorem tocChildren_raises (title : String) (v : Value) : RaisesOnly (Expected long) (tocChildren title v) := by
  unfold tocChildren
  split
  · exact .ok _
  · split
    · exact .ok []
    · exact .error (expected_config long _)

/-- The children of an entry are readable and smaller than the entry. -/
theorem mem_tocChildren {entries : Value.Entries} {title : String} {below : List Value}
    (h : v.Readable long) (hentries : v.entries? = some entries)
    (hbelow : tocChildren title (Value.get entries "children") = .ok below) {child : Value} (hchild : child ∈ below) :
    child.Readable long ∧ child.size < v.size := by
  have hreadable := (h.entries hentries).get "children"
  unfold tocChildren at hbelow
  split at hbelow
  · rename_i items hitems
    obtain rfl := Except.ok.inj hbelow
    have hitem := Value.size_lt_of_items? hreadable.isLoop_eq hitems hchild
    have hget := Value.size_get_le hitems
    have hsize := Value.sizeEntries_lt_of_entries? h.isLoop_eq hentries
    exact ⟨hreadable.items hitems child hchild, by omega⟩
  · split at hbelow
    · obtain rfl := Except.ok.inj hbelow
      cases hchild
    · cases hbelow

/-- The induction is on the depth, which is enough as long as the entry is no larger. -/
theorem tocNode_raises {depth : Nat} {trail : List Nat} (h : v.Readable long) (hdepth : v.size ≤ depth) :
    RaisesOnly (Expected long) (tocNode depth trail v) := by
  induction depth generalizing trail v with
  | zero =>
    have := v.size_pos
    omega
  | succ depth ih =>
    rw [tocNode]
    split
    · exact .error (expected_config long _)
    · rename_i entries hentries
      have hreadable := h.entries hentries
      refine .bind (labels_raises _ (hreadable.get _)) fun labels _ => ?_
      refine .bind (tocTitle_raises trail hreadable labels) fun title _ => ?_
      refine .bind (requiredText_raises _ _ (hreadable.get _)) fun link _ => ?_
      refine .bind (tocChildren_raises title _) fun below hbelow => ?_
      refine .bind (.mapM fun entry hentry => ?_) fun children _ => .ok _
      obtain ⟨hchild, hsize⟩ := mem_tocChildren h hentries hbelow (List.fst_mem_of_mem_zipIdx hentry)
      exact ih hchild (by omega)

theorem toc_raises (h : v.Readable long) : RaisesOnly (Expected long) (toc v) := by
  unfold toc
  split
  · exact .error (expected_config long _)
  · rename_i items _ hitems
    refine .mapM fun entry hentry => ?_
    have hitem := List.fst_mem_of_mem_zipIdx hentry
    exact tocNode_raises (h.items hitems _ hitem) (Value.size_le_sizeItems hitem)
  · exact .error (expected_config long _)

/-! ## Pages -/

/-- One of the pages has a path that names no file, and no title. -/
def HasUnnamedPage (pages : Value) : Prop :=
  ∃ entries, pages.entries? = some entries ∧ ∃ entry ∈ entries, ∃ path settings,
    pagePath entry.1 = .ok path ∧ (Path.parse path).names = [] ∧ pageSettings path entry.2 = .ok settings ∧
      optionalText (Value.get settings "title") = .ok none

/-- What pages may end with. -/
def PagesExpected (long : Prop) (pages : Value) (e : Error) : Prop :=
  Expected long e ∨ e = .unnamedPage "." ∧ HasUnnamedPage pages

theorem titleOfPath_raises {path : String} (h : IsPagePath path) :
    RaisesOnly (fun e => e = .unnamedPage "." ∧ (Path.parse path).names = []) (titleOfPath path) := by
  unfold titleOfPath
  dsimp only
  split
  · rename_i hnil
    have hnames : (Path.parse path).names = [] := List.reverse_eq_nil_iff.1 hnil
    refine .error ⟨?_, hnames⟩
    rw [Path.text, if_pos ⟨h.anchorOf_eq, hnames⟩]
  · split
    · exact .ok _
    · exact .ok _

theorem pagePath_raises (h : v.Readable long) : RaisesOnly (Expected long) (pagePath v) := by
  refine .bind (displayed_raises h) fun text _ => ?_
  dsimp only
  split
  · exact .error (expected_config long _)
  · split
    · exact .error (expected_config long _)
    · exact .ok _

theorem pageSettings_raises (path : String) (v : Value) : RaisesOnly (Expected long) (pageSettings path v) := by
  unfold pageSettings
  split
  · exact .ok []
  · split
    · exact .ok _
    · exact .error (expected_config long _)

theorem areReadable_pageSettings {path : String} {settings : Value.Entries} (h : v.Readable long)
    (hsettings : pageSettings path v = .ok settings) : Value.AreReadable long settings := by
  unfold pageSettings at hsettings
  split at hsettings
  · obtain rfl := Except.ok.inj hsettings
    exact nofun
  · split at hsettings
    · rename_i entries hentries
      obtain rfl := Except.ok.inj hsettings
      exact h.entries hentries
    · cases hsettings

theorem page_raises {entries : Value.Entries} {entry : Value × Value} (h : v.Readable long)
    (hentries : v.entries? = some entries) (hentry : entry ∈ entries) :
    RaisesOnly (PagesExpected long v) (page entry) := by
  obtain ⟨hkey, hvalue⟩ := h.entries hentries entry hentry
  refine .bind ((pagePath_raises hkey).mono fun _ => .inl) fun path hpath => ?_
  refine .bind ((pageSettings_raises path entry.2).mono fun _ => .inl) fun settings hsettings => ?_
  have hreadable := areReadable_pageSettings hvalue hsettings
  refine .bind ((optionalText_raises (hreadable.get _)).mono fun _ => .inl) fun given hgiven => ?_
  -- What is left to read when the title is known.
  have hrest : ∀ title, RaisesOnly (PagesExpected long v) (do
      let flags ← flags (.page path) (Value.get settings "flags")
      return ({ path, title, flags, language := ← optionalText (Value.get settings "language") } : Page)) := by
    intro title
    refine .bind ((flags_raises _ (hreadable.get _)).mono fun _ => .inl) fun flags _ => ?_
    exact .bind ((optionalText_raises (hreadable.get _)).mono fun _ => .inl) fun language _ => .ok _
  cases given with
  | some title => exact hrest title
  | none =>
    refine .bind ((titleOfPath_raises (isPagePath_of_pagePath hpath)).mono fun e he => ?_) fun title _ => hrest title
    obtain ⟨rfl, hnames⟩ := he
    exact .inr ⟨rfl, entries, hentries, entry, hentry, path, settings, hpath, hnames, hsettings, hgiven⟩

theorem pagesFrom_raises {entries rest : Value.Entries} (h : v.Readable long) (hentries : v.entries? = some entries)
    (hrest : rest ⊆ entries) (known : Dictionary Page) :
    RaisesOnly (PagesExpected long v) (pagesFrom known rest) := by
  induction rest generalizing known with
  | nil => exact .ok known
  | cons entry rest ih =>
    obtain ⟨hentry, hrest⟩ := List.cons_subset.1 hrest
    exact .bind (page_raises h hentries hentry) fun page _ => ih hrest _

theorem pages_raises (h : v.Readable long) : RaisesOnly (PagesExpected long v) (pages v) := by
  unfold pages
  split
  · exact .ok ∅
  · split
    · rename_i entries hentries
      exact pagesFrom_raises h hentries (List.Subset.refl entries) ∅
    · exact .error (.inl (expected_config long _))

/-! ## Documents -/

theorem defaults_raises (v : Value) : RaisesOnly (Expected long) (defaults v) := by
  unfold defaults
  split
  · exact .ok _
  · split
    · exact .ok []
    · exact .error (expected_config long _)

theorem areReadable_defaults {entries : Value.Entries} (h : v.Readable long) (hdefaults : defaults v = .ok entries) :
    Value.AreReadable long entries := by
  unfold defaults at hdefaults
  split at hdefaults
  · rename_i found hentries
    obtain rfl := Except.ok.inj hdefaults
    exact h.entries hentries
  · split at hdefaults
    · obtain rfl := Except.ok.inj hdefaults
      exact nofun
    · cases hdefaults

/-- The errors that are no faults of the settings, each with what lets it through. -/
inductive Escapes (doc : Value) (entries : Value.Entries) : Error → Prop
  /-- An integer has too many digits to be shown. -/
  | longInteger (h : doc.HoldsLong) : Escapes doc entries .longInteger
  /-- The width or the height of the logo is infinite. -/
  | infiniteSize (masthead : Value.Entries) (hmasthead : (Value.get entries "masthead").entries? = some masthead)
      (h : HasInfiniteSize (Value.get masthead "logo")) : Escapes doc entries .infiniteSize
  /-- The output directory is given, but neither as text nor as bytes. -/
  | outputDirectory (ds : Value.Entries) (v : Value) (hdefaults : defaults (Value.get entries "defaults") = .ok ds)
      (h : Value.find? "output_dir" ds = some v) (htext : ∀ s, v ≠ .text s) :
      Escapes doc entries (.outputDirectory v.kind)
  /-- The output directory is given as bytes. -/
  | outputBytes (ds : Value.Entries) (data : List UInt8)
      (hdefaults : defaults (Value.get entries "defaults") = .ok ds)
      (h : Value.find? "output_dir" ds = some (.bytes data)) : Escapes doc entries .outputBytes
  /-- A page has a path that names no file, and no title. -/
  | unnamedPage (h : HasUnnamedPage (Value.get entries "pages")) : Escapes doc entries (.unnamedPage ".")

theorem outputDir_raises {doc : Value} {entries ds : Value.Entries}
    (hdefaults : defaults (Value.get entries "defaults") = .ok ds) :
    RaisesOnly (Escapes doc entries) (outputDir ds) := by
  unfold outputDir
  split
  · exact .ok _
  · exact .ok _
  · rename_i data hfind
    exact .error (.outputBytes ds data hdefaults hfind)
  · rename_i given htext _ hfind
    exact .error (.outputDirectory ds given hdefaults hfind htext)

section Documents

variable {doc : Value} {entries : Value.Entries} {e : Error}

/-- What a document may end with. -/
def DocumentExpected (doc : Value) (entries : Value.Entries) (e : Error) : Prop :=
  (∃ fault, e = .config fault) ∨ Escapes doc entries e

theorem documentExpected_of_expected (h : Expected doc.HoldsLong e) : DocumentExpected doc entries e := by
  obtain hconfig | ⟨rfl, hlong⟩ := h
  · exact .inl hconfig
  · exact .inr (.longInteger hlong)

theorem documentExpected_of_masthead (h : MastheadExpected doc.HoldsLong (Value.get entries "masthead") e) :
    DocumentExpected doc entries e := by
  obtain hexpected | ⟨rfl, masthead, hmasthead, hinfinite⟩ := h
  · exact documentExpected_of_expected hexpected
  · exact .inr (.infiniteSize masthead hmasthead hinfinite)

theorem documentExpected_of_pages (h : PagesExpected doc.HoldsLong (Value.get entries "pages") e) :
    DocumentExpected doc entries e := by
  obtain hexpected | ⟨rfl, hunnamed⟩ := h
  · exact documentExpected_of_expected hexpected
  · exact .inr (.unnamedPage hunnamed)

theorem siteOfEntries_raises (h : Value.AreReadable doc.HoldsLong entries) :
    RaisesOnly (DocumentExpected doc entries) (siteOfEntries entries) := by
  have hexpected : ∀ {α : Type} {x : Except Error α}, RaisesOnly (Expected doc.HoldsLong) x →
      RaisesOnly (DocumentExpected doc entries) x := fun hx => hx.mono fun _ => documentExpected_of_expected
  refine .bind (hexpected (defaults_raises _)) fun ds hds => ?_
  have hdefaults := areReadable_defaults (h.get _) hds
  refine .bind (hexpected (toc_raises (h.get _))) fun toc _ => ?_
  refine .bind ((masthead_raises (h.get _)).mono fun _ => documentExpected_of_masthead) fun masthead _ => ?_
  refine .bind (hexpected (textOr_raises hdefaults _ _)) fun language _ => ?_
  refine .bind ((pages_raises (h.get _)).mono fun _ => documentExpected_of_pages) fun pages _ => ?_
  refine .bind ((outputDir_raises hds).mono fun _ => .inr) fun outputDir _ => ?_
  refine .bind (hexpected (textOr_raises hdefaults _ _)) fun siteName _ => ?_
  exact .bind (hexpected (names_raises (hdefaults.get _))) fun languages _ => .ok _

/-- **A document that is a mapping gives a site or a fault of its settings**, or one of the errors that slip through. -/
theorem site_raises (hmapping : doc.entries? = some entries) (htree : doc.IsTree) :
    (∃ s, site doc = .ok s) ∨ (∃ fault, site doc = .error (.config fault)) ∨
      ∃ e, site doc = .error e ∧ Escapes doc entries e := by
  have hreadable : doc.Readable doc.HoldsLong := ⟨htree, id⟩
  have hraises : RaisesOnly (DocumentExpected doc entries) (site doc) := by
    unfold site
    rw [hmapping]
    exact siteOfEntries_raises (hreadable.entries hmapping)
  cases hsite : site doc with
  | ok s => exact .inl ⟨s, rfl⟩
  | error e =>
    obtain ⟨fault, rfl⟩ | hescapes := hraises e hsite
    · exact .inr (.inl ⟨fault, rfl⟩)
    · exact .inr (.inr ⟨e, rfl, hescapes⟩)

end Documents

/-- A document with one entry in its table of contents, and other settings. -/
def documentWith (settings : Value.Entries) : Value :=
  .map ((.text "toc", .list [.map [(.text "title", .text "Guide"), (.text "link", .text "index.html")]]) :: settings)

theorem site_raises_page : ∃ entries, (documentOf ["a/x.html"] []).entries? = some entries ∧
    (documentOf ["a/x.html"] []).IsTree ∧
    ((∃ s, site (documentOf ["a/x.html"] []) = .ok s) ∨
      (∃ fault, site (documentOf ["a/x.html"] []) = .error (.config fault)) ∨
        ∃ e, site (documentOf ["a/x.html"] []) = .error e ∧ Escapes (documentOf ["a/x.html"] []) entries e) := by
  have htree : (documentOf ["a/x.html"] []).IsTree := by decide
  exact ⟨_, rfl, htree, site_raises rfl htree⟩

/-- Mappings that end with an error which is no fault of the settings: an infinite width, an output directory that is a
number, and a page at the output directory itself. -/
theorem site_raises_escaping :
    (site (documentWith
        [(.text "masthead", .map [(.text "logo", .map [(.text "width", .float (.infinite false))])])]) =
      .error .infiniteSize) ∧
    (site (documentWith [(.text "defaults", .map [(.text "output_dir", .int 5)])]) =
      .error (.outputDirectory "int")) ∧
    site (documentWith [(.text "pages", .map [(.text ".", .null)])]) = .error (.unnamedPage ".") :=
  ⟨rfl, rfl, rfl⟩

end Config

end GuideSite
