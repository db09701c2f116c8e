import GuideSite.Proofs.Config.Blocks
import GuideSite.Proofs.Config.PageEntries
import GuideSite.Proofs.Config.TocChecks

/-!
# Settings that are nothing

A key that may be absent from a mapping of a document may also be there with nothing under it. Most settings are read in
the same way then: they are looked up so that a missing key has the empty value. The width and the height of the logo
and the output directory are looked up another way, and nothing is no number and no path.

For each block there is a lemma on the function that reads it. It is read in the same way after a null was added to one
of its mappings, or with the error of the null (`nullFault`).

* `logo_addsNull`, `masthead_addsNull`, `pages_addsNull`, `toc_addsNull`, `defaults_addsNull`: the parts of a site.
* `site_addsNull`: sites.
-/

namespace GuideSite

namespace Config

variable {target : Block} {key : String} {v w : Value}

/-- The error of a key with nothing under it, if this does not count as absent. -/
def nullFault : Block → (key : String) → Option Error
  | .logo, "width" => some (.config .logoSize)
  | .logo, "height" => some (.config .logoSize)
  | .defaults, "output_dir" => some (.outputDirectory "NoneType")
  | _, _ => none

theorem nullFault_eq_some {e : Error} (h : nullFault target key = some e) :
    (target = .logo ∧ (key = "width" ∨ key = "height") ∧ e = .config .logoSize) ∨
      target = .defaults ∧ key = "output_dir" ∧ e = .outputDirectory "NoneType" := by
  unfold nullFault at h
  split at h <;> cases h <;> simp

/-! ## The masthead -/

theorem textOr_of_get {es es' : Value.Entries} {name : String} (h : Value.get es' name = Value.get es name)
    (stock : String) : textOr es' name stock = textOr es name stock := by
  rw [textOr, textOr, h]

theorem logo_of_entries (stock : Logo) {es : Value.Entries} (h : v.entries? = some es) : logo stock v = do
    let width ← sizeOr es "width" stock.width
    let height ← sizeOr es "height" stock.height
    let src ← textOr es "src" stock.src
    let alt ← textOr es "alt" stock.alt
    let link ← textOr es "link" stock.link
    return ⟨src, alt, width, height, link⟩ := by
  unfold logo
  split
  · cases h
  · rw [h]

theorem logo_addsNull (stock : Logo) (h : AddsNull target key .logo v w) (hkey : nullFault target key = none) :
    logo stock w = logo stock v := by
  obtain ⟨es, es', name, hv, hw, hchanges⟩ := h.exists_changes rfl (by decide)
  have hsize : ∀ name, nullFault .logo name ≠ none → ∀ stock, sizeOr es' name stock = sizeOr es name stock := by
    intro size hsize stock
    cases hchanges with
    | added htarget _ _ _ others =>
      subst htarget
      rw [sizeOr, sizeOr, others size fun heq => hsize (heq ▸ hkey)]
    | below hfield => cases hfield
  have htext : ∀ name stock, textOr es' name stock = textOr es name stock := fun name =>
    textOr_of_get (hchanges.get_eq rfl)
  rw [logo_of_entries stock hv, logo_of_entries stock hw]
  simp only [htext, hsize "width" nofun, hsize "height" nofun]

/-- Nothing is no number, whichever of the sizes it is given for. -/
theorem logo_addsNull_size (stock : Logo) (h : AddsNull target key .logo v w) (hkey : key = "width" ∨ key = "height")
    {l : Logo} (hread : logo stock v = .ok l) : logo stock w = .error (.config .logoSize) := by
  obtain ⟨es, es', name, hv, hw, ⟨-, -, -, hnull, hothers⟩ | hfield⟩ := h.exists_changes rfl (by decide)
  case below => cases hfield
  have hsize : ∀ stock, sizeOr es' key stock = .error (.config .logoSize) := fun stock => by
    rw [sizeOr, hnull]
    rfl
  rw [logo_of_entries stock hv] at hread
  obtain ⟨width, hwidth, -⟩ := bind_eq_ok.1 hread
  rw [logo_of_entries stock hw]
  obtain rfl | rfl := hkey
  · exact bind_of_error (hsize stock.width)
  · -- The width is read before the height, and it is as it was.
    have hwidth' : sizeOr es' "width" stock.width = .ok width := by
      rw [← hwidth, sizeOr, sizeOr, hothers "width" (by decide)]
    rw [bind_of_ok hwidth']
    exact bind_of_error (hsize stock.height)

theorem mastheadEntry_addsNull (bar : String) (h : AddsNull target key .barEntry v w) :
    mastheadEntry bar w = mastheadEntry bar v := by
  obtain ⟨es, es', name, hv, hw, hchanges⟩ := h.exists_changes rfl (by decide)
  have hget : ∀ name, Value.get es' name = Value.get es name := fun name => hchanges.get_eq rfl
  have hlabel : Value.find? "label" es' = Value.find? "label" es := hchanges.find?_eq (by decide) rfl
  have hlink : Value.find? "link" es' = Value.find? "link" es := hchanges.find?_eq (by decide) rfl
  rw [mastheadEntry, mastheadEntry, hv, hw]
  simp only [hlabel, hlink, hget]

theorem mastheadBar_of_items (bar : String) (stock : List MastheadEntry) {items : List Value}
    (h : v.items? = some items) : mastheadBar bar stock v = items.mapM (mastheadEntry bar) := by
  unfold mastheadBar
  split
  · cases h
  · rw [h]

theorem mastheadBar_addsNull (bar : String) (stock : List MastheadEntry) (h : AddsNull target key .bar v w) :
    mastheadBar bar stock w = mastheadBar bar stock v := by
  obtain ⟨before, x, y, after, hv, hw, hentry⟩ := h.exists_item rfl
  rw [mastheadBar_of_items bar stock hv, mastheadBar_of_items bar stock hw]
  simp only [List.mapM_append, List.mapM_cons, mastheadEntry_addsNull bar hentry]

theorem masthead_of_entries {es : Value.Entries} (h : v.entries? = some es) : masthead v = do
    let logo ← logo Masthead.stock.logo (Value.get es "logo")
    let primary ← mastheadBar "primary" Masthead.stock.primary (Value.get es "primary")
    let secondary ← mastheadBar "secondary" Masthead.stock.secondary (Value.get es "secondary")
    let quicknav ← mastheadBar "quicknav" Masthead.stock.quicknav (Value.get es "quicknav")
    let moreLinks ← moreLinks Masthead.stock.moreLinks (Value.get es "more_links")
    let barFlags ← names (Value.get es "x_nav_flags")
    let moreHeading ← textOr es "more_heading" Masthead.stock.moreHeading
    let sectionClass ← textOr es "section_class" Masthead.stock.sectionClass
    return {
      logo, primary, secondary, quicknav, moreLinks, moreHeading, sectionClass
      barFlags := orStock barFlags Masthead.stock.barFlags } := by
  unfold masthead
  split
  · cases h
  · rw [h]

theorem masthead_addsNull (h : AddsNull target key .masthead v w) (hkey : nullFault target key = none) :
    masthead w = masthead v := by
  obtain ⟨es, es', name, hv, hw, hchanges⟩ := h.exists_changes rfl (by decide)
  have hlogo : logo Masthead.stock.logo (Value.get es' "logo") = logo Masthead.stock.logo (Value.get es "logo") :=
    hchanges.read_eq rfl fun hadds => logo_addsNull _ hadds hkey
  have hbar : ∀ bar stock, Block.masthead.field? bar = some .bar →
      mastheadBar bar stock (Value.get es' bar) = mastheadBar bar stock (Value.get es bar) :=
    fun bar stock hfield => hchanges.read_eq hfield (mastheadBar_addsNull bar stock)
  have hlinks : Value.get es' "more_links" = Value.get es "more_links" := hchanges.get_eq rfl
  have hflags : Value.get es' "x_nav_flags" = Value.get es "x_nav_flags" := hchanges.get_eq rfl
  have hheading : Value.get es' "more_heading" = Value.get es "more_heading" := hchanges.get_eq rfl
  have hclass : Value.get es' "section_class" = Value.get es "section_class" := hchanges.get_eq rfl
  rw [masthead_of_entries hv, masthead_of_entries hw]
  simp only [hlogo, hbar "primary" _ rfl, hbar "secondary" _ rfl, hbar "quicknav" _ rfl, hlinks, hflags,
    textOr_of_get hheading, textOr_of_get hclass]

/-- The logo is read first, so its error is that of the masthead. -/
theorem masthead_addsNull_size (h : AddsNull .logo key .masthead v w) (hkey : key = "width" ∨ key = "height")
    {m : Masthead} (hread : masthead v = .ok m) : masthead w = .error (.config .logoSize) := by
  obtain ⟨es, es', name, hv, hw, ⟨⟨⟩, -⟩ | ⟨hfield, before, after, -, hadds⟩⟩ := h.exists_changes rfl (by decide)
  obtain ⟨⟨⟩, -⟩ | ⟨-, rfl, rfl⟩ := Block.eq_of_logo_mem hfield hadds.target_mem
  rw [masthead_of_entries hv, Value.get, before] at hread
  obtain ⟨l, hlogo, -⟩ := bind_eq_ok.1 hread
  rw [masthead_of_entries hw, Value.get, after]
  exact bind_of_error (logo_addsNull_size _ hadds hkey hlogo)

/-! ## Pages -/

theorem pageSettings_of_entries (path : String) {es : Value.Entries} (h : v.entries? = some es) :
    pageSettings path v = .ok es := by
  unfold pageSettings
  split
  · cases h
  · rw [h]

theorem page_addsNull (path : Value) (h : AddsNull target key .page v w) : page (path, w) = page (path, v) := by
  obtain ⟨es, es', name, hv, hw, hchanges⟩ := h.exists_changes rfl (by decide)
  have hget : ∀ name, Value.get es' name = Value.get es name := fun name => hchanges.get_eq rfl
  unfold page
  cases pagePath path with
  | error e => rfl
  | ok text =>
    rw [bind_of_ok rfl, bind_of_ok rfl, bind_of_ok (pageSettings_of_entries text hw),
      bind_of_ok (pageSettings_of_entries text hv)]
    simp only [hget]

theorem pages_of_entries {es : Value.Entries} (h : v.entries? = some es) : pages v = pagesFrom ∅ es := by
  unfold pages
  split
  · cases h
  · rw [h]

theorem pages_addsNull (h : AddsNull target key .pages v w) : pages w = pages v := by
  cases h with
  | here optional => cases optional
  | field hfield => cases hfield
  | item hitem => cases hitem
  | @page path ordered before after _ x y hv h =>
    rw [pages_of_entries (Value.entries?_of_opens hv), pages_of_entries (Value.entries?_mapping ..), pagesFrom_eq,
      pagesFrom_eq]
    simp only [List.mapM_append, List.mapM_cons, page_addsNull path h]

/-! ## The table of contents -/

/-- The entries below another one are read in the same way if entries of their depth are. -/
theorem tocChildren_addsNull {depth : Nat} {trail : List Nat}
    (ih : ∀ {trail : List Nat} {x y : Value}, AddsNull target key .tocEntry x y →
      tocNode depth trail y = tocNode depth trail x)
    (h : AddsNull target key .toc v w) (title : String) (finish : List NavNode → Except Error NavNode) :
    (tocChildren title w >>= fun below =>
      (below.zipIdx.mapM fun (child, i) => tocNode depth (trail ++ [i]) child) >>= finish) =
    tocChildren title v >>= fun below =>
      (below.zipIdx.mapM fun (child, i) => tocNode depth (trail ++ [i]) child) >>= finish := by
  obtain ⟨before, x, y, after, hv, hw, hentry⟩ := h.exists_item rfl
  have hbelow : tocChildren title v = .ok (before ++ x :: after) := by
    rw [tocChildren, hv]
  have hbelow' : tocChildren title w = .ok (before ++ y :: after) := by
    rw [tocChildren, hw]
  rw [bind_of_ok hbelow, bind_of_ok hbelow']
  simp only [List.zipIdx_append, List.zipIdx_cons, List.mapM_append, List.mapM_cons, ih hentry]

/-- The induction is on how deep entries may be nested. -/
theorem tocNode_addsNull {depth : Nat} {trail : List Nat} (h : AddsNull target key .tocEntry v w) :
    tocNode depth trail w = tocNode depth trail v := by
  induction depth generalizing trail v w with
  | zero => rfl
  | succ depth ih =>
    obtain ⟨es, es', name, hv, hw, hchanges⟩ := h.exists_changes rfl (by decide)
    have hlabels : Value.get es' "labels" = Value.get es "labels" := hchanges.get_eq rfl
    have hlink : Value.get es' "link" = Value.get es "link" := hchanges.get_eq rfl
    have hgiven : Value.get es' "title" = Value.get es "title" := hchanges.get_eq rfl
    have htitle : ∀ known, tocTitle trail es' known = tocTitle trail es known := fun known => by
      rw [tocTitle, tocTitle, hgiven]
    rw [tocNode, tocNode, hv, hw]
    obtain hsame | ⟨below, hfield, hadds⟩ := hchanges.get_cases "children"
    · simp only [hlabels, hlink, htitle, hsame]
    · obtain rfl := Option.some.inj hfield
      simp only [hlabels, hlink, htitle, tocChildren_addsNull ih hadds]

/-- What is read of a list of entries is read with more depth too, if what is read of each is. -/
theorem mapM_tocNode_mono {depth depth' : Nat}
    (ih : ∀ {trail : List Nat} {v : Value} {n : NavNode},
      tocNode depth trail v = .ok n → tocNode depth' trail v = .ok n)
    {items : List Value} {trail : List Nat} {nodes : List NavNode}
    (h : (items.zipIdx.mapM fun (child, i) => tocNode depth (trail ++ [i]) child) = .ok nodes) :
    (items.zipIdx.mapM fun (child, i) => tocNode depth' (trail ++ [i]) child) = .ok nodes :=
  mapM_eq_ok_imp (fun _ _ _ => ih) h

/-- More depth than is needed changes nothing. -/
theorem tocNode_mono {depth depth' : Nat} (hle : depth ≤ depth') {trail : List Nat} {n : NavNode}
    (h : tocNode depth trail v = .ok n) : tocNode depth' trail v = .ok n := by
  induction depth generalizing depth' trail v n with
  | zero => cases h
  | succ depth ih =>
    obtain ⟨depth', rfl⟩ : ∃ d, depth' = d + 1 := ⟨depth' - 1, by omega⟩
    rw [tocNode] at h ⊢
    cases hentries : v.entries? with
    | none =>
      rw [hentries] at h
      cases h
    | some entries =>
      rw [hentries] at h
      obtain ⟨known, hlabels, h⟩ := bind_eq_ok.1 h
      obtain ⟨title, htitle, h⟩ := bind_eq_ok.1 h
      obtain ⟨link, hlink, h⟩ := bind_eq_ok.1 h
      obtain ⟨below, hbelow, h⟩ := bind_eq_ok.1 h
      obtain ⟨children, hchildren, h⟩ := bind_eq_ok.1 h
      have hdeeper := mapM_tocNode_mono (ih (Nat.le_of_succ_le_succ hle)) hchildren
      dsimp only
      rw [bind_of_ok hlabels, bind_of_ok htitle, bind_of_ok hlink, bind_of_ok hbelow, bind_of_ok hdeeper]
      exact h

theorem toc_addsNull (h : AddsNull target key .toc v w) {nodes : List NavNode} (hread : toc v = .ok nodes) :
    toc w = .ok nodes := by
  obtain ⟨before, x, y, after, hv, hw, hentry⟩ := h.exists_item rfl
  have hsize : Value.sizeItems (before ++ x :: after) ≤ Value.sizeItems (before ++ y :: after) := by
    have := hentry.size_le
    simp only [Value.sizeItems_append, Value.sizeItems]
    omega
  -- The depth is the size of the items, and they have grown.
  rw [toc_of_items hv (by simp)] at hread
  rw [toc_of_items hw (by simp)]
  refine mapM_tocNode_mono (tocNode_mono hsize) ?_
  rw [← hread]
  simp only [List.zipIdx_append, List.zipIdx_cons, List.mapM_append, List.mapM_cons, tocNode_addsNull hentry]

/-! ## Sites -/

theorem defaults_of_entries {es : Value.Entries} (h : v.entries? = some es) : defaults v = .ok es := by
  rw [defaults, h]

theorem site_of_entries {es : Value.Entries} (h : v.entries? = some es) : site v = siteOfEntries es := by
  rw [site, h]

/-- What is read of the default settings that a null was added to. -/
theorem defaults_addsNull (h : AddsNull target key .defaults v w) : ∃ ds ds', defaults v = .ok ds ∧
    defaults w = .ok ds' ∧ (∀ name, Value.get ds' name = Value.get ds name) ∧
    outputDir ds' = match nullFault target key with
      | some e => .error e
      | none => outputDir ds := by
  obtain ⟨es, es', name, hv, hw, hchanges⟩ := h.exists_changes rfl (by decide)
  refine ⟨es, es', defaults_of_entries hv, defaults_of_entries hw, fun _ => hchanges.get_eq rfl, ?_⟩
  cases hchanges with
  | added htarget optional absent present others =>
    subst htarget
    by_cases hkey : key = "output_dir"
    · subst hkey
      rw [outputDir, present]
      rfl
    · have hfault : nullFault .defaults key = none := by
        unfold nullFault
        split <;> first | rfl | contradiction
      rw [hfault, outputDir, outputDir, others "output_dir" (Ne.symm hkey)]
  | below hfield => cases hfield

theorem siteOfEntries_of_parts {entries ds : Value.Entries} {s : Site} {languages : List String}
    (hdefaults : defaults (Value.get entries "defaults") = .ok ds) (htoc : toc (Value.get entries "toc") = .ok s.toc)
    (hmasthead : masthead (Value.get entries "masthead") = .ok s.masthead)
    (hlanguage : textOr ds "language" Language.standard = .ok s.language)
    (hpages : pages (Value.get entries "pages") = .ok s.pages) (hout : outputDir ds = .ok s.outputDir)
    (hname : textOr ds "site_name" Site.stockName = .ok s.siteName)
    (hlanguages : names (Value.get ds "languages") = .ok languages)
    (heq : s.languages = orStock languages Language.stockOrder) : siteOfEntries entries = .ok s := by
  rw [siteOfEntries, bind_of_ok hdefaults, bind_of_ok htoc, bind_of_ok hmasthead, bind_of_ok hlanguage,
    bind_of_ok hpages, bind_of_ok hout, bind_of_ok hname, bind_of_ok hlanguages, ← heq]
  rfl

variable {s : Site}

theorem site_addsNull_of_none (hadds : AddsNull target key .document v w) (hkey : nullFault target key = none)
    (h : site v = .ok s) : site w = .ok s := by
  obtain ⟨es, es', name, hv, hw, hchanges⟩ := hadds.exists_changes rfl (by decide)
  rw [site_of_entries hv] at h
  obtain ⟨ds, hdefaults, htoc, hmasthead, hlanguage, hpages, hout, hname, languages, hlanguages, heq⟩ :=
    siteOfEntries_eq_ok h
  obtain ⟨ds', hdefaults', hget, hout'⟩ : ∃ ds', defaults (Value.get es' "defaults") = .ok ds' ∧
      (∀ name, Value.get ds' name = Value.get ds name) ∧ outputDir ds' = outputDir ds := by
    obtain hsame | ⟨below, hfield, hbelow⟩ := hchanges.get_cases "defaults"
    · exact ⟨ds, hsame ▸ hdefaults, fun _ => rfl, rfl⟩
    · obtain rfl := Option.some.inj hfield
      obtain ⟨found, ds', hfound, hdefaults', hget, hout'⟩ := defaults_addsNull hbelow
      obtain rfl := Except.ok.inj (hfound.symm.trans hdefaults)
      rw [hkey] at hout'
      exact ⟨ds', hdefaults', hget, hout'⟩
  have htoc' : toc (Value.get es' "toc") = .ok s.toc := by
    obtain hsame | ⟨below, hfield, hbelow⟩ := hchanges.get_cases "toc"
    · rw [hsame, htoc]
    · obtain rfl := Option.some.inj hfield
      exact toc_addsNull hbelow htoc
  have hmasthead' : masthead (Value.get es' "masthead") = masthead (Value.get es "masthead") :=
    hchanges.read_eq rfl fun hbelow => masthead_addsNull hbelow hkey
  have hpages' : pages (Value.get es' "pages") = pages (Value.get es "pages") := hchanges.read_eq rfl pages_addsNull
  rw [site_of_entries hw]
  exact siteOfEntries_of_parts hdefaults' htoc' (hmasthead'.trans hmasthead)
    ((textOr_of_get (hget "language") _).trans hlanguage) (hpages'.trans hpages) (hout'.trans hout)
    ((textOr_of_get (hget "site_name") _).trans hname) (hget "languages" ▸ hlanguages) heq

/-- The settings that are read before the masthead are as they were. -/
theorem site_addsNull_size (hadds : AddsNull .logo key .document v w) (hkey : key = "width" ∨ key = "height")
    (h : site v = .ok s) : site w = .error (.config .logoSize) := by
  obtain ⟨es, es', name, hv, hw, hchanges⟩ := hadds.exists_changes rfl (by decide)
  rw [site_of_entries hv] at h
  obtain ⟨ds, hdefaults, htoc, hmasthead, -⟩ := siteOfEntries_eq_ok h
  have hother : ∀ other, other ≠ name → Value.get es' other = Value.get es other := fun _ => hchanges.get_eq_of_ne
  obtain ⟨⟨⟩, -⟩ | ⟨hfield, before, after, -, hbelow⟩ := hchanges
  obtain ⟨-, rfl, rfl⟩ | ⟨⟨⟩, -⟩ := Block.eq_of_logo_mem hfield hbelow.target_mem
  rw [← hother "defaults" (by decide)] at hdefaults
  rw [← hother "toc" (by decide)] at htoc
  rw [Value.get, before] at hmasthead
  rw [site_of_entries hw, siteOfEntries, bind_of_ok hdefaults, bind_of_ok htoc, Value.get, after]
  exact bind_of_error (masthead_addsNull_size hbelow hkey hmasthead)

/-- The settings that are read before the output directory are as they were, or read in the same way. -/
theorem site_addsNull_outputDir (hadds : AddsNull .defaults "output_dir" .document v w) (h : site v = .ok s) :
    site w = .error (.outputDirectory "NoneType") := by
  obtain ⟨es, es', name, hv, hw, hchanges⟩ := hadds.exists_changes rfl (by decide)
  rw [site_of_entries hv] at h
  obtain ⟨ds, hdefaults, htoc, hmasthead, hlanguage, hpages, -⟩ := siteOfEntries_eq_ok h
  have hother : ∀ other, other ≠ name → Value.get es' other = Value.get es other := fun _ => hchanges.get_eq_of_ne
  obtain ⟨⟨⟩, -⟩ | ⟨hfield, before, after, -, hbelow⟩ := hchanges
  obtain ⟨-, rfl, rfl⟩ := Block.eq_of_defaults_mem hfield hbelow.target_mem
  rw [Value.get, before] at hdefaults
  obtain ⟨found, ds', hfound, hdefaults', hget, hout⟩ := defaults_addsNull hbelow
  obtain rfl := Except.ok.inj (hfound.symm.trans hdefaults)
  have hgiven : defaults (Value.get es' "defaults") = .ok ds' := by
    rw [Value.get, after]
    exact hdefaults'
  rw [← hother "toc" (by decide)] at htoc
  rw [← hother "masthead" (by decide)] at hmasthead
  rw [← hother "pages" (by decide)] at hpages
  rw [← textOr_of_get (hget "language")] at hlanguage
  rw [site_of_entries hw, siteOfEntries, bind_of_ok hgiven, bind_of_ok htoc, bind_of_ok hmasthead,
    bind_of_ok hlanguage, bind_of_ok hpages]
  exact bind_of_error hout

/-- **A null under a key that was absent counts as absent**, whichever mapping of an accepted document it is added to,
but for three keys: for the sizes of the logo it is no number, and for the output directory it is no path. -/
theorem site_addsNull (hadds : AddsNull target key .document v w) (h : site v = .ok s) :
    site w = match nullFault target key with
      | some e => .error e
      | none => .ok s := by
  cases hfault : nullFault target key with
  | none => exact site_addsNull_of_none hadds hfault h
  | some e =>
    obtain ⟨rfl, hkey, rfl⟩ | ⟨rfl, rfl, rfl⟩ := nullFault_eq_some hfault
    · exact site_addsNull_size hadds hkey h
    · exact site_addsNull_outputDir hadds h

/-- A document with these settings of the logo and these default settings. -/
def documentGiving (logo defaults : Value.Entries) : Value :=
  documentWith [(.text "masthead", .map [(.text "logo", .map logo)]), (.text "defaults", .map defaults)]

/-- The link of the logo may be nothing. -/
theorem site_addsNull_link : ∃ s, site (documentGiving [] []) = .ok s ∧
    site (documentGiving [(.text "link", .null)] []) = .ok s := by
  have hlogo : AddsNull .logo "link" .logo (.map []) (.map [(.text "link", .null)]) :=
    @AddsNull.here .logo "link" false [] [] (.map []) (by decide) (.plain rfl) rfl
  have hmasthead : AddsNull .logo "link" .masthead (.map [(.text "logo", .map [])])
      (.map [(.text "logo", .map [(.text "link", .null)])]) :=
    @AddsNull.field .logo "link" .masthead .logo "logo" false [] [] _ _ _ rfl (.plain rfl) rfl hlogo
  have hdocument : AddsNull .logo "link" .document (documentGiving [] []) (documentGiving [(.text "link", .null)] []) :=
    @AddsNull.field .logo "link" .document .masthead "masthead" false [_] _ _ _ _ rfl (.plain rfl) rfl hmasthead
  exact ⟨_, rfl, site_addsNull hdocument rfl⟩

/-- The width of the logo and the output directory may be absent, but not nothing. -/
theorem site_addsNull_width : (∃ s, site (documentGiving [] []) = .ok s) ∧
    site (documentGiving [(.text "width", .null)] []) = .error (.config .logoSize) ∧
    site (documentGiving [] [(.text "output_dir", .null)]) = .error (.outputDirectory "NoneType") :=
  ⟨⟨_, rfl⟩, rfl, rfl⟩

end Config

end GuideSite
