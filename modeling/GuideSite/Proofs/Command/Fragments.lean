import GuideSite.Command.Run
import GuideSite.Proofs.Config.Naming
import GuideSite.Proofs.Config.WellFormed
import GuideSite.Proofs.Masthead.Revealing
import GuideSite.Proofs.Page.Building
import GuideSite.Proofs.Page.Highlighting

/-!
# Pages and the fragments of commands

A page is built around a masthead and a navigation, and there is a command for each of the two. They are built in two
ways: the page hands on the flags that were read from its settings, and the command reads them anew from their names,
where blank names are lost. No masthead of a loaded site mentions a blank name, so both give the same text.

* `agreesOn_ofNames`: the flags of a page, read from their names.
* `emits_nav`, `emits_masthead`: what the commands give.
* `render_eq`: the parts of a page.
* `renderPage_eq_fragments`: a page and the commands.
-/

namespace GuideSite

open NameSet (AgreesOn)

/-! ## Flags by their names -/

namespace SectionFlags

/-- Flags without blanks around them are read from their names, in any order, but for a blank one. -/
theorem agreesOn_ofNames {flags : SectionFlags} (hplain : ∀ name ∈ flags, Text.strip name = name)
    {given : List String} (hgiven : given.Perm flags.toList) {names : List String} (hnames : "" ∉ names) :
    AgreesOn names flags (ofNames given) := by
  intro name hname
  have hne : name ≠ "" := fun heq => hnames (heq ▸ hname)
  rw [mem_ofNames, and_iff_right hne]
  constructor
  · intro hmem
    exact ⟨name, hgiven.mem_iff.2 hmem, hplain name hmem⟩
  · rintro ⟨raw, hraw, rfl⟩
    have hmem : raw ∈ flags := hgiven.mem_iff.1 hraw
    rw [hplain raw hmem]
    exact hmem

end SectionFlags

/-- No masthead that is well-formed mentions a blank name. -/
theorem Masthead.IsWellFormed.not_mem_mentioned {m : Masthead} (h : m.IsWellFormed) : "" ∉ m.mentioned := by
  have hempty : ¬Text.IsTrimmed "" := fun htrimmed => htrimmed.ne_empty rfl
  have hentries {es : List MastheadEntry} (hes : ∀ e ∈ es, e.IsWellFormed) :
      "" ∉ es.flatMap MastheadEntry.mentioned := by
    intro hmem
    obtain ⟨e, he, hmem⟩ := List.mem_flatMap.1 hmem
    rcases List.mem_append.1 hmem with hmem | hmem
    · exact hempty ((hes e he).selectedBy "" hmem)
    · exact hempty ((hes e he).excludedBy "" hmem)
  simp only [mentioned, mentionedOnEveryPage, List.mem_append, not_or]
  exact ⟨⟨fun hmem => hempty (h.barFlags.2 "" hmem), hentries h.primary, hentries h.quicknav⟩, hentries h.secondary⟩

namespace Command

/-! ## What commands give -/

/-- The command, given where to put its result, has some effect for a site: once the site is loaded, and when it loads
the site from a configuration. -/
def Does (site : Site) (command : Option Path → Command)
    (effect : World → FileTree → Option Path → FileTree × Except Error Report) : Prop :=
  ∀ (w : World) (t : FileTree) (output : Option Path), perform w t site (command output) = effect w t output ∧
    ∀ config, Config.siteAt t w.cwd config = .ok site → run w t ⟨config, command output⟩ = effect w t output

/-- The command gives a text: it prints it, or it writes it to its output file. -/
def Gives (site : Site) (command : Option Path → Command) (html : String) : Prop :=
  Does site command fun w t output => emit w t html output

/-- The command ends with an error and leaves all files alone. -/
def Fails (site : Site) (command : Option Path → Command) (e : Error) : Prop :=
  Does site command fun _ t _ => (t, .error e)

variable {site : Site}

/-- A command that does not check links acts on the site that it loads. -/
theorem does_of_perform {command : Option Path → Command}
    {effect : World → FileTree → Option Path → FileTree × Except Error Report}
    (hasks : ∀ output, (command output).asksTwice = false)
    (h : ∀ w t output, perform w t site (command output) = effect w t output) : Does site command effect := by
  intro w t output
  refine ⟨h w t output, fun config hload => ?_⟩
  rw [run, hasks output, if_neg Bool.false_ne_true, hload]
  exact h w t output

/-- The command for the navigation gives it. -/
theorem gives_nav (site : Site) (toRoot : String) {language : String}
    (hlanguage : languageOf site (some language) = language) :
    Gives site (.nav toRoot (some language)) (navText site toRoot language) := by
  have hasks : ∀ output, asksTwice (.nav toRoot (some language) output) = false := fun output => rfl
  apply does_of_perform hasks
  intro w t output
  dsimp only [perform]
  rw [hlanguage]

/-- The command for the masthead gives that of any flags that the masthead does not tell apart from its own, if the
sizes of the logo can be shown. -/
theorem gives_masthead (hshown : site.masthead.checkShown = .ok ()) {flags : SectionFlags} {names : List String}
    (hsame : AgreesOn site.masthead.mentioned flags (SectionFlags.ofNames names)) (toRoot : String) {language : String}
    (hlanguage : languageOf site (some language) = language) :
    Gives site (.masthead toRoot names (some language))
      (site.masthead.render site.languages .standard toRoot flags language) := by
  obtain ⟨hpages, hsecondary⟩ := NameSet.agreesOn_append.1 hsame
  have hasks : ∀ output, asksTwice (.masthead toRoot names (some language) output) = false := fun output => rfl
  apply does_of_perform hasks
  intro w t output
  dsimp only [perform]
  rw [hshown, hlanguage]
  dsimp only [mastheadText]
  rw [Masthead.render_eq_of_agreesOn hpages fun _ => hsecondary]

/-- Without the sizes of the logo there is no masthead. -/
theorem fails_masthead {e : Error} (hshown : site.masthead.checkShown = .error e) (toRoot : String)
    (names : List String) (language : Option String) : Fails site (.masthead toRoot names language) e := by
  have hasks : ∀ output, asksTwice (.masthead toRoot names language output) = false := fun output => rfl
  apply does_of_perform hasks
  intro w t output
  dsimp only [perform]
  rw [hshown]

/-- The language of a page is also that of the commands that are asked for it. -/
theorem languageOf_languageIn (site : Site) (page : Page) :
    languageOf site (some (page.languageIn site)) = page.languageIn site := by
  unfold languageOf Page.languageIn
  split <;> grind

/-! ## Line ends -/

/-- A markup ends with the last character of its last token. -/
theorem getLast?_render {f : Markup.Fragment} {token : Markup.Token} {c : Char} (hlast : f.getLast? = some token)
    (htoken : token.chars.getLast? = some c) : (Markup.render f).toList.getLast? = some c := by
  obtain ⟨before, rfl⟩ := List.getLast?_eq_some_iff.1 hlast
  rw [Markup.render, String.toList_ofList, Markup.chars_append, List.getLast?_append]
  simp [Markup.chars, htoken]

/-- A masthead ends with a line end, so it is printed as it is. -/
theorem endedLine_masthead (m : Masthead) (order : List String) (calls : Script.SearchCalls) (toRoot : String)
    (flags : SectionFlags) (language : String) :
    endedLine (m.render order calls toRoot flags language) = m.render order calls toRoot flags language := by
  have hlast : (m.fragment order calls toRoot flags language).getLast? = some (Markup.newline 0) := by
    rw [Masthead.fragment, Masthead.markup]
    split <;> simp [Masthead.secondaryMarkup, List.getLast?_cons]
  exact if_pos (getLast?_render hlast rfl)

/-- A navigation ends with its script, so a line end is printed after it. -/
theorem endedLine_nav (calls : Script.NavCalls) (order : List String) (nodes : List NavNode)
    (toRoot language : String) : endedLine (Nav.render calls order nodes toRoot language) =
      Nav.render calls order nodes toRoot language ++ "\n" := by
  have hlast : (Nav.fragment calls order nodes toRoot language).getLast? = some (.closing "script") := by
    rw [Nav.fragment, Nav.markup, Nav.scriptMarkup]
    simp [Markup.element, List.getLast?_cons]
  have hchar : (Nav.render calls order nodes toRoot language).toList.getLast? = some '>' := getLast?_render hlast rfl
  rw [endedLine, hchar]
  exact if_neg (by decide)

end Command

namespace PageBuilder

open Command (Gives Fails)

/-- What the shell of a page says about it. -/
def shellOf (site : Site) (page : Page) : Page.Shell :=
  ⟨page.title, site.siteName, Path.toRoot page.path, page.languageIn site⟩

theorem ofSite_masthead (site : Site) : (ofSite site).masthead = site.masthead := rfl

/-- A page is its shell around its masthead and its navigation. -/
theorem render_eq (site : Site) (page : Page) :
    let shell := shellOf site page
    (ofSite site).render site page =
      Markup.render (Page.headMarkup shell) ++
        site.masthead.render site.languages .standard shell.toRoot page.flags shell.language ++
        Markup.render Page.middleMarkup ++ Command.navText site shell.toRoot shell.language ++
        Markup.render (Page.tailMarkup shell) := by
  dsimp only [render, fragment, ofSite, shellOf, Masthead.render, Command.navText, Nav.render, Page.markup]
  simp only [Markup.render_append]

/-- A page that is found is rendered just if the sizes of the logo can be shown. -/
theorem renderPage_of_page {b : PageBuilder} {site : Site} {path : String} {page : Page}
    (hfound : site.page path = .ok page) :
    b.renderPage site path = b.masthead.checkShown.map fun _ => b.render site page := by
  rw [renderPage, hfound]
  cases b.masthead.checkShown <;> rfl

/-- The masthead of a loaded site does not tell the flags of a page from those that are read from their names. -/
theorem agreesOn_of_site {doc : Value} {site : Site} (hsite : Config.site doc = .ok site) {page : Page}
    (hpage : page ∈ site.pages.values) {names : List String} (hnames : names.Perm page.flags.toList) :
    AgreesOn site.masthead.mentioned page.flags (SectionFlags.ofNames names) := by
  obtain ⟨entries, -, entry, -, hread⟩ := Config.exists_entry_of_page hsite hpage
  -- A blank flag of the page is lost when the names are read, but the masthead has no blank name to find it by.
  refine SectionFlags.agreesOn_ofNames (fun name hname => ?_) hnames
    (Config.masthead_isWellFormed (Config.masthead_of_site hsite)).not_mem_mentioned
  exact ((Config.mem_flags (Config.flags_of_page hread) name).1 hname).strip_eq

/-- **A page is made of what the commands give.** The commands for the navigation and the masthead are asked for the
steps from the page to the root, for its language, and for its flags by their names, in any order. The page has what
they give, and around it only what its title, the name of the site, the steps and the language say. Where a size of the
logo cannot be shown there is neither a page nor a masthead, and both end with the same error. -/
theorem renderPage_eq_fragments {doc : Value} {site : Site} (hsite : Config.site doc = .ok site) {page : Page}
    (hpage : page ∈ site.pages.values) :
    let shell := shellOf site page
    ∃ navigation, Gives site (.nav shell.toRoot (some shell.language)) navigation ∧
      Command.endedLine navigation = navigation ++ "\n" ∧
      (site.masthead.checkShown = .ok () → ∃ masthead,
        (∀ names : List String, names.Perm page.flags.toList →
          Gives site (.masthead shell.toRoot names (some shell.language)) masthead) ∧
        Command.endedLine masthead = masthead ∧
        (ofSite site).renderPage site page.path =
          .ok (Markup.render (Page.headMarkup shell) ++ masthead ++ Markup.render Page.middleMarkup ++ navigation ++
            Markup.render (Page.tailMarkup shell))) ∧
      ∀ e, site.masthead.checkShown = .error e →
        (ofSite site).renderPage site page.path = .error e ∧
          ∀ names, Fails site (.masthead shell.toRoot names (some shell.language)) e := by
  dsimp only
  have hlanguage : Command.languageOf site (some (shellOf site page).language) = (shellOf site page).language :=
    Command.languageOf_languageIn site page
  have hfound : site.page page.path = .ok page := Site.page_of_mem_values (Config.keepsPaths_of_site hsite) hpage
  refine ⟨_, Command.gives_nav site _ hlanguage, Command.endedLine_nav _ _ _ _ _, fun hshown => ?_,
    fun e hshown => ⟨?_, fun names => Command.fails_masthead hshown _ names _⟩⟩
  · refine ⟨_, fun names hnames => Command.gives_masthead hshown (agreesOn_of_site hsite hpage hnames) _ hlanguage,
      Command.endedLine_masthead _ _ _ _ _ _, ?_⟩
    rw [renderPage_of_page hfound, ofSite_masthead, hshown, ← render_eq]
    rfl
  · rw [renderPage_of_page hfound, ofSite_masthead, hshown]
    rfl

/-- A page with nested flags, one of which is blank; they are named in another order. -/
theorem renderPage_eq_fragments_nested : ∃ site page navigation masthead,
    Config.site (documentWithFlags (.text "guide") (.map [(.text " ", .bool true),
      (.text "guide", .map [(.text "enabled", .bool true), (.text " x", .bool true)])])) = .ok site ∧
    page ∈ site.pages.values ∧ page.flags.toList = ["", "guide", "guide.x"] ∧
    Gives site (.nav "../" (some "en")) navigation ∧
    Gives site (.masthead "../" ["guide.x", "", "guide"] (some "en")) masthead ∧
    (ofSite site).renderPage site "guide/index.html" =
      .ok (Markup.render (Page.headMarkup ⟨"Guide", "Mindroid Developers", "../", "en"⟩) ++ masthead ++
        Markup.render Page.middleMarkup ++ navigation ++
        Markup.render (Page.tailMarkup ⟨"Guide", "Mindroid Developers", "../", "en"⟩)) := by
  obtain ⟨site, page, hsite, hpages, hpath, hflags, hshell, hshown⟩ : ∃ site page,
      Config.site (documentWithFlags (.text "guide") (.map [(.text " ", .bool true),
        (.text "guide", .map [(.text "enabled", .bool true), (.text " x", .bool true)])])) = .ok site ∧
      site.pages.values = [page] ∧ page.path = "guide/index.html" ∧ page.flags.toList = ["", "guide", "guide.x"] ∧
      shellOf site page = ⟨"Guide", "Mindroid Developers", "../", "en"⟩ ∧ site.masthead.checkShown = .ok () :=
    ⟨_, _, rfl, rfl, rfl, rfl, rfl, by decide +kernel⟩
  have hpage : page ∈ site.pages.values := by
    rw [hpages]
    exact List.mem_cons_self
  obtain ⟨navigation, hnav, -, hmasthead, -⟩ := renderPage_eq_fragments hsite hpage
  obtain ⟨masthead, hgives, -, hrender⟩ := hmasthead hshown
  rw [hshell] at hnav hgives hrender
  rw [hpath] at hrender
  refine ⟨site, page, navigation, masthead, hsite, hpage, hflags, hnav, hgives _ ?_, hrender⟩
  rw [hflags]
  decide

/-- A page of a site that is loaded cannot be rendered, if its masthead has a logo with a width of too many digits. -/
theorem renderPage_eq_fragments_wide : ∃ site page,
    Config.site (Config.documentOf ["x.html"] wideLogo) = .ok site ∧ page ∈ site.pages.values ∧
      ∀ html, (ofSite site).renderPage site page.path ≠ .ok html := by
  obtain ⟨site, page, hsite, hpages, hfound, hwidth⟩ : ∃ site page,
      Config.site (Config.documentOf ["x.html"] wideLogo) = .ok site ∧ site.pages.values = [page] ∧
        site.page page.path = .ok page ∧
          (ofSite site).masthead.logo.width = Nat.pow 10 Text.maxDigits := ⟨_, _, rfl, rfl, rfl, rfl⟩
  have hnone : Text.ofInt? (Nat.pow 10 Text.maxDigits) = none := by decide +kernel
  refine ⟨site, page, hsite, by rw [hpages]; exact List.mem_cons_self, fun html h => ?_⟩
  rw [renderPage_of_page hfound, Masthead.checkShown, hwidth, hnone, if_neg (by simp)] at h
  cases h

end PageBuilder

end GuideSite
