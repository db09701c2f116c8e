import GuideSite.Proofs.Page.Frame

/-!
# Building in parts

Pages with files of their own can be built in any order, in parts, and again: if all of them can be built at once, then
every part can, and once every page was built the tree is the one that the build of all pages leaves.

The tree of the build of all pages is the goal. To write a page changes the tree only where it then agrees with the
goal, and it does agree all the way up from the file of the page; both carry over to a run, and a tree on its way to the
goal has nothing in the way of a page.

* `approaches_write`: what one page does for the goal.
* `Goal.isFree`: nothing is in the way of a page.
* `writePages_approaches`, `runs_approaches`: what a list of pages and a list of requests do.
* `runs_eq`: builds in parts.
-/

namespace GuideSite

/-! ## On the way to a tree -/

namespace FileTree

variable {goal t t' t'' : FileTree}

/-- Where the second tree differs from the first, it agrees with the goal. -/
def Approaches (goal t t' : FileTree) : Prop :=
  ∀ place, t'.find? place = t.find? place ∨ t'.find? place = goal.find? place

theorem Approaches.refl (goal t : FileTree) : Approaches goal t t := fun _ => .inl rfl

theorem Approaches.trans (h : Approaches goal t t') (h' : Approaches goal t' t'') : Approaches goal t t'' := by
  intro place
  obtain hsame | hgoal := h' place
  · rw [hsame]
    exact h place
  · exact .inr hgoal

/-- What agrees with the goal goes on to agree. -/
theorem Approaches.keeps {place : Location} (h : Approaches goal t t') (hplace : t.find? place = goal.find? place) :
    t'.find? place = goal.find? place := by
  obtain hsame | hgoal := h place
  · rw [hsame, hplace]
  · exact hgoal

end FileTree

namespace PageBuilder

open FileTree

variable {b : PageBuilder} {site : Site} {cwd : Location} {out : Path} {t t' u u' full : FileTree}

/-! ## One page -/

/-- To write a page changes nothing but what then agrees with the goal, and it agrees from the file upwards. -/
theorem approaches_write {goal : FileTree} {page : Page} (hdown : ".." ∉ (page.target out).names)
    (hgoal : goal.find? ((page.target out).place cwd) = some (.file (b.render site page)))
    (h : u.writeWithDirectories cwd (page.target out) (b.render site page) = (u', none)) :
    Approaches goal u u' ∧ ∀ place, place <:+ (page.target out).place cwd → u'.find? place = goal.find? place := by
  have hfind := find?_written hdown h
  have hagrees : ∀ place, place <:+ (page.target out).place cwd → u'.find? place = goal.find? place := by
    intro place hsuffix
    rw [hfind]
    by_cases hplace : place = (page.target out).place cwd
    · rw [if_pos hplace, hplace, hgoal]
    · rw [if_neg hplace, if_pos hsuffix, find?_of_suffix (Option.isSome_of_eq_some hgoal) hsuffix hplace]
  refine ⟨fun place => ?_, hagrees⟩
  by_cases hsuffix : place <:+ (page.target out).place cwd
  · exact .inr (hagrees place hsuffix)
  · have hplace : place ≠ (page.target out).place cwd := by
      rintro rfl
      exact hsuffix List.suffix_rfl
    left
    rw [hfind, if_neg hplace, if_neg hsuffix]

/-! ## All pages -/

/-- The tree that a build of all pages leaves, with what it says of the tree before and of the pages. -/
structure Goal (b : PageBuilder) (site : Site) (cwd : Location) (out : Path) (t full : FileTree) : Prop where
  plain : ∀ page ∈ site.pages.values, (page.target out).IsPlain
  fits : ∀ page ∈ site.pages.values, (page.target out).Fits ∧ (page.target out).names ≠ []
  rooted : ∀ page ∈ site.pages.values, t.Rooted ((page.target out).start cwd)
  /-- Every page has its file. -/
  file : ∀ page ∈ site.pages.values, full.find? ((page.target out).place cwd) = some (.file (b.render site page))
  changes : Changes b site cwd out site.pages.values t full

namespace Goal

variable (goal : Goal b site cwd out t full)

include goal

theorem above_file {page : Page} (hpage : page ∈ site.pages.values) {place : Location}
    (hsuffix : place <:+ ((page.target out).place cwd).tail) : full.find? place = some .directory :=
  find?_of_suffix_directory (find?_tail (Option.isSome_of_eq_some (goal.file page hpage))) hsuffix

/-- On the way to the goal the files of the pages start at a directory, or where one can be made. -/
theorem rooted_of_approaches (hu : Approaches full t u) {page : Page} (hpage : page ∈ site.pages.values) :
    u.Rooted ((page.target out).start cwd) := by
  have hnames := (goal.fits page hpage).2
  have hstart : (page.target out).start cwd <:+ ((page.target out).place cwd).tail := by
    rw [← Path.place_parent hnames]
    exact suffix_place_start cwd (page.target out).parent
  obtain hsame | hfull := hu ((page.target out).start cwd)
  · obtain hdirectory | ⟨hnone, htail⟩ := goal.rooted page hpage
    · exact .inl (hsame.trans hdirectory)
    · right
      refine ⟨hsame.trans hnone, ?_⟩
      obtain hsame' | hfull' := hu ((page.target out).start cwd).tail
      · rw [hsame', htail]
      · rw [hfull', goal.above_file hpage ((List.tail_suffix _).trans hstart)]
  · exact .inl (hfull.trans (goal.above_file hpage hstart))

/-- On the way to the goal nothing is in the way of a page: what was would be in the way of its file in the goal. -/
theorem isFree (hu : Approaches full t u) {page : Page} (hpage : page ∈ site.pages.values) :
    u.IsFree cwd (page.target out) := by
  have hfile := goal.file page hpage
  refine ⟨(goal.fits page hpage).1, ?_, ?_⟩
  · intro hdirectory
    have hfull : full.find? ((page.target out).place cwd) = some .directory := by
      obtain hsame | hfull := hu ((page.target out).place cwd)
      · have hchange := goal.changes ((page.target out).place cwd)
        rw [← hsame, hdirectory] at hchange
        exact hchange.directory
      · rw [← hfull, hdirectory]
    rw [hfile] at hfull
    cases hfull
  · intro outer hsuffix content hcontent
    have habove := goal.above_file hpage hsuffix
    obtain hsame | hfull := hu outer
    · have hchange := goal.changes outer
      rw [← hsame, hcontent, habove] at hchange
      cases hchange
    · rw [hfull, habove] at hcontent
      cases hcontent

/-- Pages can be written in any order, and on the way to the goal they lead on to it. The induction is on the pages: the
first one leaves a tree on the way to the goal, in which the others are written. -/
theorem writePages_approaches {pages : List Page} (hpages : ∀ page ∈ pages, page ∈ site.pages.values)
    (hu : Approaches full t u) :
    ∃ u', b.writePages site cwd out u pages = (u', .ok (pages.map (Page.target out))) ∧ Approaches full u u' ∧
      ∀ page ∈ pages, ∀ place, place <:+ (page.target out).place cwd → u'.find? place = full.find? place := by
  induction pages generalizing u with
  | nil => exact ⟨u, rfl, .refl full u, nofun⟩
  | cons page pages ih =>
    obtain ⟨hpage, hrest⟩ := List.forall_mem_cons.1 hpages
    have hplain := goal.plain page hpage
    have hrooted := goal.rooted_of_approaches hu hpage
    obtain ⟨u₁, hwrite⟩ : ∃ u₁, u.writeWithDirectories cwd (page.target out) (b.render site page) = (u₁, none) :=
      ⟨_, Prod.ext rfl
        (writeWithDirectories_of_rooted hplain hrooted (goal.fits page hpage).2 (goal.isFree hu hpage))⟩
    obtain ⟨hfirst, hagrees⟩ := approaches_write hplain.down (goal.file page hpage) hwrite
    obtain ⟨u', hwritten, happroaches, hall⟩ := ih hrest (hu.trans hfirst)
    refine ⟨u', ?_, hfirst.trans happroaches, List.forall_mem_cons.2 ⟨?_, hall⟩⟩
    · rw [writePages_cons hwrite, hwritten]
      rfl
    · intro place hsuffix
      exact happroaches.keeps (hagrees place hsuffix)

/-- Once the files of all pages agree with the goal, the tree does. -/
theorem find?_eq (hu : Approaches full t u)
    (hall : ∀ page ∈ site.pages.values, ∀ place, place <:+ (page.target out).place cwd →
      u.find? place = full.find? place) (place : Location) : u.find? place = full.find? place := by
  have hchange := goal.changes place
  generalize hbefore : t.find? place = before, hafter : full.find? place = after at hchange
  rw [← hafter]
  cases hchange with
  | same =>
    obtain hsame | hfull := hu place
    · rw [hsame, hbefore, hafter]
    · exact hfull
  | written _ page hmem hplace =>
    exact hall page hmem place (hplace ▸ List.suffix_rfl)
  | made page hmem habove =>
    exact hall page hmem place (habove.trans (suffix_place_parent cwd (page.target out)))

end Goal

/-! ## The build of all pages -/

section Full

variable {pages : List Page} {written : List Path}

/-- What pages that were written say of their paths, and of the tree before. -/
theorem rooted_of_writePages (hbelow : AreBelow out pages)
    (h : b.writePages site cwd out t pages = (t', .ok written)) :
    ∀ page ∈ pages, (page.target out).IsPlain ∧ (page.target out).Fits ∧ (page.target out).names ≠ [] ∧
      t.Rooted (out.start cwd) := by
  induction pages generalizing t written with
  | nil => exact nofun
  | cons page pages ih =>
    obtain ⟨⟨hdown, hanchor⟩, hpages⟩ := List.forall_mem_cons.1 hbelow
    obtain ⟨t₁, rest, hwrite, hwritten, -⟩ := writePages_cons_eq_ok h
    obtain ⟨t₂, -, htext⟩ := writeWithDirectories_eq hwrite
    obtain ⟨hplain, hfits⟩ := fits_of_writeText hdown htext
    obtain ⟨hrooted, hnames⟩ := rooted_of_writeWithDirectories hdown hwrite
    rw [Path.start_eq hanchor] at hrooted
    refine List.forall_mem_cons.2 ⟨⟨hplain, hfits, hnames, hrooted⟩, fun other hother => ?_⟩
    obtain ⟨hplain, hfits, hnames, -⟩ := ih hpages hwritten other hother
    exact ⟨hplain, hfits, hnames, hrooted⟩

/-- A build of all pages, each with a file of its own, leaves a goal. -/
theorem goal_of_writePages (hbelow : AreBelow out site.pages.values)
    (hdistinct : (site.pages.values.map (Page.target out)).Nodup)
    (h : b.writePages site cwd out t site.pages.values = (full, .ok written)) : Goal b site cwd out t full := by
  have hwritten := rooted_of_writePages hbelow h
  have hchanges := @changes_writePages b site cwd out t _ hbelow
  rw [h] at hchanges
  refine ⟨fun page hmem => (hwritten page hmem).1, fun page hmem => ?_, fun page hmem => ?_, fun page hmem => ?_,
    hchanges⟩
  · obtain ⟨-, hfits, hnames, -⟩ := hwritten page hmem
    exact ⟨hfits, hnames⟩
  · rw [Path.start_eq (hbelow page hmem).2]
    exact (hwritten page hmem).2.2.2
  · obtain ⟨before, after, hpages⟩ := List.append_of_mem hmem
    rw [hpages] at hbelow h hdistinct
    refine find?_writePages hbelow h fun later hlater heq => ?_
    rw [List.map_append, List.map_cons, List.nodup_append, List.nodup_cons] at hdistinct
    exact hdistinct.2.1.1 (heq ▸ List.mem_map_of_mem hlater)

end Full

/-! ## Requests -/

/-- The tree after builds were requested one after the other, with what each of them gave. -/
def runs (b : PageBuilder) (site : Site) (cwd : Location) (dir : Option Path) (t : FileTree) :
    (requests : List (Option (List String))) → FileTree × List (Except Error (List Path))
  | [] => (t, [])
  | request :: requests =>
    let (t', result) := b.run site cwd t dir request
    let (t'', results) := runs b site cwd dir t' requests
    (t'', result :: results)

section Requests

variable {dir : Option Path}

/-- The paths that a request for names of pages is to write. -/
def targets (site : Site) (out : Path) (request : Option (List String)) : List Path :=
  (requested site request).map fun name => out / .parse name

/-- A build of a part leads on to the goal, and its pages agree with it. -/
theorem run_approaches (hkeeps : Config.KeepsPaths site.pages)
    (hshown : site.pages.values ≠ [] → b.masthead.checkShown = .ok ())
    (goal : Goal b site cwd (dir.getD site.outputDir) t full) {request : Option (List String)}
    (hconfigured : ∀ name ∈ requested site request, name ∈ site.pages.keys) (hu : Approaches full t u) :
    ∃ u', b.run site cwd u dir request = (u', .ok (targets site (dir.getD site.outputDir) request)) ∧
      Approaches full u u' ∧
      ∀ name ∈ requested site request, ∀ place, place <:+ (dir.getD site.outputDir / .parse name).place cwd →
        u'.find? place = full.find? place := by
  obtain ⟨pages, hselected, hpaths⟩ := selected_of_configured hkeeps hconfigured
  have hvalues := mem_values_of_selected hselected
  have hpageshown : pages ≠ [] → b.masthead.checkShown = .ok () := by
    intro hpages
    obtain ⟨page, hpage⟩ := List.exists_mem_of_ne_nil pages hpages
    exact hshown (List.ne_nil_of_mem (hvalues page hpage))
  obtain ⟨u', hwritten, happroaches, hagrees⟩ := goal.writePages_approaches hvalues hu
  refine ⟨u', ?_, happroaches, ?_⟩
  · rw [run_eq_writePages hselected hpageshown, hwritten, targets, ← hpaths, List.map_map]
    rfl
  · intro name hname
    rw [← hpaths] at hname
    obtain ⟨page, hpage, rfl⟩ := List.mem_map.1 hname
    exact hagrees page hpage

/-- Builds of parts lead on to the goal, and all their pages agree with it. -/
theorem runs_approaches (hkeeps : Config.KeepsPaths site.pages)
    (hshown : site.pages.values ≠ [] → b.masthead.checkShown = .ok ())
    (goal : Goal b site cwd (dir.getD site.outputDir) t full) {requests : List (Option (List String))}
    (hconfigured : ∀ request ∈ requests, ∀ name ∈ requested site request, name ∈ site.pages.keys)
    (hu : Approaches full t u) :
    ∃ u', b.runs site cwd dir u requests = (u', requests.map fun request =>
        .ok (targets site (dir.getD site.outputDir) request)) ∧
      Approaches full u u' ∧
      ∀ request ∈ requests, ∀ name ∈ requested site request, ∀ place,
        place <:+ (dir.getD site.outputDir / .parse name).place cwd → u'.find? place = full.find? place := by
  induction requests generalizing u with
  | nil => exact ⟨u, rfl, .refl full u, nofun⟩
  | cons request requests ih =>
    obtain ⟨hrequest, hrest⟩ := List.forall_mem_cons.1 hconfigured
    obtain ⟨u₁, hrun, hfirst, hagrees⟩ := run_approaches hkeeps hshown goal hrequest hu
    obtain ⟨u', hruns, happroaches, hall⟩ := ih hrest (hu.trans hfirst)
    refine ⟨u', ?_, hfirst.trans happroaches, List.forall_mem_cons.2 ⟨?_, hall⟩⟩
    · rw [runs, hrun]
      dsimp only
      rw [hruns, List.map_cons]
    · intro name hname place hsuffix
      exact happroaches.keeps (hagrees name hname place hsuffix)

/-- **To build in parts is to build at once.** Where all pages can be built, each with a file of its own, any requests
for pages that together ask for all of them succeed one after the other, and they leave the tree that the build of all
pages leaves. To build all pages again changes nothing. -/
theorem runs_eq {doc : Value} (hsite : Config.site doc = .ok site) (hout : dir.getD site.outputDir = out)
    (hdown : ".." ∉ out.names) {written : List Path} (hfull : b.run site cwd t dir none = (full, .ok written))
    (hdistinct : (site.pages.values.map (Page.target out)).Nodup) {requests : List (Option (List String))}
    (hconfigured : ∀ request ∈ requests, ∀ name ∈ requested site request, name ∈ site.pages.keys)
    (hall : ∀ key ∈ site.pages.keys, ∃ request ∈ requests, key ∈ requested site request) :
    (b.runs site cwd dir t requests).2 = requests.map (fun request => .ok (targets site out request)) ∧
      (∀ place, (b.runs site cwd dir t requests).1.find? place = full.find? place) ∧
      ∃ again, b.run site cwd full dir none = (again, .ok (targets site out none)) ∧
        ∀ place, again.find? place = full.find? place := by
  subst hout
  have hkeeps := Config.keepsPaths_of_site hsite
  have hselected : selected site none = .ok site.pages.values := rfl
  have hshown := shown_of_run hselected (congrArg Prod.snd hfull)
  rw [run_eq_writePages hselected hshown] at hfull
  have goal := goal_of_writePages (areBelow_of_site hsite (fun _ hmem => hmem) hdown) hdistinct hfull
  obtain ⟨u, hruns, happroaches, hagrees⟩ := runs_approaches hkeeps hshown goal hconfigured (.refl full t)
  rw [hruns]
  refine ⟨rfl, ?_, ?_⟩
  · refine goal.find?_eq happroaches fun page hpage => ?_
    obtain ⟨entry, hentry, rfl⟩ := List.mem_map.1 hpage
    obtain ⟨request, hrequest, hname⟩ := hall entry.1 (List.mem_map_of_mem hentry)
    have hplaces := hagrees request hrequest entry.1 hname
    rw [← (hkeeps entry hentry).1] at hplaces
    exact hplaces
  · have hkeys : ∀ name ∈ requested site none, name ∈ site.pages.keys := fun name hname => hname
    obtain ⟨again, hrun, hagain, -⟩ := run_approaches hkeeps hshown goal hkeys fun _ => .inr rfl
    exact ⟨again, hrun, fun place => (hagain place).elim id id⟩

end Requests

/-- Two pages, built from nothing in two parts that overlap. -/
theorem runs_eq_overlapping : ∃ site full written,
    Config.site (Config.documentOf ["a/x.html", "b.html"] []) = .ok site ∧
    (ofSite site).run site [] .empty (some ⟨.relative, ["out"]⟩) none = (full, .ok written) ∧
    ((ofSite site).runs site [] (some ⟨.relative, ["out"]⟩) .empty
      [some ["b.html"], some ["a/x.html", "b.html"]]).2 =
        [.ok [⟨.relative, ["out", "b.html"]⟩],
          .ok [⟨.relative, ["out", "a", "x.html"]⟩, ⟨.relative, ["out", "b.html"]⟩]] ∧
    ∀ place, ((ofSite site).runs site [] (some ⟨.relative, ["out"]⟩) .empty
      [some ["b.html"], some ["a/x.html", "b.html"]]).1.find? place = full.find? place := by
  obtain ⟨site, hsite, hkeys, hpages, hshown⟩ :
      ∃ site, Config.site (Config.documentOf ["a/x.html", "b.html"] []) = .ok site ∧
        site.pages.keys = ["a/x.html", "b.html"] ∧
        site.pages.values = [⟨"a/x.html", "Guide", ∅, none⟩, ⟨"b.html", "Guide", ∅, none⟩] ∧
        (ofSite site).masthead.checkShown = .ok () := ⟨_, rfl, rfl, rfl, by decide +kernel⟩
  have hselected : selected site none = .ok site.pages.values := rfl
  have hfull := @run_empty site ⟨.relative, ["out"]⟩ (ofSite site) none _ hselected hshown
  rw [hpages] at hfull
  replace hfull := hfull (by unfold ArePlain; decide) (by decide) (by unfold AreApart; decide)
  have hdistinct : (site.pages.values.map (Page.target ⟨.relative, ["out"]⟩)).Nodup := by
    rw [hpages]
    decide
  have hconfigured : ∀ request ∈ [some ["b.html"], some ["a/x.html", "b.html"]], ∀ name ∈ requested site request,
      name ∈ site.pages.keys := by
    rw [hkeys]
    simp [requested]
  have hall : ∀ key ∈ site.pages.keys, ∃ request ∈ [some ["b.html"], some ["a/x.html", "b.html"]],
      key ∈ requested site request := by
    rw [hkeys]
    simp [requested]
  have hout : (some ⟨.relative, ["out"]⟩ : Option Path).getD site.outputDir = ⟨.relative, ["out"]⟩ := rfl
  cases hrun : (ofSite site).run site [] .empty (some ⟨.relative, ["out"]⟩) none with
  | mk full result =>
    rw [hrun] at hfull
    subst hfull
    obtain ⟨hresults, hplaces, -⟩ := runs_eq hsite hout (by decide) hrun hdistinct hconfigured hall
    exact ⟨site, full, _, hsite, hrun, hresults, hplaces⟩

end PageBuilder

end GuideSite
