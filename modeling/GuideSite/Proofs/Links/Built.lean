import GuideSite.Command.Run
import GuideSite.Proofs.Links.Emitted
import GuideSite.Proofs.Links.Plain
import GuideSite.Proofs.Page.Targets
import GuideSite.Proofs.Page.Vacant

/-!
# The links of a site that was built

The check of a directory looks for the file of every link of the catalogue, and a build writes the files of the pages.
So where all pages were built into an empty directory, the links without a file are those that lead to no page. The
check has nothing to say only if a link is too long to be looked up.

* `missingIn_eq_ok`: when the check of a directory gives a list, and which.
* `isBuilt_after_run`: the links with a file after a build.
* `missing_after_run`: the missing links, and the report of the command that checks them.
-/

namespace GuideSite.Links

open FileTree PageBuilder

variable {site : Site} {cwd : Location} {dir : Path} {t t' : FileTree} {link : String}

/-! ## The check of a directory -/

theorem mem_missingOf {links : List String} :
    link ∈ missingOf t cwd dir links ↔ link ∈ links ∧ isBuilt t cwd dir link = false := by
  rw [missingOf, List.mem_filter, Bool.not_eq_true']

/-- One link does not end the check just if it is not too long. -/
theorem checkLength_target :
    (t.checkLength cwd (target dir link)).mapError Error.file = .ok () ↔ ¬t.IsTooLong cwd (target dir link) :=
  mapError_eq_ok.trans checkLength_eq_ok

/-- **The check of a directory** gives the links without a file, unless a link is too long to be looked up. -/
theorem missingIn_eq_ok {missing : List String} :
    missingIn site t cwd dir = .ok missing ↔
      (∀ link ∈ catalogue site, ¬t.IsTooLong cwd (target dir link)) ∧
        missing = missingOf t cwd dir (catalogue site) := by
  have hall : ((catalogue site).forM fun link => (t.checkLength cwd (target dir link)).mapError Error.file) = .ok () ↔
      ∀ link ∈ catalogue site, ¬t.IsTooLong cwd (target dir link) :=
    forM_eq_ok.trans (forall₂_congr fun _ _ => checkLength_target)
  rw [missingIn, bind_eq_ok, ← hall]
  exact ⟨fun ⟨_, h, hmissing⟩ => ⟨h, (Except.ok.inj hmissing).symm⟩, fun ⟨h, hmissing⟩ => ⟨(), h, hmissing ▸ rfl⟩⟩

/-- Only a link that is too long ends the check. -/
theorem exists_of_missingIn_eq_error {e : Error} (h : missingIn site t cwd dir = .error e) :
    ∃ link ∈ catalogue site, t.IsTooLong cwd (target dir link) ∧
      e = .file ⟨.nameTooLong, (target dir link).text⟩ := by
  have herror : ((catalogue site).forM fun link => (t.checkLength cwd (target dir link)).mapError Error.file) =
      .error e := by
    rw [missingIn] at h
    cases hall : (catalogue site).forM fun link => (t.checkLength cwd (target dir link)).mapError Error.file with
    | ok _ =>
      rw [hall] at h
      cases h
    | error e' =>
      rw [hall] at h
      rw [show e' = e from Except.error.inj h]
  obtain ⟨link, hmem, hlink⟩ := exists_of_forM_eq_error herror
  refine ⟨link, hmem, ?_⟩
  rw [checkLength] at hlink
  split at hlink
  · rename_i hlocate
    exact ⟨locate_eq_nameTooLong.1 hlocate, (Except.error.inj hlink).symm⟩
  · cases hlink

/-! ## Links to pages -/

/-- The link names a file below the root of the site: no slash is before it, and no segment leads upwards. -/
structure IsInner (link : String) : Prop where
  relative : (withoutFragment link).toList.head? ≠ some '/'
  down : ".." ∉ Path.segments (withoutFragment link)

theorem isInner_of_isPlainLink (h : IsPlainLink link) : IsInner link := by
  obtain ⟨path, fragment, hpath, -, rfl⟩ := h
  refine ⟨?_, ?_⟩ <;> rw [withoutFragment_plain hpath]
  · exact hpath.head?_ne
  · exact hpath.down

theorem IsInner.anchorOf_eq (h : IsInner link) : Path.anchorOf (withoutFragment link) = .relative :=
  Path.anchorOf_eq_relative.2 h.relative

theorem IsInner.target_eq (h : IsInner link) (dir : Path) :
    target dir link = ⟨dir.anchor, dir.names ++ (Path.parse (withoutFragment link)).names⟩ :=
  @Path.div_of_relative (.parse (withoutFragment link)) h.anchorOf_eq dir

/-- There is a page with the path that the link names, however the two are spelled. -/
def IsMatched (site : Site) (link : String) : Prop :=
  ∃ key ∈ site.pages.keys, (Path.parse key).names = (Path.parse (withoutFragment link)).names

instance (site : Site) (link : String) : Decidable (IsMatched site link) :=
  inferInstanceAs (Decidable (∃ key ∈ site.pages.keys, _))

/-- A link has the file of a page just if the two have the same names. -/
theorem IsMatched.iff_target {doc : Value} (hsite : Config.site doc = .ok site) (hlink : IsInner link) (dir : Path) :
    IsMatched site link ↔ ∃ page ∈ site.pages.values, page.target dir = target dir link := by
  have hpaths : site.pages.keys = site.pages.values.map Page.path :=
    (@paths_of_selected site none _ (Config.keepsPaths_of_site hsite) rfl).symm
  simp only [IsMatched, hpaths, List.mem_map, exists_exists_and_eq_and]
  refine exists_congr fun page => and_congr_right fun hmem => ?_
  exact (Path.join_eq_iff (Config.isPagePath_of_site hsite hmem).anchorOf_eq hlink.anchorOf_eq dir).symm

/-- After a build the links with a file are those to pages. -/
theorem isBuilt_after_run {doc : Value} {b : PageBuilder} {written : List Path} (hsite : Config.site doc = .ok site)
    (hdown : ".." ∉ dir.names) (hvacant : t.IsVacant cwd dir)
    (hrun : b.run site cwd t (some dir) none = (t', .ok written)) (hlink : IsInner link) :
    isBuilt t' cwd dir link = true ↔ IsMatched site link := by
  have htarget := hlink.target_eq dir
  rw [IsMatched.iff_target hsite hlink dir, isBuilt]
  refine isFileAt_run hsite hdown hvacant hrun ?_ ?_ ?_
  · rw [htarget]
  · rw [htarget]
    exact List.prefix_append ..
  · rw [htarget, List.mem_append, not_or]
    exact ⟨hdown, Path.not_mem_names_of_segments hlink.down⟩

/-! ## The report of the check -/

section Command

variable {w : Command.World} {siteDir : Option Path} {baseUrl : Option String} (hbase : baseUrl.getD "" = "")

include hbase

/-- A blank base asks for no published site. -/
theorem not_asked : baseUrl.filter (· ≠ "") = none ∧ baseUrl.any (· ≠ "") = false := by
  cases baseUrl with
  | none => exact ⟨rfl, rfl⟩
  | some base =>
    obtain rfl : base = "" := hbase
    exact ⟨rfl, rfl⟩

/-- Without a published site to check, the command that checks links checks a directory. -/
theorem perform_links : Command.perform w t site (.links siteDir baseUrl) =
    (t, (missingIn site t w.cwd (siteDir.getD site.outputDir)).map (Command.checkReport site)) := by
  dsimp only [Command.perform, Command.checkLinks]
  rw [(not_asked hbase).1]

theorem run_links {config : Path} (hload : Config.siteAt t w.cwd config = .ok site) :
    Command.run w t ⟨config, .links siteDir baseUrl⟩ = Command.perform w t site (.links siteDir baseUrl) := by
  rw [Command.run, Command.asksTwice, (not_asked hbase).2, Bool.and_false, if_neg Bool.false_ne_true, hload]

end Command

/-- The links of the catalogue that lead to no page. -/
def unmatched (site : Site) : List String := (catalogue site).filter fun link => ¬IsMatched site link

theorem missingOf_after_run {doc : Value} {b : PageBuilder} {written : List Path} (hsite : Config.site doc = .ok site)
    (hdown : ".." ∉ dir.names) (hvacant : t.IsVacant cwd dir)
    (hrun : b.run site cwd t (some dir) none = (t', .ok written)) (hall : ∀ link ∈ catalogue site, IsInner link) :
    missingOf t' cwd dir (catalogue site) = unmatched site := by
  refine List.filter_congr fun link hmem => ?_
  rw [Bool.eq_iff_iff, Bool.not_eq_true', ← Bool.not_eq_true, decide_eq_true_iff]
  exact not_congr (isBuilt_after_run hsite hdown hvacant hrun (hall link hmem))

theorem exit_checkReport :
    (Command.checkReport site (unmatched site)).exit = 0 ↔ ∀ link ∈ catalogue site, IsMatched site link := by
  rw [Command.checkReport]
  split
  · rename_i hnil
    simpa [unmatched] using hnil
  · rename_i hne
    simpa [unmatched] using hne

/-- **The missing links after a build** of all pages into a vacant directory. The check gives a list just if no link is
too long to be looked up, and a link below the root is in the list just if no page has its path. Where all links are of
this kind, the command that checks them succeeds just if each of them leads to a page, and else it names those that do
not, in the order of the catalogue. -/
theorem missing_after_run {doc : Value} {b : PageBuilder} {written : List Path} (hsite : Config.site doc = .ok site)
    (hdown : ".." ∉ dir.names) (hvacant : t.IsVacant cwd dir)
    (hrun : b.run site cwd t (some dir) none = (t', .ok written)) :
    ((∃ missing, missingIn site t' cwd dir = .ok missing) ↔
      ∀ link ∈ catalogue site, ¬t'.IsTooLong cwd (target dir link)) ∧
    (∀ missing, missingIn site t' cwd dir = .ok missing → ∀ link ∈ catalogue site, IsInner link →
      (link ∈ missing ↔ ¬IsMatched site link)) ∧
    ((∀ link ∈ catalogue site, IsInner link ∧ ¬t'.IsTooLong cwd (target dir link)) →
      ∃ report : Command.Report,
        (report.exit = 0 ↔ ∀ link ∈ catalogue site, IsMatched site link) ∧
        (unmatched site ≠ [] → report = ⟨1, Command.linesOf ((unmatched site).map ("missing " ++ ·))⟩) ∧
        ∀ (answer : String → Reply) (siteDir : Option Path) (baseUrl : Option String),
          siteDir.getD site.outputDir = dir → baseUrl.getD "" = "" →
          Command.perform ⟨cwd, answer⟩ t' site (.links siteDir baseUrl) = (t', .ok report) ∧
          ∀ config, Config.siteAt t' cwd config = .ok site →
            Command.run ⟨cwd, answer⟩ t' ⟨config, .links siteDir baseUrl⟩ = (t', .ok report)) := by
  refine ⟨?_, ?_, ?_⟩
  · constructor
    · rintro ⟨missing, h⟩
      exact (missingIn_eq_ok.1 h).1
    · intro hshort
      exact ⟨_, missingIn_eq_ok.2 ⟨hshort, rfl⟩⟩
  · intro missing h link hmem hlink
    obtain ⟨-, rfl⟩ := missingIn_eq_ok.1 h
    rw [mem_missingOf, and_iff_right hmem, ← Bool.not_eq_true, isBuilt_after_run hsite hdown hvacant hrun hlink]
  · intro hall
    have hmissing : missingIn site t' cwd dir = .ok (unmatched site) :=
      missingIn_eq_ok.2 ⟨fun link hmem => (hall link hmem).2,
        (missingOf_after_run hsite hdown hvacant hrun fun link hmem => (hall link hmem).1).symm⟩
    refine ⟨Command.checkReport site (unmatched site), exit_checkReport, fun hne => if_neg hne, ?_⟩
    intro answer siteDir baseUrl hdir hbase
    have hperform : Command.perform ⟨cwd, answer⟩ t' site (.links siteDir baseUrl) =
        (t', .ok (Command.checkReport site (unmatched site))) := by
      rw [perform_links hbase, hdir, hmissing]
      rfl
    exact ⟨hperform, fun config hload => (run_links hbase hload).trans hperform⟩

/-- The catalogue of a site with a link to its start and with the stock masthead. -/
theorem catalogue_stock (htoc : ofNodes site.toc = ["index.html"]) (hmasthead : site.masthead = Masthead.stock) :
    catalogue site = ["assets/images/dac_logo.png", "develop/index.html", "guide/components/index.html", "index.html",
      "reference/packages.html"] := by
  rw [catalogue, htoc, hmasthead]
  decide +kernel

/-- Where a page and a link differ in segments that are lost, the link leads to the page. The other links that lead to
no page are reported. -/
theorem missing_after_run_spelled : ∃ site t' written missing,
    Config.site (Config.documentOf ["index.html", "guide//components/./index.html"] []) = .ok site ∧
    (ofSite site).run site [] .empty (some ⟨.relative, ["out"]⟩) none = (t', .ok written) ∧
    missingIn site t' [] ⟨.relative, ["out"]⟩ = .ok missing ∧
    "guide/components/index.html" ∉ missing ∧ "develop/index.html" ∈ missing ∧
    Command.perform ⟨[], fun _ => .failure⟩ t' site (.links (some ⟨.relative, ["out"]⟩) none) =
      (t', .ok ⟨1, "missing assets/images/dac_logo.png\nmissing develop/index.html\n" ++
        "missing reference/packages.html\n"⟩) := by
  obtain ⟨site, hsite, hkeys, hpages, hmasthead, htoc⟩ : ∃ site,
      Config.site (Config.documentOf ["index.html", "guide//components/./index.html"] []) = .ok site ∧
      site.pages.keys = ["index.html", "guide//components/./index.html"] ∧
      site.pages.values = [⟨"index.html", "Guide", ∅, none⟩, ⟨"guide//components/./index.html", "Guide", ∅, none⟩] ∧
      site.masthead = Masthead.stock ∧ ofNodes site.toc = ["index.html"] := ⟨_, rfl, rfl, rfl, rfl, rfl⟩
  have hcatalogue := catalogue_stock htoc hmasthead
  have hshown : Masthead.stock.checkShown = .ok () := by decide +kernel
  have hrun := @run_empty site ⟨.relative, ["out"]⟩ (ofSite site) none site.pages.values rfl (by
    rw [ofSite, hmasthead]
    exact hshown)
  rw [hpages] at hrun
  have hwritten := hrun (by unfold ArePlain; decide) (by decide) (by unfold AreApart; decide)
  obtain ⟨t', written, hrun'⟩ : ∃ t' written,
      (ofSite site).run site [] .empty (some ⟨.relative, ["out"]⟩) none = (t', .ok written) :=
    ⟨_, _, Prod.ext rfl hwritten⟩
  have hinner : ∀ link ∈ catalogue site, IsInner link := by
    rw [hcatalogue]
    exact fun link hmem => isInner_of_isPlainLink (isPlainLink_of_isPlainPath
      ((by decide +kernel : ∀ link ∈ _, Path.IsPlainPath link) link hmem))
  have hfits : ∀ link ∈ catalogue site, (target ⟨.relative, ["out"]⟩ link).Fits := by
    rw [hcatalogue]
    decide +kernel
  have hunmatched : unmatched site = ["assets/images/dac_logo.png", "develop/index.html",
      "reference/packages.html"] := by
    simp only [unmatched, hcatalogue, IsMatched, hkeys]
    decide +kernel
  have hlines : Command.linesOf (["assets/images/dac_logo.png", "develop/index.html",
      "reference/packages.html"].map ("missing " ++ ·)) =
        "missing assets/images/dac_logo.png\nmissing develop/index.html\n" ++
          "missing reference/packages.html\n" := by decide +kernel
  obtain ⟨hiff, hmatched, hreport⟩ := @missing_after_run site [] ⟨.relative, ["out"]⟩ .empty _ _ (ofSite site) _ hsite
    (by decide) (isVacant_empty [] _) hrun'
  obtain ⟨missing, hmissing⟩ := hiff.2 fun link hmem => not_isTooLong_of_fits (hfits link hmem)
  obtain ⟨report, -, hreported, hperform⟩ := hreport fun link hmem =>
    ⟨hinner link hmem, not_isTooLong_of_fits (hfits link hmem)⟩
  rw [hunmatched, hlines] at hreported
  obtain rfl := hreported (List.cons_ne_nil _ _)
  have hlinks := hmatched missing hmissing
  refine ⟨site, t', written, missing, hsite, hrun', hmissing, ?_, ?_,
    (hperform (fun _ => .failure) (some ⟨.relative, ["out"]⟩) none rfl rfl).1⟩
  · rw [hlinks _ (by rw [hcatalogue]; decide) (hinner _ (by rw [hcatalogue]; decide)), IsMatched, hkeys]
    decide
  · rw [hlinks _ (by rw [hcatalogue]; decide) (hinner _ (by rw [hcatalogue]; decide)), IsMatched, hkeys]
    decide

/-! ## Links that are too long -/

/-- A document with a page and a link. -/
def documentLinking (link : String) : Value :=
  .map [(.text "toc", .list [.map [(.text "title", .text "Guide"), (.text "link", .text link)]]),
    (.text "pages", .map [(.text "x.html", .map [(.text "title", .text "Guide")])])]

theorem requiredText_of_isTrimmed {text : String} (h : Text.IsTrimmed text) (place : Place) (field : String) :
    Config.requiredText place field (.text text) = .ok text := by
  have htext : Config.optionalText (.text text) = .ok (some text) := by
    show Except.ok (if Text.strip text = "" then none else some (Text.strip text)) = .ok (some text)
    rw [h.strip_eq, if_neg h.ne_empty]
  rw [Config.requiredText, htext]
  rfl

/-- The site of the document has its link and its page, and the stock masthead. -/
theorem site_documentLinking {link : String} (h : Text.IsTrimmed link) :
    ∃ site, Config.site (documentLinking link) = .ok site ∧ ofNodes site.toc = [Text.dropSlashes link] ∧
      site.masthead = Masthead.stock ∧ site.pages.keys = ["x.html"] ∧
        site.pages.values = [⟨"x.html", "Guide", ∅, none⟩] := by
  let entry : Value := .map [(.text "title", .text "Guide"), (.text "link", .text link)]
  have hnode : Config.tocNode 5 [0] entry = .ok ⟨"Guide", Text.dropSlashes link, ∅, []⟩ := by
    have hget : Value.get [(.text "title", .text "Guide"), (.text "link", .text link)] "link" = .text link := rfl
    have hentries : entry.entries? = some [(.text "title", .text "Guide"), (.text "link", .text link)] := rfl
    rw [Config.tocNode, hentries]
    dsimp only
    rw [hget]
    simp only [requiredText_of_isTrimmed h]
    rfl
  have htoc : Config.toc (.list [entry]) = .ok [⟨"Guide", Text.dropSlashes link, ∅, []⟩] := by
    have hlist : Config.toc (.list [entry]) =
        Config.tocNode (Value.sizeItems [entry]) [0] entry >>= fun node => .ok [node] := rfl
    rw [hlist, show Value.sizeItems [entry] = 5 from rfl, hnode]
    rfl
  have hsite : Config.site (documentLinking link) = Config.toc (.list [entry]) >>= fun nodes =>
      .ok ⟨nodes, Masthead.stock, Dictionary.empty.insert "x.html" ⟨"x.html", "Guide", ∅, none⟩,
        ⟨.relative, ["public"]⟩, Language.standard, Site.stockName, Language.stockOrder⟩ := rfl
  rw [hsite, htoc]
  exact ⟨_, rfl, rfl, rfl, rfl, rfl⟩

theorem isPlainSegment_replicate {n : Nat} (h : 2 < n) : Path.IsPlainSegment (List.replicate n 'a') := by
  have hne : ∀ cs : List Char, cs.length ≤ 2 → List.replicate n 'a' ≠ cs := by
    rintro cs hcs rfl
    rw [List.length_replicate] at hcs
    omega
  have hplain : ∀ c ∈ List.replicate n 'a', Path.isPlainChar c = true := by
    intro c hmem
    rw [List.eq_of_mem_replicate hmem]
    decide
  exact ⟨hne [] (by decide), hne ['.'] (by decide), hne ['.', '.'] (by decide), hplain⟩

theorem isPlainSegment_longName : Path.IsPlainSegment (List.replicate 256 'a') :=
  isPlainSegment_replicate (by decide)

theorem isPlainPath_longName : Path.IsPlainPath longName := Path.isPlainPath_of_isPlainSegment isPlainSegment_longName

theorem parse_longName : Path.parse longName = ⟨.relative, [longName]⟩ := by
  rw [Path.parse_of_isPlainPath isPlainPath_longName]
  exact congrArg _ (Path.segments_of_isPlainSegment isPlainSegment_longName)

theorem withoutFragment_longName : withoutFragment longName = longName :=
  withoutFragment_of_isPlainPath isPlainPath_longName

theorem isTrimmed_longName : Text.IsTrimmed longName := isPlainPath_longName.isTrimmed

theorem target_longName (dir : Path) : target dir longName = ⟨dir.anchor, dir.names ++ [longName]⟩ := by
  rw [target, withoutFragment_longName, parse_longName, Path.div_of_relative rfl]

/-- Below a directory the link is too long to be looked up. -/
theorem isTooLong_longName (hdirectory : t.isDirectoryAt cwd dir = true)
    (hclean : ∀ name ∈ dir.names, '\x00' ∉ name.toList) : t.IsTooLong cwd (target dir longName) := by
  rw [target_longName]
  refine ⟨fun name hmem => ?_, .inr ⟨dir.names, longName, [], rfl, hdirectory, by decide +kernel⟩⟩
  obtain hmem | hmem := List.mem_append.1 hmem
  · exact hclean name hmem
  · rw [List.mem_singleton.1 hmem]
    exact isPlainPath_longName.not_mem (by decide) (by decide)

theorem mem_catalogue_longName (htoc : ofNodes site.toc = [Text.dropSlashes longName]) : longName ∈ catalogue site := by
  rw [mem_catalogue, onEveryPage, htoc, Path.dropSlashes_of_relative isPlainPath_longName.anchorOf_eq]
  exact ⟨isPlainPath_longName.ne_empty, .inl List.mem_cons_self⟩

/-- The link ends the check of a directory that is there. -/
theorem missingIn_longName (hmem : longName ∈ catalogue site) (hdirectory : t.isDirectoryAt cwd dir = true)
    (hclean : ∀ name ∈ dir.names, '\x00' ∉ name.toList) :
    ∃ fault, missingIn site t cwd dir = .error (.file fault) ∧ fault.obstacle = .nameTooLong := by
  cases hmissing : missingIn site t cwd dir with
  | ok missing => exact absurd (isTooLong_longName hdirectory hclean) ((missingIn_eq_ok.1 hmissing).1 longName hmem)
  | error e =>
    obtain ⟨link, -, -, rfl⟩ := exists_of_missingIn_eq_error hmissing
    exact ⟨_, rfl, rfl⟩

/-- A link that is too long is not found to be missing: it ends the check. -/
theorem missing_after_run_long : ∃ site t' written fault,
    Config.site (documentLinking longName) = .ok site ∧ FileTree.empty.IsVacant [] ⟨.relative, ["public"]⟩ ∧
    (ofSite site).run site [] .empty (some ⟨.relative, ["public"]⟩) none = (t', .ok written) ∧
    longName ∈ catalogue site ∧ IsInner longName ∧ ¬IsMatched site longName ∧
    missingIn site t' [] ⟨.relative, ["public"]⟩ = .error (.file fault) ∧ fault.obstacle = .nameTooLong := by
  obtain ⟨site, hsite, htoc, hmasthead, hkeys, hpages⟩ := site_documentLinking isTrimmed_longName
  have hmem := mem_catalogue_longName htoc
  have hmatched : ¬IsMatched site longName := by
    rw [IsMatched, hkeys, withoutFragment_longName, parse_longName]
    rintro ⟨key, hkey, hnames⟩
    obtain rfl := List.mem_singleton.1 hkey
    have hname : "x.html" = longName := List.head_eq_of_cons_eq hnames
    have hlength : "x.html".toList.length = longName.toList.length := by rw [← hname]
    rw [toList_longName, List.length_replicate] at hlength
    exact absurd hlength (by decide)
  have hshown : Masthead.stock.checkShown = .ok () := by decide +kernel
  have hrun := @run_empty site ⟨.relative, ["public"]⟩ (ofSite site) none site.pages.values rfl (by
    rw [ofSite, hmasthead]
    exact hshown)
  rw [hpages] at hrun
  have hwritten := hrun (by unfold ArePlain; decide) (by decide) (by unfold AreApart; decide)
  have hvacant := isVacant_empty [] ⟨.relative, ["public"]⟩
  -- The page was written, so the output directory is there.
  have hfile := (@isFileAt_run (ofSite site) site [] ⟨.relative, ["public"]⟩ .empty _ _ _ hsite (by decide) hvacant
    (Prod.ext rfl hwritten) ⟨.relative, ["public", "x.html"]⟩ rfl (by decide) (by decide)).2
    ⟨⟨"x.html", "Guide", ∅, none⟩, by rw [hpages]; decide, by decide⟩
  obtain ⟨-, -, content, hcontent⟩ := (isFileAt_iff (by decide)).1 hfile
  have hdirectory := (@isDirectoryAt_iff _ [] ⟨.relative, ["public"]⟩ (by decide) rfl).2
    ⟨by decide, find?_of_suffix (Option.isSome_of_eq_some hcontent) (by decide) (by decide)⟩
  obtain ⟨fault, hfault, hobstacle⟩ := missingIn_longName hmem hdirectory (by decide)
  exact ⟨site, _, _, fault, hsite, hvacant, Prod.ext rfl hwritten, hmem,
    isInner_of_isPlainLink (isPlainLink_of_isPlainPath isPlainPath_longName), hmatched, hfault, hobstacle⟩

end GuideSite.Links
