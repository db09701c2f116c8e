import GuideSite.Proofs.Links.Built
import GuideSite.Proofs.Links.Requested

/-!
# The two checks of links

A site can be checked in its directory or where it is published. If what is published are the files of the directory,
and all links are plain, both checks look for the same files, so they find the same links missing. They part where a
link is too long to be looked up, which ends the check of the directory alone.

* `serve`: a server that hands out the files of a directory.
* `checkRemote_eq_missingOf`: the check of a site that is published so.
* `checks_agree`: both checks.
-/

namespace GuideSite.Links

open PageBuilder (longName)
open Url (Address)

variable {site : Site} {t : FileTree} {cwd : Location} {dir : Path} {answer : String → Reply} {a : Address}
  {base root url link : String}

/-! ## Published directories -/

/-- What comes back for a URL below the root tells whether there is a file for it below the directory: success if there
is one, else an error status or no answer. -/
def Mirrors (t : FileTree) (cwd : Location) (dir : Path) (root : String) (answer : String → Reply) (url : String) :
    Prop :=
  ∀ path, withoutFragment url = root ++ path →
    if t.isFileAt cwd (dir / .parse path) then ∃ code, answer url = .status code ∧ isErrorStatus code = false
    else answer url = .failure ∨ ∃ code, answer url = .status code ∧ isErrorStatus code = true

/-- The answers of a server that hands out the files below a directory. -/
def serve (t : FileTree) (cwd : Location) (dir : Path) (root url : String) : Reply :=
  .status (if t.isFileAt cwd (dir / .parse (String.ofList ((withoutFragment url).toList.drop root.toList.length)))
    then 200 else 404)

theorem mirrors_serve (t : FileTree) (cwd : Location) (dir : Path) (root url : String) :
    Mirrors t cwd dir root (serve t cwd dir root) url := by
  intro path hpath
  rw [serve, hpath, String.toList_append, List.drop_left, String.ofList_toList]
  split
  · exact ⟨200, rfl, by decide⟩
  · exact .inr ⟨404, rfl, by decide⟩

/-- A mirrored reply tells of a missing page just if there is no file. -/
theorem Mirrors.isMissing_eq (h : Mirrors t cwd dir root answer url) {path : String}
    (hpath : withoutFragment url = root ++ path) :
    (answer url).isMissing = !t.isFileAt cwd (dir / .parse path) := by
  have hreply := h path hpath
  split at hreply
  · rename_i hfile
    obtain ⟨code, hcode, hsuccess⟩ := hreply
    rw [hcode, hfile]
    exact hsuccess
  · rename_i hfile
    rw [Bool.eq_false_iff.2 hfile]
    obtain hfailure | ⟨code, hcode, herror⟩ := hreply
    · rw [hfailure]
      rfl
    · rw [hcode]
      exact herror

theorem Mirrors.ne_breakdown (h : Mirrors t cwd dir root answer url) {path : String}
    (hpath : withoutFragment url = root ++ path) (words : String) : answer url ≠ .breakdown words := by
  have hreply := h path hpath
  intro hbreakdown
  rw [hbreakdown] at hreply
  split at hreply <;> simp at hreply

/-! ## The checks -/

/-- The check of a published directory finds the links missing that have no file. -/
theorem checkRemote_eq_missingOf (hbase : base = a.text ∨ base = a.text ++ "/")
    (hplain : ∀ link ∈ catalogue site, IsPlainLink link)
    (hmirrors : ∀ url ∈ (checkRemote site base answer).1.requested, Mirrors t cwd dir (publishedRoot base) answer url) :
    (checkRemote site base answer).2 = .ok (missingOf t cwd dir (catalogue site)) := by
  have hroot := publishedRoot_address hbase
  have hasks := asks_checkRemote site base answer
  have hresolve : ∀ link ∈ catalogue site,
      Url.resolve (publishedRoot base) link = .ok (publishedRoot base ++ link) := by
    rw [hroot]
    exact fun link hmem => (resolve_of_isPlainLink a (hplain link hmem)).1
  have hpath : ∀ link, withoutFragment (publishedRoot base ++ link) = publishedRoot base ++ withoutFragment link := by
    rw [hroot]
    exact withoutFragment_append a.not_mem_text
  obtain ⟨hrequested, houtcome⟩ := hasks.eq_ok hresolve fun link _ hmem => (hmirrors _ hmem).ne_breakdown (hpath link)
  rw [houtcome]
  refine congrArg Except.ok (List.filter_congr fun link hmem => ?_)
  rw [hrequested] at hmirrors
  exact (hmirrors _ (List.mem_map_of_mem hmem)).isMissing_eq (hpath link)

/-- **The two checks agree** where the files of a directory are published and all links are plain, unless a link is too
long to be looked up. The check of the published site gives the links without a file in any case. -/
theorem checks_agree (hbase : base = a.text ∨ base = a.text ++ "/")
    (hplain : ∀ link ∈ catalogue site, IsPlainLink link)
    (hmirrors : ∀ url ∈ (checkRemote site base answer).1.requested, Mirrors t cwd dir (publishedRoot base) answer url) :
    (checkRemote site base answer).2 = .ok (missingOf t cwd dir (catalogue site)) ∧
      (missingIn site t cwd dir = (checkRemote site base answer).2 ↔
        ∀ link ∈ catalogue site, ¬t.IsTooLong cwd (target dir link)) := by
  have hremote := checkRemote_eq_missingOf hbase hplain hmirrors
  refine ⟨hremote, ?_⟩
  rw [hremote, missingIn_eq_ok, and_iff_left rfl]

/-- A directory with one of the pages that the links lead to. -/
theorem checks_agree_index : ∃ site t, Config.site (Config.documentOf ["index.html"] []) = .ok site ∧
    t.isFileAt [] ⟨.relative, ["index.html"]⟩ = true ∧
    (∀ link ∈ catalogue site, IsPlainLink link) ∧
    (checkRemote site "https://example.com" (serve t [] ⟨.relative, []⟩ "https://example.com/")).2 =
      missingIn site t [] ⟨.relative, []⟩ ∧
    missingIn site t [] ⟨.relative, []⟩ = .ok ["assets/images/dac_logo.png", "develop/index.html",
      "guide/components/index.html", "reference/packages.html"] := by
  let a : Address := ⟨"https", "example.com", "", by decide, by decide, List.all_eq_true.1 (by decide), .inl rfl⟩
  let t : FileTree := FileTree.empty.put ["index.html"] (.file "") (by decide)
  obtain ⟨site, hsite, hmasthead, htoc⟩ : ∃ site, Config.site (Config.documentOf ["index.html"] []) = .ok site ∧
      site.masthead = Masthead.stock ∧ ofNodes site.toc = ["index.html"] := ⟨_, rfl, rfl, rfl⟩
  have hcatalogue := catalogue_stock htoc hmasthead
  have hplain : ∀ link ∈ catalogue site, IsPlainLink link := by
    have hpaths : ∀ link ∈ catalogue site, Path.IsPlainPath link := by
      rw [hcatalogue]
      decide
    exact fun link hmem => isPlainLink_of_isPlainPath (hpaths link hmem)
  have hshort : ∀ link ∈ catalogue site, ¬t.IsTooLong [] (target ⟨.relative, []⟩ link) := by
    have hfits : ∀ link ∈ catalogue site, (target ⟨.relative, []⟩ link).Fits := by
      rw [hcatalogue]
      decide
    exact fun link hmem => FileTree.not_isTooLong_of_fits (hfits link hmem)
  have hbase : "https://example.com" = a.text := by decide
  have hroot : publishedRoot "https://example.com" = "https://example.com/" := by decide
  have hmirrors := mirrors_serve t [] ⟨.relative, []⟩ "https://example.com/"
  obtain ⟨hremote, hiff⟩ := @checks_agree site t [] ⟨.relative, []⟩ _ a "https://example.com" (.inl hbase) hplain
    fun url _ => hroot ▸ hmirrors url
  have hagree := hiff.2 hshort
  have hmissing : missingOf t [] ⟨.relative, []⟩ (catalogue site) = ["assets/images/dac_logo.png", "develop/index.html",
      "guide/components/index.html", "reference/packages.html"] := by
    rw [hcatalogue]
    decide
  exact ⟨site, t, hsite, by decide, hplain, hagree.symm, hagree.trans (hremote.trans (congrArg Except.ok hmissing))⟩

/-! ## Links that are too long -/

/-- A link that is too long is missing where the site is published, and ends the check of the directory. -/
theorem checks_agree_long : ∃ site missing fault, Config.site (documentLinking longName) = .ok site ∧
    (∀ link ∈ catalogue site, IsPlainLink link) ∧
    (∀ url, Mirrors .empty [] ⟨.relative, []⟩ "https://example.com/"
      (serve .empty [] ⟨.relative, []⟩ "https://example.com/") url) ∧
    (checkRemote site "https://example.com" (serve .empty [] ⟨.relative, []⟩ "https://example.com/")).2 = .ok missing ∧
    longName ∈ missing ∧
    missingIn site .empty [] ⟨.relative, []⟩ = .error (.file fault) ∧ fault.obstacle = .nameTooLong := by
  let a : Address := ⟨"https", "example.com", "", by decide, by decide, List.all_eq_true.1 (by decide), .inl rfl⟩
  obtain ⟨site, hsite, htoc, hmasthead, -, -⟩ := site_documentLinking isTrimmed_longName
  have hplain : ∀ link ∈ catalogue site, IsPlainLink link := by
    intro link hmem
    have hstock : ∀ link ∈ ofMasthead Masthead.stock, Path.IsPlainPath link := by decide
    rw [catalogue, NameSet.mem_toList, NameSet.mem_ofList, List.mem_filter, htoc, hmasthead, List.mem_append,
      List.mem_singleton, Path.dropSlashes_of_relative isPlainPath_longName.anchorOf_eq] at hmem
    obtain rfl | hmem := hmem.1
    · exact isPlainLink_of_isPlainPath isPlainPath_longName
    · exact isPlainLink_of_isPlainPath (hstock link hmem)
  have hmem := mem_catalogue_longName htoc
  have hbase : "https://example.com" = a.text := by decide
  have hroot : publishedRoot "https://example.com" = "https://example.com/" := by decide
  have hmirrors := mirrors_serve .empty [] ⟨.relative, []⟩ "https://example.com/"
  have hremote := @checkRemote_eq_missingOf site .empty [] ⟨.relative, []⟩ _ a "https://example.com" (.inl hbase) hplain
    fun url _ => hroot ▸ hmirrors url
  obtain ⟨fault, hfault, hobstacle⟩ := @missingIn_longName site [] ⟨.relative, []⟩ .empty hmem rfl
    (List.forall_mem_nil _)
  refine ⟨site, _, fault, hsite, hplain, hmirrors, hremote, ?_, hfault, hobstacle⟩
  rw [mem_missingOf]
  exact ⟨hmem, FileTree.isFileAt_empty [] _⟩

end GuideSite.Links
