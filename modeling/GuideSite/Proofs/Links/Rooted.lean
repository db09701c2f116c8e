import GuideSite.Links.Directory
import GuideSite.Proofs.Config.Settings
import GuideSite.Proofs.Config.WellFormed
import GuideSite.Proofs.Links.Emitted
import GuideSite.Proofs.Path.Depth

/-!
# Links with a slash before them

A link of the catalogue is meant to be read from the root of the site, so no slash should be before it. Those of the
table of contents and of the bars lose their slashes when they are read; the two of the logo, its link and its image,
keep what the document gives them.

* `isUnrooted_ofNode`, `isUnrooted_entry`: the links that have lost their slashes.
* `isUnrooted_toRoot_append`, `target_of_isUnrooted`: what a link without a slash is good for.
* `catalogue_isUnrooted`: the catalogue of a site.
-/

namespace GuideSite.Links

open Config (documentOf optionalText textOr)

/-! ## Links that lose their slashes -/

theorem mem_ofNodes {link : String} {ns : List NavNode} : link ∈ ofNodes ns ↔ ∃ n ∈ ns, link ∈ ofNode n := by
  induction ns with
  | nil => simp [ofNodes]
  | cons n ns ih => simp [ofNodes, ih]

/-- The induction is on the form of the node, which is that of the nodes below it. -/
theorem isUnrooted_ofNode {n : NavNode} (h : n.IsWellFormed) : ∀ link ∈ ofNode n, IsUnrooted link := by
  induction h with
  | @intro n _ hlink _ _ _ ih =>
    obtain ⟨title, link, labels, children⟩ := n
    intro link' hmem
    rw [ofNode, List.mem_cons, mem_ofNodes] at hmem
    obtain rfl | ⟨child, hchild, hmem⟩ := hmem
    · exact hlink
    · exact ih child hchild link' hmem

theorem isUnrooted_entry {m : Masthead} (h : m.IsWellFormed) :
    ∀ e ∈ m.primary ++ m.secondary ++ m.quicknav, IsUnrooted e.link := by
  intro e he
  obtain he | he := List.mem_append.1 he
  · obtain he | he := List.mem_append.1 he
    · exact (h.primary e he).link
    · exact (h.secondary e he).link
  · exact (h.quicknav e he).link

/-! ## The links of the logo -/

/-- The value gives a text with a slash before it, blanks apart. -/
def GivesRooted (v : Value) : Prop := ∃ text, optionalText v = .ok (some text) ∧ ¬IsUnrooted text

instance (v : Value) : Decidable (GivesRooted v) :=
  match h : optionalText v with
  | .ok (some text) => decidable_of_iff (¬IsUnrooted text) (by simp [GivesRooted, h])
  | .ok none => isFalse (by simp [GivesRooted, h])
  | .error _ => isFalse (by simp [GivesRooted, h])

/-- A text that was given keeps its slash. -/
theorem isUnrooted_textOr {v : Value} {key stock text : String}
    (h : textOr (v.entries?.getD []) key stock = .ok text) (hstock : IsUnrooted stock) :
    IsUnrooted text ↔ ¬GivesRooted (v.under key) := by
  obtain ⟨given, hgiven, h⟩ := bind_eq_ok.1 h
  obtain rfl := Except.ok.inj h
  have hrooted : GivesRooted (v.under key) ↔ ∃ found, given = some found ∧ ¬IsUnrooted found := by
    rw [GivesRooted, Value.under, hgiven]
    simp only [Except.ok.injEq]
  rw [hrooted]
  cases given with
  | none => simpa using hstock
  | some found => simp

/-! ## What a link without a slash is good for -/

/-- After the steps from a page to the root it is read from the page, and not from the root of the server. -/
theorem isUnrooted_toRoot_append {link : String} (h : IsUnrooted link) (page : String) :
    IsUnrooted (Path.toRoot page ++ link) := by
  rw [Path.toRoot_eq]
  generalize (Path.lexical (Text.dropSlashes (Text.strip page))).length - 1 = n
  by_cases hn : n = 0
  · subst hn
    rw [show Path.climb 0 = "" from rfl, String.empty_append]
    exact h
  · exact Path.anchorOf_eq_relative.1 (Path.anchorOf_climb_append hn link)

/-- Its file is below the directory, by the names of its path. -/
theorem target_of_isUnrooted {link : String} (h : IsUnrooted link) (dir : Path) :
    target dir link = ⟨dir.anchor, dir.names ++ (Path.parse (withoutFragment link)).names⟩ := by
  refine @Path.div_of_relative (.parse (withoutFragment link)) (Path.anchorOf_eq_relative.2 ?_) dir
  rw [withoutFragment, String.toList_ofList]
  intro hslash
  obtain ⟨cs, hcs⟩ := List.head?_eq_some_iff.1 hslash
  have hinit : link.toList.takeWhile (· ≠ '#') <+: link.toList := List.takeWhile_prefix _
  rw [hcs] at hinit
  obtain ⟨rest, hrest⟩ := hinit
  exact h (by rw [← hrest]; rfl)

/-! ## The catalogue -/

/-- Where a link of the catalogue comes from. -/
theorem mem_catalogue_iff {site : Site} {link : String} :
    link ∈ catalogue site ↔ link ≠ "" ∧ (link ∈ ofNodes site.toc ∨ link = site.masthead.logo.link ∨
      link = site.masthead.logo.src ∨
      ∃ e ∈ site.masthead.primary ++ site.masthead.secondary ++ site.masthead.quicknav, e.link = link) := by
  rw [catalogue, NameSet.mem_toList, NameSet.mem_ofList, List.mem_filter, decide_eq_true_iff, and_comm, ofMasthead,
    List.mem_append, List.mem_cons, List.mem_cons, List.mem_map]

/-- **No link of the catalogue has a slash before it** just if neither the link nor the image of the logo is given with
one; all others have lost it. A link without a slash is read from the page after the steps to the root, and its file is
looked up below the directory. -/
theorem catalogue_isUnrooted {doc : Value} {site : Site} (hsite : Config.site doc = .ok site) :
    (∀ link ∈ catalogue site, ¬IsUnrooted link → link = site.masthead.logo.link ∨ link = site.masthead.logo.src) ∧
    ((∀ link ∈ catalogue site, IsUnrooted link) ↔
      ¬GivesRooted (((doc.under "masthead").under "logo").under "link") ∧
        ¬GivesRooted (((doc.under "masthead").under "logo").under "src")) ∧
    ∀ link ∈ catalogue site, IsUnrooted link →
      (∀ page ∈ site.pages.values, IsUnrooted (Path.toRoot page.path ++ link)) ∧
      ∀ dir, target dir link = ⟨dir.anchor, dir.names ++ (Path.parse (withoutFragment link)).names⟩ := by
  obtain ⟨entries, hread⟩ := Config.siteOfEntries_of_site hsite
  obtain ⟨-, -, htoc, hmasthead, -⟩ := Config.siteOfEntries_eq_ok hread
  have hmasthead := Config.masthead_isWellFormed hmasthead
  have hparts := Config.mastheadParts (Config.masthead_of_site hsite)
  obtain ⟨hsrc, hlink⟩ := Config.logo_eq_ok hparts.logo
  have hothers : ∀ link ∈ catalogue site, ¬IsUnrooted link →
      link = site.masthead.logo.link ∨ link = site.masthead.logo.src := by
    intro link hmem hrooted
    obtain hnode | hlogo | hlogo | ⟨e, he, rfl⟩ := (mem_catalogue_iff.1 hmem).2
    · obtain ⟨n, hn, hnode⟩ := mem_ofNodes.1 hnode
      exact absurd (isUnrooted_ofNode ((Config.toc_isWellFormed htoc).2 n hn) link hnode) hrooted
    · exact .inl hlogo
    · exact .inr hlogo
    · exact absurd (isUnrooted_entry hmasthead e he) hrooted
  refine ⟨hothers, ?_, fun link hmem h => ⟨fun page _ => isUnrooted_toRoot_append h page.path, target_of_isUnrooted h⟩⟩
  rw [← isUnrooted_textOr hlink (by decide), ← isUnrooted_textOr hsrc (by decide)]
  constructor
  · intro hall
    have hmember : ∀ link, link = site.masthead.logo.link ∨ link = site.masthead.logo.src → IsUnrooted link := by
      intro link hlogo
      by_cases hempty : link = ""
      · subst hempty
        decide
      · exact hall link (mem_catalogue_iff.2 ⟨hempty, .inr (hlogo.imp_right .inl)⟩)
    exact ⟨hmember _ (.inl rfl), hmember _ (.inr rfl)⟩
  · rintro ⟨hlink, hsrc⟩ link hmem
    by_contra hrooted
    obtain rfl | rfl := hothers link hmem hrooted
    · exact hrooted hlink
    · exact hrooted hsrc

/-- A document with a logo, some settings of it given. -/
def documentWithLogo (settings : Value.Entries) : Value :=
  documentOf ["guide/index.html"] [(.text "masthead", .map [(.text "logo", .map settings)])]

/-- A logo that leads to a page of the site. -/
theorem catalogue_isUnrooted_home : ∃ site,
    Config.site (documentWithLogo [(.text "link", .text " home.html")]) = .ok site ∧
    site.masthead.logo.link = "home.html" ∧ (∀ link ∈ catalogue site, IsUnrooted link) := by
  obtain ⟨site, hsite, hlink⟩ : ∃ site,
      Config.site (documentWithLogo [(.text "link", .text " home.html")]) = .ok site ∧
      site.masthead.logo.link = "home.html" := ⟨_, rfl, rfl⟩
  exact ⟨site, hsite, hlink, (catalogue_isUnrooted hsite).2.1.2 ⟨by decide, by decide⟩⟩

/-- An image with a slash before it is a link of the catalogue, and its file is looked up below the root of the file
system, wherever the site was built. -/
theorem catalogue_isUnrooted_image : ∃ site,
    Config.site (documentWithLogo [(.text "src", .text "/assets/logo.png")]) = .ok site ∧
    "/assets/logo.png" ∈ catalogue site ∧ ¬IsUnrooted "/assets/logo.png" ∧
    ∀ dir, target dir "/assets/logo.png" = ⟨.root, ["assets", "logo.png"]⟩ := by
  obtain ⟨site, hsite, hsrc⟩ : ∃ site,
      Config.site (documentWithLogo [(.text "src", .text "/assets/logo.png")]) = .ok site ∧
      site.masthead.logo.src = "/assets/logo.png" := ⟨_, rfl, rfl⟩
  have hmem : "/assets/logo.png" ∈ catalogue site :=
    mem_catalogue_iff.2 ⟨by decide, .inr (.inr (.inl hsrc.symm))⟩
  exact ⟨site, hsite, hmem, by decide, fun dir => rfl⟩

end GuideSite.Links
