import GuideSite.Proofs.Url.Parts
import GuideSite.Url.Resolve

/-!
# Links from a page to the root and on

A page is published below an address, and its links climb to that address before they lead on. The steps of a link
upwards undo the directories above the page, so the link leads where the address followed by the rest of the link says,
however many segments the address has; a link from the address itself is the case without steps.

* `climb_down_up`: steps upwards undo as many segments.
* `resolvePath_below`: the path that a link leads to.
* `Address.resolve_root`, `Address.resolve_page`: the URL that it leads to.
-/

namespace GuideSite.Url

open GuideSite.Path (IsPathChar IsPlainSegment isPlainChar)

/-! ## Climbing -/

/-- Segments that are no steps are gone through one after the other. -/
theorem climb_append {segments : List (List Char)} (h : ∀ segment ∈ segments, segment ≠ ['.'] ∧ segment ≠ ['.', '.'])
    (above rest : List (List Char)) : climb above (segments ++ rest) = climb (segments.reverse ++ above) rest := by
  induction segments generalizing above with
  | nil => rfl
  | cons segment segments ih =>
    obtain ⟨⟨hhere, hup⟩, hrest⟩ := List.forall_mem_cons.1 h
    rw [List.cons_append, climb, if_neg hup, if_neg hhere, ih hrest, List.reverse_cons, List.append_assoc]
    rfl

/-- Steps upwards undo as many segments. -/
theorem climb_up (n : Nat) (above rest : List (List Char)) :
    climb above (List.replicate n ['.', '.'] ++ rest) = climb (above.drop n) rest := by
  induction n generalizing above with
  | zero => rfl
  | succ n ih => rw [List.replicate_succ, List.cons_append, climb, if_pos rfl, ih, List.drop_tail]

/-- Going down and then up by as many steps leads back. -/
theorem climb_down_up {segments : List (List Char)} (h : ∀ segment ∈ segments, segment ≠ ['.'] ∧ segment ≠ ['.', '.'])
    (above rest : List (List Char)) :
    climb above (segments ++ (List.replicate segments.length ['.', '.'] ++ rest)) = climb above rest := by
  rw [climb_append h, climb_up, ← List.length_reverse, List.drop_left]

/-! ## Paths -/

theorem withoutInnerEmpty_cons (first : List Char) {rest : List (List Char)} (hlast : rest.getLast? ≠ some []) :
    withoutInnerEmpty (first :: rest) = first :: rest.filter (· ≠ []) := by
  rw [withoutInnerEmpty]
  obtain rfl | ⟨inner, last, rfl⟩ := List.eq_nil_or_concat rest
  · rfl
  · have hne : last ≠ [] := by simpa using hlast
    simp [hne]

section Segments

variable {segments : List (List Char)} (h : ∀ segment ∈ segments, IsPlainSegment segment)

include h

theorem filter_ne_nil : segments.filter (· ≠ []) = segments :=
  List.filter_eq_self.2 fun segment hmem => decide_eq_true (h segment hmem).ne_nil

theorem ne_steps : ∀ segment ∈ segments, segment ≠ ['.'] ∧ segment ≠ ['.', '.'] := fun segment hmem =>
  ⟨(h segment hmem).ne_here, (h segment hmem).ne_up⟩

end Segments

/-- A reference with as many steps upwards as there are segments below the root leads to the root and on. -/
theorem resolvePath_of_baseSegments {base path : List Char} {root below links : List (List Char)}
    (hbase : baseSegments base = [] :: (root ++ below)) (hpath : path.head? ≠ some '/')
    (hsegments : segments path = List.replicate (below.filter (· ≠ [])).length ['.', '.'] ++ links)
    (hroot : ∀ segment ∈ root, IsPlainSegment segment)
    (hbelow : ∀ segment ∈ below.filter (· ≠ []), IsPlainSegment segment)
    (hlinks : ∀ segment ∈ links, IsPlainSegment segment) (hne : links ≠ []) :
    resolvePath base path = ['/'].intercalate ([] :: (root ++ links)) := by
  have hlast : (List.replicate (below.filter (· ≠ [])).length ['.', '.'] ++ links).getLast? =
      some (links.getLast hne) := by
    rw [List.getLast?_append_of_ne_nil _ hne, List.getLast?_eq_some_getLast hne]
  have hplain : IsPlainSegment (links.getLast hne) := hlinks _ (List.getLast_mem hne)
  -- The segments to go through: down to the page, up to the root, and on.
  have hparts : withoutInnerEmpty (baseSegments base ++ segments path) = ([] :: root) ++ (below.filter (· ≠ []) ++
      (List.replicate (below.filter (· ≠ [])).length ['.', '.'] ++ links)) := by
    rw [hbase, hsegments, List.cons_append, withoutInnerEmpty_cons]
    · have hup : ∀ n, (List.replicate n ['.', '.']).filter (· ≠ []) = List.replicate n ['.', '.'] := fun n =>
        List.filter_eq_self.2 fun segment hmem => by rw [List.eq_of_mem_replicate hmem]; decide
      rw [List.filter_append, List.filter_append, List.filter_append, filter_ne_nil hroot, filter_ne_nil hlinks, hup]
      simp
    · rw [List.getLast?_append_of_ne_nil _ (by simp [hne]), hlast]
      exact fun heq => hplain.ne_nil (Option.some.inj heq)
  have hclimb : climb [] (withoutInnerEmpty (baseSegments base ++ segments path)) = [] :: (root ++ links) := by
    have hstart : ∀ segment ∈ [] :: root, segment ≠ ['.'] ∧ segment ≠ ['.', '.'] :=
      List.forall_mem_cons.2 ⟨by decide, ne_steps hroot⟩
    rw [hparts, climb_append hstart, climb_down_up (ne_steps hbelow), ← List.append_nil links,
      climb_append (ne_steps hlinks), climb]
    simp
  have hend : (withoutInnerEmpty (baseSegments base ++ segments path)).getLast? = some (links.getLast hne) := by
    rw [hparts, ← List.append_assoc, List.getLast?_append_of_ne_nil _ (by simp [hne]), hlast]
  have hjoined : ['/'].intercalate ([] :: (root ++ links)) ≠ [] := by
    obtain ⟨first, rest, hcons⟩ := List.exists_cons_of_ne_nil (List.append_ne_nil_of_right_ne_nil root hne)
    rw [hcons, List.intercalate_cons_cons]
    simp
  have hstep : ¬(some (links.getLast hne) = some ['.'] ∨ some (links.getLast hne) = some ['.', '.']) := by
    rintro (hhere | hup)
    · exact hplain.ne_here (Option.some.inj hhere)
    · exact hplain.ne_up (Option.some.inj hup)
  rw [resolvePath, if_neg hpath, hclimb, hend, if_neg hstep, if_neg hjoined]

section Below

variable {root : List Char} {names : List (List Char)} (hroot : root.splitOn '/' = [] :: names)

include hroot

theorem baseSegments_root : baseSegments (root ++ ['/']) = [] :: (names ++ [[]]) := by
  have hsegments : segments (root ++ ['/']) = [] :: (names ++ [[]]) := by
    rw [segments, List.splitOn_append_cons_self, hroot]
    rfl
  rw [baseSegments, hsegments, if_pos]
  rw [← List.cons_append, List.getLast?_append_of_ne_nil _ (by simp)]
  rfl

theorem baseSegments_page {page : String} (hpage : Path.IsPlainPath page) :
    baseSegments (root ++ '/' :: page.toList) = [] :: (names ++ (page.toList.splitOn '/').dropLast) := by
  have hne := List.splitOn_ne_nil '/' page.toList
  have hlast : (page.toList.splitOn '/').getLast? ≠ some [] := fun hnil =>
    (hpage [] (List.mem_of_getLast? hnil)).ne_nil rfl
  have hsegments : segments (root ++ '/' :: page.toList) = ([] :: names) ++ page.toList.splitOn '/' := by
    rw [segments, List.splitOn_append_cons_self, hroot]
  rw [baseSegments, hsegments, if_neg, List.dropLast_append_of_ne_nil hne]
  · rfl
  · rw [List.getLast?_append_of_ne_nil _ hne]
    exact hlast

/-- From below the root a path with the steps to it leads to the same place as the path from the root. -/
theorem resolvePath_below {page : List Char} {below : List (List Char)} {link : String}
    (hbase : baseSegments (root ++ '/' :: page) = [] :: (names ++ below))
    (hnames : ∀ segment ∈ names, IsPlainSegment segment)
    (hbelow : ∀ segment ∈ below.filter (· ≠ []), IsPlainSegment segment) (hlink : Path.IsPlainPath link) :
    resolvePath (root ++ '/' :: page) ((Path.climb (below.filter (· ≠ [])).length ++ link).toList) =
      root ++ '/' :: link.toList := by
  have hlinkne := List.splitOn_ne_nil '/' link.toList
  have htarget : (root ++ '/' :: link.toList).splitOn '/' = [] :: (names ++ link.toList.splitOn '/') := by
    rw [List.splitOn_append_cons_self, hroot]
    rfl
  rw [resolvePath_of_baseSegments hbase _ _ hnames hbelow hlink hlinkne, ← htarget, List.intercalate_splitOn]
  · exact hlink.head?_climb _
  · rw [String.toList_append, segments, Path.splitOn_climb_append]

end Below

/-! ## Addresses -/

theorem chars_address {scheme : String} (hscheme : scheme ∈ webSchemes) {host : List Char} (hhost : host ≠ [])
    (path fragment : List Char) :
    chars ⟨scheme.toList, host, '/' :: path, [], [], fragment⟩ =
      address scheme host ('/' :: path) ++ part '#' fragment := by
  have hne : ∀ scheme ∈ webSchemes, scheme.toList ≠ [] := by decide
  rw [chars, authorityAndPath]
  simp [hne scheme hscheme, hhost, part, address]

theorem resolveParts?_address {scheme : String} (hscheme : scheme ∈ webSchemes) {host base path : List Char}
    (hpath : path ≠ []) (fragment : List Char) :
    resolveParts? ⟨scheme.toList, host, base, [], [], []⟩ ⟨scheme.toList, [], path, [], [], fragment⟩ =
      some ⟨scheme.toList, host, resolvePath base path, [], [], fragment⟩ := by
  have hknown : ∀ scheme ∈ webSchemes,
      schemeIn relativeSchemes scheme.toList = true ∧ schemeIn authoritySchemes scheme.toList = true := by decide
  obtain ⟨hrelative, hauthority⟩ := hknown scheme hscheme
  simp [resolveParts?, hrelative, hauthority, hpath]

/-- A relative reference leads to another path of the host. -/
theorem resolve_address {scheme : String} (hscheme : scheme ∈ webSchemes) {host base path fragment target : List Char}
    (hne : host ≠ []) (hhost : ∀ c ∈ host, isHostChar c = true) (hbase : ∀ c ∈ base, IsPathChar c)
    (hpath : ∀ c ∈ path, IsPathChar c) (hrelative : path.head? ≠ some '/') (hpathne : path ≠ [])
    (hfragment : ∀ c ∈ fragment, isPlainChar c = true) (htarget : resolvePath ('/' :: base) path = '/' :: target) :
    resolve (String.ofList (address scheme host ('/' :: base))) (String.ofList (path ++ part '#' fragment)) =
      .ok (String.ofList (address scheme host ('/' :: target) ++ part '#' fragment)) := by
  have hbasene : String.ofList (address scheme host ('/' :: base)) ≠ "" := fun hempty => by
    simpa [address] using String.ofList_eq_empty_iff.1 hempty
  have hrefne : String.ofList (path ++ part '#' fragment) ≠ "" := fun hempty =>
    hpathne (List.append_eq_nil_iff.1 (String.ofList_eq_empty_iff.1 hempty)).1
  rw [resolve, if_neg hbasene, if_neg hrefne, String.toList_ofList, String.toList_ofList,
    parse_address hscheme hhost hbase]
  dsimp only [bind, Except.bind]
  rw [parse_reference scheme.toList hpath hrelative hfragment]
  dsimp only
  rw [resolveParts?_address hscheme hpathne, htarget]
  dsimp only
  rw [chars_address hscheme hne]
  rfl

/-- The address of a web site, without a slash at its end: a host, and a plain path there or none. -/
structure Address where
  scheme : String
  host : String
  path : String
  isWeb : scheme ∈ webSchemes
  host_ne : host ≠ ""
  host_chars : ∀ c ∈ host.toList, isHostChar c = true
  path_plain : path = "" ∨ ∃ plain, Path.IsPlainPath plain ∧ path = "/" ++ plain

namespace Address

/-- The text of an address. -/
def text (a : Address) : String := a.scheme ++ "://" ++ a.host ++ a.path

variable (a : Address)

theorem toList_text_append (s : String) :
    (a.text ++ "/" ++ s).toList = address a.scheme a.host.toList (a.path.toList ++ '/' :: s.toList) := by
  simp [text, address, String.toList_append]

/-- The path has a name between slashes, after the first one. -/
theorem exists_splitOn_path :
    ∃ names, a.path.toList.splitOn '/' = [] :: names ∧ ∀ segment ∈ names, IsPlainSegment segment := by
  obtain hpath | ⟨plain, hplain, hpath⟩ := a.path_plain
  · rw [hpath]
    exact ⟨[], rfl, nofun⟩
  · refine ⟨plain.toList.splitOn '/', ?_, hplain⟩
    rw [hpath, String.toList_append]
    exact List.splitOn_append_cons_self [] plain.toList

theorem chars_path : ∀ c ∈ a.path.toList, IsPathChar c := by
  obtain hpath | ⟨plain, hplain, hpath⟩ := a.path_plain
  · rw [hpath]
    exact nofun
  · rw [hpath, String.toList_append]
    exact List.forall_mem_cons.2 ⟨.inl rfl, hplain.chars⟩

/-- The path starts with a slash, like the one after it. -/
theorem exists_path_append (cs : List Char) : ∃ rest, a.path.toList ++ '/' :: cs = '/' :: rest := by
  obtain hpath | ⟨plain, hplain, hpath⟩ := a.path_plain
  · exact ⟨cs, by rw [hpath]; rfl⟩
  · exact ⟨plain.toList ++ '/' :: cs, by rw [hpath, String.toList_append]; rfl⟩

/-- From below the address a link with the steps to it leads to the same place as the link from the address. -/
theorem resolve_below {page link : String} {below : List (List Char)} {fragment : List Char}
    (hpage : ∀ c ∈ page.toList, IsPathChar c)
    (hbase : ∀ names, a.path.toList.splitOn '/' = [] :: names →
      baseSegments (a.path.toList ++ '/' :: page.toList) = [] :: (names ++ below))
    (hbelow : ∀ segment ∈ below.filter (· ≠ []), IsPlainSegment segment) (hlink : Path.IsPlainPath link)
    (hfragment : ∀ c ∈ fragment, isPlainChar c = true) :
    resolve (a.text ++ "/" ++ page)
        (Path.climb (below.filter (· ≠ [])).length ++ (link ++ String.ofList (part '#' fragment))) =
      .ok (a.text ++ "/" ++ (link ++ String.ofList (part '#' fragment))) := by
  obtain ⟨names, hnames, hplain⟩ := a.exists_splitOn_path
  have htarget := resolvePath_below hnames (hbase names hnames) hplain hbelow hlink
  obtain ⟨base, hpath⟩ := a.exists_path_append page.toList
  obtain ⟨target, htargetpath⟩ := a.exists_path_append link.toList
  rw [hpath, htargetpath] at htarget
  have hbasechars : ∀ c ∈ base, IsPathChar c := by
    have hall : ∀ c ∈ a.path.toList ++ '/' :: page.toList, IsPathChar c :=
      List.forall_mem_append.2 ⟨a.chars_path, List.forall_mem_cons.2 ⟨.inl rfl, hpage⟩⟩
    rw [hpath] at hall
    exact (List.forall_mem_cons.1 hall).2
  have hhost : a.host.toList ≠ [] := fun hnil => a.host_ne (String.toList_eq_nil_iff.1 hnil)
  have hresolved := resolve_address a.isWeb hhost a.host_chars hbasechars (hlink.chars_climb _)
    (hlink.head?_climb _) (hlink.climb_ne_nil _) hfragment htarget
  have hfrom : String.ofList (address a.scheme a.host.toList ('/' :: base)) = a.text ++ "/" ++ page := by
    rw [← hpath, ← toList_text_append, String.ofList_toList]
  have hreference : String.ofList ((Path.climb (below.filter (· ≠ [])).length ++ link).toList ++ part '#' fragment) =
      Path.climb (below.filter (· ≠ [])).length ++ (link ++ String.ofList (part '#' fragment)) := by
    rw [String.ofList_append, String.ofList_toList, String.append_assoc]
  have hto : String.ofList (address a.scheme a.host.toList ('/' :: target) ++ part '#' fragment) =
      a.text ++ "/" ++ (link ++ String.ofList (part '#' fragment)) := by
    rw [← htargetpath, ← toList_text_append, String.ofList_append, String.ofList_toList, String.append_assoc]
  rw [hfrom, hreference, hto] at hresolved
  exact hresolved

section Links

variable {link : String} (hlink : Path.IsPlainPath link) {fragment : List Char}
  (hfragment : ∀ c ∈ fragment, isPlainChar c = true)

include hlink hfragment

/-- **A link from the root** leads below the root. -/
theorem resolve_root :
    resolve (a.text ++ "/") (link ++ String.ofList (part '#' fragment)) =
      .ok (a.text ++ "/" ++ (link ++ String.ofList (part '#' fragment))) := by
  have hbelow : ∀ segment ∈ [[]].filter (· ≠ ([] : List Char)), IsPlainSegment segment := nofun
  have hresolved := @resolve_below a "" link [[]] fragment nofun (fun _ hnames => baseSegments_root hnames) hbelow hlink
    hfragment
  rw [String.append_empty] at hresolved
  exact hresolved

/-- **A link from a page**, with the steps of the page to the root, leads below the root. -/
theorem resolve_page {page : String} (hpage : Path.IsPlainPath page) :
    resolve (a.text ++ "/" ++ page) (Path.toRoot page ++ (link ++ String.ofList (part '#' fragment))) =
      .ok (a.text ++ "/" ++ (link ++ String.ofList (part '#' fragment))) := by
  have hall : ∀ segment ∈ (page.toList.splitOn '/').dropLast, IsPlainSegment segment := fun segment hmem =>
    hpage segment ((List.dropLast_sublist _).subset hmem)
  have hkeep := filter_ne_nil hall
  have hresolved := @resolve_below a page link (page.toList.splitOn '/').dropLast fragment hpage.chars
    (fun _ hnames => baseSegments_page hnames hpage) (by rwa [hkeep]) hlink hfragment
  rw [hkeep, List.length_dropLast, ← Path.toRoot_of_isPlainPath hpage] at hresolved
  exact hresolved

end Links

theorem getLast?_text : a.text.toList.getLast? ≠ some '/' := by
  have hhost : a.host.toList ≠ [] := fun hnil => a.host_ne (String.toList_eq_nil_iff.1 hnil)
  obtain hpath | ⟨plain, hplain, hpath⟩ := a.path_plain
  · rw [text, hpath, String.append_empty, String.toList_append, List.getLast?_append_of_ne_nil _ hhost]
    exact fun hlast => absurd (a.host_chars '/' (List.mem_of_getLast? hlast)) (by decide)
  · have hne : plain.toList ≠ [] := fun hnil => hplain.ne_empty (String.toList_eq_nil_iff.1 hnil)
    rw [text, hpath, ← String.append_assoc, String.toList_append, List.getLast?_append_of_ne_nil _ hne]
    exact hplain.getLast?_ne

/-- An address holds no place in a file. -/
theorem not_mem_text : '#' ∉ (a.text ++ "/").toList := by
  have hscheme : ∀ scheme ∈ webSchemes, '#' ∉ scheme.toList := by decide
  have htext := a.toList_text_append ""
  rw [String.append_empty] at htext
  rw [htext, address]
  simp only [List.mem_append, List.mem_cons, not_or]
  refine ⟨hscheme _ a.isWeb, by decide, by decide, by decide, fun hmem => ?_, ?_, by decide, by decide⟩
  · exact absurd (a.host_chars _ hmem) (by decide)
  · exact Path.not_mem_of_isPathChar a.chars_path (by decide) (by decide)

end Address

end GuideSite.Url
