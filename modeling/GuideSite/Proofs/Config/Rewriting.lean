import GuideSite.Proofs.Config.TocChecks
import GuideSite.Proofs.Config.WellFormed
import GuideSite.Proofs.Data.Dictionary
import GuideSite.Proofs.Links.Rooted

/-!
# Writing a table of contents back

The nodes of a table of contents can be written back as entries that give their titles, links, labels and children.
Titles and labels have nothing left to trim, so what is read of these entries differs from the nodes in their links
alone. A link lost its slashes after it was trimmed: what followed them may start with blanks, which are trimmed now,
and then with slashes, which are lost too, or be nothing at all, and then the link is missing.

* `labels_ofLabels`: labels that are read again.
* `tocNode_ofNode`: nodes that are read again, by recursion on the nodes.
* `rereadAll_eq_ok_iff`, `rereadAll_eq_self_iff`: when anything is read, and when it is what was written.
* `toc_ofNodes`: tables of contents.
-/

namespace GuideSite

open Text (IsTrimmed)

/-! ## Entries of nodes -/

namespace Value

/-- The mapping of languages to texts that says the same as some labels. -/
def ofLabels (labels : Dictionary String) : Value :=
  map (labels.entries.map fun entry => (text entry.1, text entry.2))

mutual

/-- The entry that says the same as a node. -/
def ofNode : NavNode → Value
  | ⟨title, link, labels, children⟩ => map [
    (text "title", text title), (text "link", text link), (text "labels", ofLabels labels),
    (text "children", list (ofNodes children))]

/-- The entries of a list of nodes. -/
def ofNodes : List NavNode → List Value
  | [] => []
  | n :: ns => ofNode n :: ofNodes ns

end

end Value

/-! ## Nodes that are read again -/

namespace NavNode

mutual

/-- What is read of the entry of a node: its link is trimmed and loses its slashes once more. -/
def reread : NavNode → Except Error NavNode
  | ⟨title, link, labels, children⟩ =>
    if Text.strip link = "" then .error (.config (.missing (.tocEntry title) "link"))
    else rereadAll children >>= fun below => .ok ⟨title, Text.dropSlashes (Text.strip link), labels, below⟩

/-- What is read of the entries of a list of nodes, up to the first without a link. -/
def rereadAll : List NavNode → Except Error (List NavNode)
  | [] => .ok []
  | n :: ns => reread n >>= fun first => rereadAll ns >>= fun rest => .ok (first :: rest)

end

end NavNode

namespace Config

/-! ## Reading labels and texts again -/

theorem optionalText_text {s : String} (h : IsTrimmed s) : optionalText (.text s) = .ok (some s) := by
  have hread : optionalText (.text s) = .ok (if Text.strip s = "" then none else some (Text.strip s)) := rfl
  rw [hread, h.strip_eq, if_neg h.ne_empty]

theorem requiredText_text (place : Place) (field s : String) : requiredText place field (.text s) =
    if Text.strip s = "" then .error (.config (.missing place field)) else .ok (Text.strip s) := by
  have hread : optionalText (.text s) = .ok (if Text.strip s = "" then none else some (Text.strip s)) := rfl
  rw [requiredText, bind_of_ok hread]
  by_cases h : Text.strip s = ""
  · rw [if_pos h, if_pos h]
    rfl
  · rw [if_neg h, if_neg h]
    rfl

/-- Labels in different languages are kept in their places. -/
theorem labels_ofLabels (place : Place) {known : Dictionary String} (h : AreTrimmed known) :
    labels place (.ofLabels known) = .ok known := by
  have hput : ∀ (es : List (String × String)) (read : Dictionary String),
      (∀ e ∈ es, IsTrimmed e.1 ∧ IsTrimmed e.2) →
      (es.map fun e => (Value.text e.1, Value.text e.2)).foldlM putLabel read =
        .ok (es.foldl (fun d e => d.insert e.1 e.2) read) := by
    intro es
    induction es with
    | nil => exact fun _ _ => rfl
    | cons e es ih =>
      intro read hes
      obtain ⟨⟨hlanguage, htext⟩, hes⟩ := List.forall_mem_cons.1 hes
      have hfirst : putLabel read (.text e.1, .text e.2) = .ok (read.insert e.1 e.2) := by
        rw [putLabel, bind_of_ok (optionalText_text hlanguage), bind_of_ok (optionalText_text htext)]
        rfl
      rw [List.map_cons, List.foldlM_cons, bind_of_ok hfirst, ih _ hes]
      rfl
  have hread : labels place (.ofLabels known) =
      (known.entries.map fun e => (Value.text e.1, Value.text e.2)).foldlM putLabel ∅ := rfl
  have hkept : Dictionary.ofList known.entries = known :=
    Dictionary.eq_of_entries (Dictionary.entries_ofList_iff.2 known.nodup)
  rw [hread, hput known.entries ∅ h]
  exact congrArg Except.ok hkept

/-! ## Reading nodes again -/

/-- What is read of an entry, if what is read of those below it is known. -/
theorem tocNode_entry {depth : Nat} (trail : List Nat) {title link : String} {known : Dictionary String}
    {below : List Value} {children : Except Error (List NavNode)} (htitle : IsTrimmed title) (hknown : AreTrimmed known)
    (hstandard : Language.standard ∉ known.keys)
    (hbelow : (below.zipIdx.mapM fun (child, i) => tocNode depth (trail ++ [i]) child) = children) :
    tocNode (depth + 1) trail (.map [(.text "title", .text title), (.text "link", .text link),
        (.text "labels", .ofLabels known), (.text "children", .list below)]) =
      if Text.strip link = "" then .error (.config (.missing (.tocEntry title) "link"))
      else children >>= fun found => .ok ⟨title, Text.dropSlashes (Text.strip link), known, found⟩ := by
  set entries : Value.Entries := [(.text "title", .text title), (.text "link", .text link),
    (.text "labels", .ofLabels known), (.text "children", .list below)] with hentries
  have hlabels : labels (.tocEntryAt trail) (Value.get entries "labels") = .ok known :=
    labels_ofLabels _ hknown
  have hgiven : optionalText (Value.get entries "title") = .ok (some title) := optionalText_text htitle
  have htitle : tocTitle trail entries known = .ok title := by
    rw [tocTitle, bind_of_ok hgiven]
    rfl
  have hlink : requiredText (.tocEntry title) "link" (Value.get entries "link") =
      if Text.strip link = "" then .error (.config (.missing (.tocEntry title) "link")) else .ok (Text.strip link) :=
    requiredText_text _ _ link
  have hchildren : tocChildren title (Value.get entries "children") = .ok below := rfl
  have hmapping : (Value.map entries).entries? = some entries := rfl
  rw [tocNode, hmapping]
  dsimp only
  rw [bind_of_ok hlabels, bind_of_ok htitle, hlink]
  by_cases h : Text.strip link = ""
  · rw [if_pos h, if_pos h]
    rfl
  · rw [if_neg h, if_neg h, bind_of_ok rfl, bind_of_ok hchildren, hbelow, Dictionary.erase_of_not_mem hstandard]
    rfl

mutual

theorem tocNode_ofNode (depth : Nat) (trail : List Nat) : ∀ n : NavNode, n.IsWellFormed →
    (Value.ofNode n).size ≤ depth → tocNode depth trail (.ofNode n) = n.reread
  | ⟨title, link, known, children⟩, .intro htitle _ hknown hstandard hchildren, hdepth => by
    rw [Value.ofNode] at hdepth ⊢
    simp only [Value.size, Value.sizeEntries] at hdepth
    obtain ⟨depth, rfl⟩ : ∃ d, depth = d + 1 := ⟨depth - 1, by omega⟩
    rw [NavNode.reread]
    exact tocNode_entry trail htitle hknown hstandard
      (mapM_tocNode_ofNodes depth trail 0 children hchildren (by omega))

theorem mapM_tocNode_ofNodes (depth : Nat) (trail : List Nat) (start : Nat) : ∀ ns : List NavNode,
    (∀ n ∈ ns, n.IsWellFormed) → Value.sizeItems (Value.ofNodes ns) ≤ depth →
    (((Value.ofNodes ns).zipIdx start).mapM fun (child, i) => tocNode depth (trail ++ [i]) child) =
      NavNode.rereadAll ns
  | [], _, _ => rfl
  | n :: ns, h, hdepth => by
    obtain ⟨hn, hns⟩ := List.forall_mem_cons.1 h
    rw [Value.ofNodes, Value.sizeItems] at hdepth
    have hfirst := tocNode_ofNode depth (trail ++ [start]) n hn (by omega)
    have hrest := mapM_tocNode_ofNodes depth trail (start + 1) ns hns (by omega)
    rw [Value.ofNodes, List.zipIdx_cons, List.mapM_cons, hrest, NavNode.rereadAll, ← hfirst]
    rfl

end

end Config

/-! ## Links that change -/

theorem dropSlashes_of_isUnrooted {link : String} (h : IsUnrooted link) : Text.dropSlashes link = link := by
  rw [IsUnrooted, List.head?_eq_getElem?] at h
  rw [Text.dropSlashes, List.dropWhile_eq_self_iff.2 fun hlength => ?_, String.ofList_toList]
  rw [List.getElem?_eq_getElem hlength] at h
  simpa using h

/-- Trimming and losing slashes make a text no longer, so what both of them leave as it is, each of them does. -/
theorem strip_eq_of_dropSlashes_strip {link : String} (h : Text.dropSlashes (Text.strip link) = link) :
    Text.strip link = link := by
  have hchars : (Text.strip link).toList.dropWhile (· == '/') = link.toList := by
    have hlist := congrArg String.toList h
    rwa [Text.dropSlashes, String.toList_ofList] at hlist
  have hstrip : (Text.strip link).toList <:+: link.toList := by
    rw [Text.strip, String.toList_ofList]
    exact (List.rdropWhile_prefix Text.isBlank _).isInfix.trans (List.dropWhile_suffix _).isInfix
  have hslashes : link.toList <:+ (Text.strip link).toList := by
    rw [← hchars]
    exact List.dropWhile_suffix _
  exact String.toList_injective (hstrip.sublist.antisymm hslashes.sublist)

/-- A link without a slash before it stays as it is just if it is trimmed. -/
theorem reread_link_iff {link : String} (h : IsUnrooted link) :
    Text.strip link ≠ "" ∧ Text.dropSlashes (Text.strip link) = link ↔ IsTrimmed link := by
  constructor
  · rintro ⟨hne, hsame⟩
    rw [← strip_eq_of_dropSlashes_strip hsame]
    exact Text.isTrimmed_strip hne
  · intro htrimmed
    rw [htrimmed.strip_eq]
    exact ⟨htrimmed.ne_empty, dropSlashes_of_isUnrooted h⟩

namespace NavNode

mutual

theorem exists_reread_iff : ∀ n : NavNode,
    (∃ again, n.reread = .ok again) ↔ ∀ link ∈ Links.ofNode n, Text.strip link ≠ ""
  | ⟨title, link, labels, children⟩ => by
    rw [reread, Links.ofNode, List.forall_mem_cons, ← exists_rereadAll_iff children]
    by_cases h : Text.strip link = ""
    · simp [h]
    · simp [h, bind_eq_ok]

/-- Something is read just if no link is blank. -/
theorem exists_rereadAll_iff : ∀ ns : List NavNode,
    (∃ again, rereadAll ns = .ok again) ↔ ∀ link ∈ Links.ofNodes ns, Text.strip link ≠ ""
  | [] => by simp [rereadAll, Links.ofNodes]
  | n :: ns => by
    rw [Links.ofNodes, List.forall_mem_append, ← exists_reread_iff n, ← exists_rereadAll_iff ns, rereadAll]
    simp [bind_eq_ok]

end

mutual

theorem reread_eq_self_iff : ∀ n : NavNode, n.reread = .ok n ↔
    ∀ link ∈ Links.ofNode n, Text.strip link ≠ "" ∧ Text.dropSlashes (Text.strip link) = link
  | ⟨title, link, labels, children⟩ => by
    rw [reread, Links.ofNode, List.forall_mem_cons, ← rereadAll_eq_self_iff children]
    by_cases h : Text.strip link = ""
    · simp [h]
    · simp [h, bind_eq_ok, and_comm]

/-- What is read is what was written just if every link stays as it is. -/
theorem rereadAll_eq_self_iff : ∀ ns : List NavNode, rereadAll ns = .ok ns ↔
    ∀ link ∈ Links.ofNodes ns, Text.strip link ≠ "" ∧ Text.dropSlashes (Text.strip link) = link
  | [] => by simp [rereadAll, Links.ofNodes]
  | n :: ns => by
    rw [Links.ofNodes, List.forall_mem_append, ← reread_eq_self_iff n, ← rereadAll_eq_self_iff ns, rereadAll]
    simp [bind_eq_ok]

end

end NavNode

namespace Config

/-! ## Tables of contents -/

/-- What is left of a trimmed text without the slashes before it. -/
def LosesSlashes (link : String) : Prop := ∃ given, IsTrimmed given ∧ link = Text.dropSlashes given

/-- Nothing blank is left but the empty text. -/
theorem LosesSlashes.strip_eq_empty_iff {link : String} (h : LosesSlashes link) : Text.strip link = "" ↔ link = "" := by
  obtain ⟨given, hgiven, rfl⟩ := h
  refine ⟨fun hblank => ?_, fun hempty => by rw [hempty]; rfl⟩
  have hends := hgiven.ends.dropSlashes
  by_contra hne
  rw [Text.strip_eq_dropBlanks hends, Text.dropBlanks, String.ofList_eq_empty_iff, List.dropWhile_eq_nil_iff] at hblank
  have hchars : (Text.dropSlashes given).toList ≠ [] := fun hnil => hne (String.toList_eq_nil_iff.1 hnil)
  have hlast := hends hchars
  rw [hblank _ (List.getLast_mem hchars)] at hlast
  cases hlast

mutual

theorem losesSlashes_ofNode : ∀ {n : NavNode} {v : Value}, Describes v n → ∀ link ∈ Links.ofNode n, LosesSlashes link
  | ⟨title, link, labels, children⟩, v, .intro _ hlink _ hchildren => by
    obtain ⟨given, ⟨-, shown, -, rfl, hne⟩, hlink⟩ := hlink
    have hself : LosesSlashes link := ⟨Text.strip shown, Text.isTrimmed_strip hne, hlink⟩
    have hbelow : ∀ link ∈ Links.ofNodes children, LosesSlashes link := losesSlashes_ofNodes hchildren
    rw [Links.ofNode, List.forall_mem_cons]
    exact ⟨hself, hbelow⟩

theorem losesSlashes_ofNodes : ∀ {ns : List NavNode} {vs : List Value}, List.Forall₂ Describes vs ns →
    ∀ link ∈ Links.ofNodes ns, LosesSlashes link
  | [], _, _ => nofun
  | n :: ns, _, .cons hn hns => by
    rw [Links.ofNodes, List.forall_mem_append]
    exact ⟨losesSlashes_ofNode hn, losesSlashes_ofNodes hns⟩

end

/-- **Writing a table of contents back and reading it again.** What is read of the entries of the nodes is the nodes
with their links trimmed once more, or the error of the first node without a link. So the nodes are read again just if
each has a link, and without a change just if every link is trimmed. A link of the nodes is what is left of a trimmed
text without its slashes: it is blank only if it is empty, which it is if nothing followed the slashes, and it is not
trimmed if blanks did. -/
theorem toc_ofNodes {v : Value} {nodes : List NavNode} (h : toc v = .ok nodes) :
    toc (.list (Value.ofNodes nodes)) = NavNode.rereadAll nodes ∧
    ((∃ again, toc (.list (Value.ofNodes nodes)) = .ok again) ↔ "" ∉ Links.ofNodes nodes) ∧
    (toc (.list (Value.ofNodes nodes)) = .ok nodes ↔ ∀ link ∈ Links.ofNodes nodes, IsTrimmed link) ∧
    ∀ link ∈ Links.ofNodes nodes, LosesSlashes link ∧ (Text.strip link = "" ↔ link = "") := by
  obtain ⟨hne, hforms⟩ := toc_isWellFormed h
  have hlinks := losesSlashes_ofNodes (isToc_of_toc h).2
  have hread : toc (.list (Value.ofNodes nodes)) = NavNode.rereadAll nodes := by
    rw [← mapM_tocNode_ofNodes _ [] 0 nodes hforms (Nat.le_refl _)]
    -- A table of contents without entries is an error of its own.
    obtain ⟨first, rest, rfl⟩ := List.exists_cons_of_ne_nil hne
    rfl
  refine ⟨hread, ?_, ?_, fun link hlink => ⟨hlinks link hlink, (hlinks link hlink).strip_eq_empty_iff⟩⟩
  · rw [hread, NavNode.exists_rereadAll_iff, ← List.forall_mem_ne']
    exact forall₂_congr fun link hlink => not_congr (hlinks link hlink).strip_eq_empty_iff
  · rw [hread, NavNode.rereadAll_eq_self_iff]
    refine forall₂_congr fun link hlink => reread_link_iff ?_
    obtain ⟨n, hn, hlink⟩ := Links.mem_ofNodes.1 hlink
    exact Links.isUnrooted_ofNode (hforms n hn) link hlink

/-- Two entries, one below the other, with links that have blanks and slashes to lose. -/
def rootedEntries (link linkBelow : String) : Value := .list [.map [
  (.text "link", .text link),
  (.text "labels", .map [(.text " de ", .text " Handbuch"), (.text "en", .text "Guide "), (.text "fr", .null)]),
  (.text "children", .list [.map [(.text "title", .bool true), (.text "link", .text linkBelow)]])]]

/-- These links are trimmed, so the nodes are read again. -/
theorem toc_ofNodes_rooted : ∃ nodes, toc (rootedEntries " //guide/ " "/true.html\t") = .ok nodes ∧
    Links.ofNodes nodes = ["guide/", "true.html"] ∧ toc (.list (Value.ofNodes nodes)) = .ok nodes :=
  ⟨_, rfl, rfl, (toc_ofNodes (v := rootedEntries " //guide/ " "/true.html\t") rfl).2.2.1.2 (by decide)⟩

/-- Of a slash alone no link is left, and the nodes cannot be read again; a blank after it is lost when they are. -/
theorem toc_ofNodes_slash :
    (∃ nodes, toc (rootedEntries "guide/" "/") = .ok nodes ∧ Links.ofNodes nodes = ["guide/", ""] ∧
      toc (.list (Value.ofNodes nodes)) = .error (.config (.missing (.tocEntry "True") "link"))) ∧
    ∃ nodes again, toc (rootedEntries "/ guide/" "true.html") = .ok nodes ∧
      Links.ofNodes nodes = [" guide/", "true.html"] ∧ toc (.list (Value.ofNodes nodes)) = .ok again ∧
        Links.ofNodes again = ["guide/", "true.html"] :=
  ⟨⟨_, rfl, rfl, rfl⟩, _, _, rfl, rfl, rfl, rfl⟩

end Config

end GuideSite
