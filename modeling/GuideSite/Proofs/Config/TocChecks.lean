import GuideSite.Proofs.Config.Raising
import GuideSite.Proofs.Config.Texts
import GuideSite.Proofs.Data.Dictionary

/-!
# The checks of a table of contents

The `toc` setting is accepted if it is a list with entries and each of them, at any depth, passes five checks of its
own. Otherwise it ends with the error of the first entry that fails one, in the order of the document, and of its checks
the first that it fails. Entries have positions, lists of indices with the outermost first; the order of the document is
the lexicographic order of the positions, in which an entry comes before the entries below it.

* `TocCheck`, `Stops`, `Raises`: the checks, the first one that an entry fails, and the error of it.
* `tocNode_cases`: what happens at one entry.
* `tocNode_outcome`: what happens at an entry and those below it.
* `toc_outcome`: tables of contents.
-/

namespace GuideSite

open Config (Labels AreShown)

namespace Value

/-! ## Positions -/

/-- The entries below an entry. -/
def tocBelow (v : Value) : List Value := (v.under "children").items?.getD []

/-- The entry at a position below an entry; the entry itself is at the empty position. -/
def descendant? : Value → List Nat → Option Value
  | v, [] => some v
  | v, i :: position => (v.tocBelow[i]?).bind fun child => child.descendant? position

/-- The entry at a position of a list of entries. -/
def entryAt? (items : List Value) : List Nat → Option Value
  | [] => none
  | i :: position => (items[i]?).bind fun entry => entry.descendant? position

/-! ## Checks -/

/-- The title of an entry: its own, or its label in the standard language. -/
def HasTitle (v : Value) (title : String) : Prop :=
  (v.under "title").GivesText title ∨
    (v.under "title").IsBlank ∧ Labels ((v.under "labels").entries?.getD []) Language.standard title

end Value

/-- What is checked of an entry. -/
inductive TocCheck
  | mapping
  | labels
  | title
  | link
  | children
  deriving DecidableEq, Repr

namespace TocCheck

/-- The order of the checks. -/
def inOrder : List TocCheck := [mapping, labels, title, link, children]

/-- The entry passes the check. -/
def Passes (v : Value) : TocCheck → Prop
  | mapping => ∃ entries, v.entries? = some entries
  | labels => v.under "labels" = .null ∨ ∃ entries, (v.under "labels").entries? = some entries ∧ AreShown entries
  | title => ∃ title, v.HasTitle title
  | link => ∃ link, (v.under "link").GivesText link
  | children => (∃ items, (v.under "children").items? = some items) ∨ (v.under "children").isVoid = true

/-- The check is the first that the entry fails. -/
def Stops (v : Value) (check : TocCheck) : Prop :=
  ∃ before after, inOrder = before ++ check :: after ∧ (∀ passed ∈ before, passed.Passes v) ∧ ¬check.Passes v

/-- The error of a check that the entry at a position fails. Where the text of an integer with too many digits is asked
for, the error is about this. -/
inductive Raises (position : List Nat) (v : Value) : TocCheck → Error → Prop
  | mapping : Raises position v .mapping (.config (.tocEntry position))
  | labels (h : (v.under "labels").entries? = none) :
      Raises position v .labels (.config (.translations (.tocEntryAt position)))
  | unshownLabel {entries : Value.Entries} (hentries : (v.under "labels").entries? = some entries)
      (h : ¬AreShown entries) : Raises position v .labels .longInteger
  | title (h : (v.under "title").IsBlank) : Raises position v .title (.config (.missing (.tocEntryAt position) "title"))
  | unshownTitle (h : ¬(v.under "title").IsShown) : Raises position v .title .longInteger
  | link {title : String} (htitle : v.HasTitle title) (h : (v.under "link").IsBlank) :
      Raises position v .link (.config (.missing (.tocEntry title) "link"))
  | unshownLink (h : ¬(v.under "link").IsShown) : Raises position v .link .longInteger
  | children {title : String} (htitle : v.HasTitle title) :
      Raises position v .children (.config (.tocChildren title))

end TocCheck

open TocCheck (Stops)
open Value (entryAt?)

namespace Value

/-- The entry passes all checks. -/
def IsTocEntry (v : Value) : Prop := ∀ check : TocCheck, check.Passes v

/-- The entry and all entries below it pass all checks. -/
def IsTocTree (v : Value) : Prop := ∀ position w, v.descendant? position = some w → w.IsTocEntry

/-- The value is a list with entries, and the entries at all positions pass all checks. -/
def IsToc (v : Value) : Prop :=
  ∃ items, v.items? = some items ∧ items ≠ [] ∧ ∀ position w, entryAt? items position = some w → w.IsTocEntry

/-- The positions of a list are those of its items. -/
theorem forall_entryAt?_iff {items : List Value} :
    (∀ position w, entryAt? items position = some w → w.IsTocEntry) ↔ ∀ v ∈ items, v.IsTocTree := by
  constructor
  · intro h v hv position w hw
    obtain ⟨i, hi⟩ := List.mem_iff_getElem?.1 hv
    refine h (i :: position) w ?_
    rw [entryAt?, hi]
    exact hw
  · intro h position w hw
    cases position with
    | nil => cases hw
    | cons i position =>
      obtain ⟨v, hv, hw⟩ := Option.bind_eq_some_iff.1 hw
      exact h v (List.mem_of_getElem? hv) position w hw

theorem isTocTree_iff {v : Value} : v.IsTocTree ↔ v.IsTocEntry ∧ ∀ child ∈ v.tocBelow, child.IsTocTree := by
  rw [← forall_entryAt?_iff]
  constructor
  · intro h
    refine ⟨h [] v rfl, fun position w hw => ?_⟩
    cases position with
    | nil => cases hw
    | cons i position => exact h (i :: position) w hw
  · rintro ⟨hself, hbelow⟩ position w hw
    cases position with
    | nil =>
      obtain rfl := Option.some.inj hw
      exact hself
    | cons i position => exact hbelow (i :: position) w hw

end Value

theorem TocCheck.Stops.not_isTocEntry {v : Value} {check : TocCheck} (h : Stops v check) : ¬v.IsTocEntry := by
  obtain ⟨before, after, -, -, hfails⟩ := h
  exact fun hpasses => hfails (hpasses check)

namespace Config

/-! ## One entry -/

/-- The labels of an entry are read, or their check ends the reading. -/
theorem entryLabels_cases (trail : List Nat) (v : Value) :
    (∃ known, labels (.tocEntryAt trail) (v.under "labels") = .ok known ∧ TocCheck.labels.Passes v ∧
        ∀ language text, known.find? language = some text ↔
          Labels ((v.under "labels").entries?.getD []) language text) ∨
      ∃ e, labels (.tocEntryAt trail) (v.under "labels") = .error e ∧ ¬TocCheck.labels.Passes v ∧
        TocCheck.labels.Raises trail v e := by
  obtain ⟨known, hread, hpasses, hknown⟩ | ⟨hread, hnull, hnone⟩ | ⟨hread, entries, hentries, hshown⟩ :=
    labels_cases (.tocEntryAt trail) (v.under "labels")
  · exact .inl ⟨known, hread, hpasses, hknown⟩
  · refine .inr ⟨_, hread, ?_, .labels hnone⟩
    rintro (hnull' | ⟨entries, hsome, -⟩)
    · exact hnull hnull'
    · rw [hnone] at hsome
      cases hsome
  · refine .inr ⟨_, hread, ?_, .unshownLabel hentries hshown⟩
    rintro (hnull | ⟨entries', hentries', hshown'⟩)
    · rw [hnull] at hentries
      cases hentries
    · obtain rfl := Option.some.inj (hentries.symm.trans hentries')
      exact hshown hshown'

/-- The title of an entry is read, or its check ends the reading. -/
theorem tocTitle_cases (trail : List Nat) {v : Value} {entries : Value.Entries} (hentries : v.entries? = some entries)
    {known : Dictionary String} (hknown : ∀ language text, known.find? language = some text ↔
      Labels ((v.under "labels").entries?.getD []) language text) :
    (∃ title, tocTitle trail entries known = .ok title ∧ v.HasTitle title) ∨
      ∃ e, tocTitle trail entries known = .error e ∧ ¬TocCheck.title.Passes v ∧ TocCheck.title.Raises trail v e := by
  unfold tocTitle
  rw [← Value.under_eq_get hentries]
  obtain ⟨title, hread, hgives⟩ | ⟨hread, hblank⟩ | ⟨hread, hshown⟩ := optionalText_cases (v.under "title")
  · rw [hread]
    exact .inl ⟨title, rfl, .inl hgives⟩
  · rw [hread]
    cases hlabel : known.find? Language.standard with
    | some title => exact .inl ⟨title, by simp; rfl, .inr ⟨hblank, (hknown _ _).1 hlabel⟩⟩
    | none =>
      refine .inr ⟨_, by simp; rfl, ?_, .title hblank⟩
      rintro ⟨title, hgives | ⟨-, htitle⟩⟩
      · exact hgives.not_isBlank hblank
      · rw [(hknown _ _).2 htitle] at hlabel
        cases hlabel
  · rw [hread]
    refine .inr ⟨_, rfl, ?_, .unshownTitle hshown⟩
    rintro ⟨title, hgives | ⟨hblank, -⟩⟩
    · exact hshown hgives.isShown
    · exact hshown hblank.isShown

/-- The link of an entry is read, or its check ends the reading. -/
theorem link_cases (trail : List Nat) {v : Value} {title : String} (htitle : v.HasTitle title) :
    (∃ link, requiredText (.tocEntry title) "link" (v.under "link") = .ok link ∧ (v.under "link").GivesText link) ∨
      ∃ e, requiredText (.tocEntry title) "link" (v.under "link") = .error e ∧ ¬TocCheck.link.Passes v ∧
        TocCheck.link.Raises trail v e := by
  unfold requiredText
  obtain ⟨link, hread, hgives⟩ | ⟨hread, hblank⟩ | ⟨hread, hshown⟩ := optionalText_cases (v.under "link")
  · rw [hread]
    exact .inl ⟨link, rfl, hgives⟩
  · rw [hread]
    exact .inr ⟨_, rfl, fun ⟨link, hgives⟩ => hgives.not_isBlank hblank, .link htitle hblank⟩
  · rw [hread]
    exact .inr ⟨_, rfl, fun ⟨link, hgives⟩ => hshown hgives.isShown, .unshownLink hshown⟩

/-- The children of an entry are found, or their check ends the reading. -/
theorem tocChildren_cases (trail : List Nat) {v : Value} {title : String} (htitle : v.HasTitle title) :
    (tocChildren title (v.under "children") = .ok v.tocBelow ∧ TocCheck.children.Passes v) ∨
      ∃ e, tocChildren title (v.under "children") = .error e ∧ ¬TocCheck.children.Passes v ∧
        TocCheck.children.Raises trail v e := by
  unfold tocChildren Value.tocBelow
  cases hitems : (v.under "children").items? with
  | some items => exact .inl ⟨rfl, .inl ⟨items, hitems⟩⟩
  | none =>
    cases hvoid : (v.under "children").isVoid with
    | true => exact .inl ⟨rfl, .inr hvoid⟩
    | false =>
      refine .inr ⟨_, rfl, ?_, .children htitle⟩
      rintro (⟨items, hsome⟩ | htrue)
      · rw [hitems] at hsome
        cases hsome
      · rw [hvoid] at htrue
        cases htrue

/-- An entry passes all checks, and those below it are read, or the first check that it fails ends the reading. -/
theorem tocNode_cases (depth : Nat) (trail : List Nat) (v : Value) :
    (∃ (known : Dictionary String) (title link : String),
        v.IsTocEntry ∧ v.HasTitle title ∧ (v.under "link").GivesText link ∧
        (∀ language text, known.find? language = some text ↔
          Labels ((v.under "labels").entries?.getD []) language text) ∧
        tocNode (depth + 1) trail v =
          (v.tocBelow.zipIdx.mapM fun (child, i) => tocNode depth (trail ++ [i]) child) >>= fun children =>
            .ok ⟨title, Text.dropSlashes link, known.erase Language.standard, children⟩) ∨
      ∃ check e, tocNode (depth + 1) trail v = .error e ∧ Stops v check ∧ check.Raises trail v e := by
  cases hentries : v.entries? with
  | none =>
    refine .inr ⟨.mapping, .config (.tocEntry trail), by rw [tocNode, hentries], ⟨[], _, rfl, nofun, ?_⟩, .mapping⟩
    rintro ⟨entries, hsome⟩
    rw [hentries] at hsome
    cases hsome
  | some entries =>
    have hmapping : TocCheck.mapping.Passes v := ⟨entries, hentries⟩
    have hnode : tocNode (depth + 1) trail v = (do
        let known ← labels (.tocEntryAt trail) (v.under "labels")
        let title ← tocTitle trail entries known
        let link ← requiredText (.tocEntry title) "link" (v.under "link")
        let below ← tocChildren title (v.under "children")
        let children ← below.zipIdx.mapM fun (child, i) => tocNode depth (trail ++ [i]) child
        .ok ⟨title, Text.dropSlashes link, known.erase Language.standard, children⟩) := by
      rw [tocNode, hentries]
      simp only [Value.under_eq_get hentries]
      rfl
    -- One check after the other: it fails and its error is the result, or the next is looked at.
    obtain ⟨known, hread, hlabels, hknown⟩ | ⟨e, hread, hfails, he⟩ := entryLabels_cases trail v
    case inr =>
      refine .inr ⟨.labels, e, hnode.trans (bind_of_error hread), ⟨[.mapping], _, rfl, ?_, hfails⟩, he⟩
      simpa using hmapping
    rw [bind_of_ok hread] at hnode
    obtain ⟨title, hread, htitle⟩ | ⟨e, hread, hfails, he⟩ := tocTitle_cases trail hentries hknown
    case inr =>
      refine .inr ⟨.title, e, hnode.trans (bind_of_error hread), ⟨[.mapping, .labels], _, rfl, ?_, hfails⟩, he⟩
      simpa using ⟨hmapping, hlabels⟩
    rw [bind_of_ok hread] at hnode
    obtain ⟨link, hread, hlink⟩ | ⟨e, hread, hfails, he⟩ := link_cases trail htitle
    case inr =>
      refine .inr ⟨.link, e, hnode.trans (bind_of_error hread), ⟨[.mapping, .labels, .title], _, rfl, ?_, hfails⟩, he⟩
      simpa using ⟨hmapping, hlabels, title, htitle⟩
    rw [bind_of_ok hread] at hnode
    obtain ⟨hread, hchildren⟩ | ⟨e, hread, hfails, he⟩ := tocChildren_cases trail htitle
    case inr =>
      refine .inr ⟨.children, e, hnode.trans (bind_of_error hread),
        ⟨[.mapping, .labels, .title, .link], _, rfl, ?_, hfails⟩, he⟩
      simpa using ⟨hmapping, hlabels, ⟨title, htitle⟩, ⟨link, hlink⟩⟩
    rw [bind_of_ok hread] at hnode
    refine .inl ⟨known, title, link, fun check => ?_, htitle, hlink, hknown, hnode⟩
    cases check
    exacts [hmapping, hlabels, ⟨title, htitle⟩, ⟨link, hlink⟩, hchildren]

/-! ## An entry and those below it -/

/-- The node says what the entry says, and so do the nodes below it, one for each entry below the entry. -/
inductive Describes : Value → NavNode → Prop
  | intro {v : Value} {n : NavNode} (title : v.HasTitle n.title)
      (link : ∃ link, (v.under "link").GivesText link ∧ n.link = Text.dropSlashes link)
      (labels : ∀ language text, n.labels.find? language = some text ↔
        language ≠ Language.standard ∧ Labels ((v.under "labels").entries?.getD []) language text)
      (children : List.Forall₂ Describes v.tocBelow n.children) : Describes v n

/-- The error of the first entry, at or below an entry, that fails a check. -/
def FirstFault (trail : List Nat) (v : Value) (e : Error) : Prop :=
  ∃ position w check, v.descendant? position = some w ∧ Stops w check ∧ check.Raises (trail ++ position) w e ∧
    ∀ before w', before < position → v.descendant? before = some w' → w'.IsTocEntry

/-- The error of the first entry, at any position of a list, that fails a check. -/
def FirstFaultIn (trail : List Nat) (items : List Value) (e : Error) : Prop :=
  ∃ position w check, entryAt? items position = some w ∧ Stops w check ∧ check.Raises (trail ++ position) w e ∧
    ∀ before w', before < position → entryAt? items before = some w' → w'.IsTocEntry

/-- The entry itself fails a check. -/
theorem firstFault_self {trail : List Nat} {v : Value} {check : TocCheck} {e : Error} (hstops : Stops v check)
    (he : check.Raises trail v e) : FirstFault trail v e := by
  refine ⟨[], v, check, rfl, hstops, by simpa using he, fun before w hbefore => ?_⟩
  exact absurd hbefore (List.not_lt_nil before)

/-- The entry passes all checks, but one below it does not. -/
theorem firstFault_below {trail : List Nat} {v : Value} {e : Error} (hself : v.IsTocEntry)
    (h : FirstFaultIn trail v.tocBelow e) : FirstFault trail v e := by
  obtain ⟨position, w, check, hw, hstops, he, hbefore⟩ := h
  cases position with
  | nil => cases hw
  | cons i position =>
    refine ⟨i :: position, w, check, hw, hstops, he, fun before w' hlt hw' => ?_⟩
    cases before with
    | nil =>
      obtain rfl := Option.some.inj hw'
      exact hself
    | cons j before => exact hbefore (j :: before) w' hlt hw'

/-- The first fault of an item is that of the list if there is none in the items before it. -/
theorem firstFaultIn_of_item {trail : List Nat} {items : List Value} {i : Nat} {v : Value} {e : Error}
    (hv : items[i]? = some v) (h : FirstFault (trail ++ [i]) v e)
    (hearlier : ∀ j < i, ∀ w, items[j]? = some w → w.IsTocTree) : FirstFaultIn trail items e := by
  obtain ⟨position, w, check, hw, hstops, he, hbefore⟩ := h
  refine ⟨i :: position, w, check, ?_, hstops, by simpa using he, fun before w' hlt hw' => ?_⟩
  · rw [entryAt?, hv]
    exact hw
  · cases before with
    | nil => cases hw'
    | cons j before =>
      obtain ⟨v', hv', hw'⟩ := Option.bind_eq_some_iff.1 hw'
      obtain hj | ⟨rfl, hrest⟩ := List.cons_lt_cons_iff.1 hlt
      · exact hearlier j hj v' hv' before w' hw'
      · obtain rfl := Option.some.inj (hv.symm.trans hv')
        exact hbefore before w' hrest hw'

/-- How the reading of a list of entries ends, if it is known how the reading of each of them does. -/
theorem mapM_tocNode_outcome {depth : Nat} {trail : List Nat} {items : List Value}
    (hok : ∀ trail v n, tocNode depth trail v = .ok n → v.IsTocTree ∧ Describes v n)
    (herror : ∀ trail v e, tocNode depth trail v = .error e → FirstFault trail v e ∨ e = .endlessToc) :
    (∀ nodes, (items.zipIdx.mapM fun (v, i) => tocNode depth (trail ++ [i]) v) = .ok nodes →
        (∀ v ∈ items, v.IsTocTree) ∧ List.Forall₂ Describes items nodes) ∧
      ∀ e, (items.zipIdx.mapM fun (v, i) => tocNode depth (trail ++ [i]) v) = .error e →
        FirstFaultIn trail items e ∨ e = .endlessToc := by
  constructor
  · intro nodes h
    rw [← List.forall₂_and_left, ← List.zipIdx_map_fst 0 items, List.forall₂_map_left_iff]
    exact (forall₂_of_mapM h).imp fun entry n hn => hok _ _ _ hn
  · intro e h
    obtain ⟨i, v, hv, he, hearlier⟩ := exists_of_mapM_zipIdx_eq_error h
    refine (herror _ v e he).imp_left fun hfault => firstFaultIn_of_item hv hfault fun j hj w hw => ?_
    obtain ⟨n, hn⟩ := hearlier j hj w hw
    exact (hok _ w n hn).1

/-- An entry and those below it pass all checks and are described by the node, or the first fault of them ends the
reading. The induction is on how deep entries may be nested. -/
theorem tocNode_outcome (depth : Nat) :
    (∀ trail v n, tocNode depth trail v = .ok n → v.IsTocTree ∧ Describes v n) ∧
      ∀ trail v e, tocNode depth trail v = .error e → FirstFault trail v e ∨ e = .endlessToc := by
  induction depth with
  | zero => exact ⟨nofun, fun trail v e h => .inr (Except.error.inj h).symm⟩
  | succ depth ih =>
    constructor
    · intro trail v n h
      obtain ⟨known, title, link, hself, htitle, hlink, hknown, hnode⟩ | ⟨check, e, hnode, -⟩ :=
        tocNode_cases depth trail v
      · obtain ⟨children, hchildren, h⟩ := bind_eq_ok.1 (hnode.symm.trans h)
        obtain rfl := Except.ok.inj h
        obtain ⟨hbelow, hdescribes⟩ := (mapM_tocNode_outcome ih.1 ih.2).1 children hchildren
        refine ⟨Value.isTocTree_iff.2 ⟨hself, hbelow⟩,
          .intro htitle ⟨link, hlink, rfl⟩ (fun language text => ?_) hdescribes⟩
        rw [Dictionary.find?_erase, ← hknown]
        by_cases h : language = Language.standard <;> simp [h]
      · rw [hnode] at h
        cases h
    · intro trail v e h
      obtain ⟨known, title, link, hself, -, -, -, hnode⟩ | ⟨check, e', hnode, hstops, he⟩ :=
        tocNode_cases depth trail v
      · obtain hchildren | ⟨children, -, h⟩ := bind_eq_error.1 (hnode.symm.trans h)
        · exact ((mapM_tocNode_outcome ih.1 ih.2).2 e hchildren).imp_left (firstFault_below hself)
        · cases h
      · obtain rfl := Except.error.inj (hnode.symm.trans h)
        exact .inl (firstFault_self hstops he)

/-! ## Tables of contents -/

/-- The error of a table of contents: it is no list, or an empty one, or the first of the entries at all positions that
fails a check has this error. -/
inductive TocFault (v : Value) : Error → Prop
  | notList (h : v.items? = none) : TocFault v (.config .tocNotList)
  | empty (h : v.items? = some []) : TocFault v (.config .tocEmpty)
  | entry {items : List Value} {e : Error} (hitems : v.items? = some items) (h : FirstFaultIn [] items e) : TocFault v e

theorem TocFault.not_isToc {v : Value} {e : Error} (h : TocFault v e) : ¬v.IsToc := by
  rintro ⟨items, hitems, hne, hentries⟩
  cases h with
  | notList hnone =>
    rw [hnone] at hitems
    cases hitems
  | empty hempty =>
    rw [hempty] at hitems
    exact hne (Option.some.inj hitems).symm
  | entry hitems' h =>
    obtain rfl := Option.some.inj (hitems.symm.trans hitems')
    obtain ⟨position, w, check, hw, hstops, -⟩ := h
    exact hstops.not_isTocEntry (hentries position w hw)

/-- The reading of a list with entries. -/
theorem toc_of_items {v : Value} {items : List Value} (hitems : v.items? = some items) (hne : items ≠ []) :
    toc v = items.zipIdx.mapM fun (entry, i) => tocNode (Value.sizeItems items) ([] ++ [i]) entry := by
  obtain ⟨first, rest, rfl⟩ := List.exists_cons_of_ne_nil hne
  rw [toc, hitems]
  rfl

theorem isToc_of_toc {v : Value} {nodes : List NavNode} (h : toc v = .ok nodes) :
    v.IsToc ∧ List.Forall₂ Describes (v.items?.getD []) nodes := by
  cases hitems : v.items? with
  | none =>
    rw [toc, hitems] at h
    cases h
  | some items =>
    by_cases hne : items = []
    · subst hne
      rw [toc, hitems] at h
      cases h
    · rw [toc_of_items hitems hne] at h
      obtain ⟨hok, herror⟩ := tocNode_outcome (Value.sizeItems items)
      obtain ⟨htrees, hdescribes⟩ := (mapM_tocNode_outcome hok herror).1 nodes h
      exact ⟨⟨items, hitems, hne, Value.forall_entryAt?_iff.2 htrees⟩, hdescribes⟩

theorem tocFault_of_toc {v : Value} {e : Error} (h : toc v = .error e) :
    TocFault v e ∨ e = .endlessToc := by
  cases hitems : v.items? with
  | none =>
    rw [toc, hitems] at h
    obtain rfl := Except.error.inj h
    exact .inl (.notList hitems)
  | some items =>
    by_cases hne : items = []
    · subst hne
      rw [toc, hitems] at h
      obtain rfl := Except.error.inj h
      exact .inl (.empty hitems)
    · rw [toc_of_items hitems hne] at h
      obtain ⟨hok, herror⟩ := tocNode_outcome (Value.sizeItems items)
      exact ((mapM_tocNode_outcome hok herror).2 e h).imp_left (.entry hitems)

/-- Only what holds itself has no end. -/
theorem toc_ne_endless {v : Value} (h : v.IsTree) : toc v ≠ .error .endlessToc := by
  have hreadable : v.Readable True := ⟨h, fun _ => trivial⟩
  intro hend
  obtain ⟨fault, hfault⟩ | ⟨hlong, -⟩ := toc_raises hreadable _ hend
  · cases hfault
  · cases hlong

/-- **A table of contents is accepted just if it is a list with entries and each of them passes its checks**; the nodes
then say what the entries say, in the same places. Otherwise it ends with the error of the first check that the first
entry to fail one fails. A table that holds itself may have no end. -/
theorem toc_outcome (v : Value) :
    (v.IsTree → ((∃ nodes, toc v = .ok nodes) ↔ v.IsToc)) ∧
      (∀ nodes, toc v = .ok nodes → v.IsToc ∧ List.Forall₂ Describes (v.items?.getD []) nodes) ∧
      ∀ e, toc v = .error e → TocFault v e ∨ e = .endlessToc ∧ ¬v.IsTree := by
  have herror : ∀ e, toc v = .error e → TocFault v e ∨ e = .endlessToc ∧ ¬v.IsTree := by
    intro e h
    refine (tocFault_of_toc h).imp_right ?_
    rintro rfl
    exact ⟨rfl, fun htree => toc_ne_endless htree h⟩
  refine ⟨fun htree => ⟨fun ⟨nodes, h⟩ => (isToc_of_toc h).1, fun htoc => ?_⟩, fun nodes => isToc_of_toc, herror⟩
  cases h : toc v with
  | ok nodes => exact ⟨nodes, rfl⟩
  | error e =>
    obtain hfault | ⟨-, hloop⟩ := herror e h
    · exact absurd htoc hfault.not_isToc
    · exact absurd htree hloop

/-- Two entries, one with a label for its title and two entries below it, the second with these settings; the other is
no mapping, or left out. -/
def shelf (settings : Value.Entries) (others : List Value) : Value :=
  .list (.map [
    (.text "title", .text " "), (.text "link", .text "/guide "),
    (.text "labels", .map [(.text " en ", .text "Guide"), (.text "en", .text " "), (.null, .text "none")]),
    (.text "children", .list [
      .map [(.text "title", .bool true), (.text "link", .text "true.html"), (.text "children", .bool false)],
      .map ((.text "title", .text "Six") :: settings)])] :: others)

/-- With a link the table is accepted. Without one the second entry below the first is at fault for this, and neither
for its children nor for the entry after it, which is no mapping. -/
theorem toc_outcome_shelf :
    ((shelf [(.text "link", .text "six.html")] []).IsTree ∧ (shelf [(.text "link", .text "six.html")] []).IsToc ∧
      ∃ nodes, toc (shelf [(.text "link", .text "six.html")] []) = .ok nodes ∧
        List.Forall₂ Describes ((shelf [(.text "link", .text "six.html")] []).items?.getD []) nodes) ∧
    ((shelf [(.text "children", .text "none")] [.text "other"]).IsTree ∧
      toc (shelf [(.text "children", .text "none")] [.text "other"]) =
        .error (.config (.missing (.tocEntry "Six") "link")) ∧
      TocFault (shelf [(.text "children", .text "none")] [.text "other"])
        (.config (.missing (.tocEntry "Six") "link"))) := by
  refine ⟨⟨by decide, (toc_outcome _).1 (by decide) |>.1 ⟨_, rfl⟩, _, rfl, ((toc_outcome _).2.1 _ rfl).2⟩,
    by decide, rfl, ?_⟩
  obtain hfault | ⟨hend, -⟩ := (toc_outcome (shelf [(.text "children", .text "none")] [.text "other"])).2.2 _ rfl
  · exact hfault
  · cases hend

/-! ## Integers with too many digits -/

theorem not_isShown_int {n : Int} (h : Text.ofInt? n = none) : ¬(Value.int n).IsShown := by
  rintro ⟨shown, hshown⟩
  have hnone : (Value.int n).display? = none := by rw [Value.display?, Value.quoted?, Value.quotedIn?, h] <;> nofun
  rw [hnone] at hshown
  cases hshown

/-- An entry with a title, an integer for a label, and no link. -/
def entryLabelled (n : Int) : Value :=
  .map [(.text "title", .text "Guide"), (.text "labels", .map [(.text "ja", .int n)])]

theorem toc_entryLabelled {n : Int} (h : Text.ofInt? n = none) :
    toc (.list [entryLabelled n]) = .error .longInteger := by
  have hread : labels (.tocEntryAt [0]) (.map [(.text "ja", .int n)]) = .error .longInteger := by
    obtain ⟨known, -, hnull | ⟨entries, hentries, hshown⟩, -⟩ | ⟨-, -, hnone⟩ | ⟨hread, -⟩ :=
      labels_cases (.tocEntryAt [0]) (.map [(.text "ja", .int n)])
    · cases hnull
    · obtain rfl := Option.some.inj hentries
      exact absurd (hshown (.text "ja", .int n) List.mem_cons_self).2 (not_isShown_int h)
    · cases hnone
    · exact hread
  have hnode : ∀ depth, tocNode (depth + 1) [0] (entryLabelled n) = .error .longInteger := fun depth => by
    rw [tocNode]
    exact bind_of_error hread
  rw [toc_of_items rfl (List.cons_ne_nil _ _)]
  exact bind_of_error (hnode _)

/-- An entry that is a mapping, with a mapping for its labels, a title and no link, is not at fault for its link if one
of the labels is an integer with too many digits. -/
theorem toc_outcome_long : ∃ entry, toc (.list [entry]) = .error .longInteger ∧
    (∃ entries, entry.entries? = some entries) ∧ (∃ labels, (entry.under "labels").entries? = some labels) ∧
    entry.HasTitle "Guide" ∧ ¬TocCheck.link.Passes entry := by
  have hnone : Text.ofInt? (Nat.pow 10 Text.maxDigits) = none := by decide +kernel
  refine ⟨entryLabelled (Nat.pow 10 Text.maxDigits), toc_entryLabelled hnone, ⟨_, rfl⟩, ⟨_, rfl⟩, ?_, ?_⟩
  · exact .inl ⟨nofun, "Guide", rfl, by decide, by decide⟩
  · rintro ⟨link, hgives⟩
    exact hgives.not_isBlank (.inl rfl)

end Config

end GuideSite
