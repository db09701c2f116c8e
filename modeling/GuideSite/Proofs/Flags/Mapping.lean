import GuideSite.Proofs.Config.Naming
import GuideSite.Proofs.Config.Raising

/-!
# Section flags of mappings

A mapping of flags may hold mappings, to any depth. A value in it is reached by a path of keys, and every path to a
value that is true enables one name: the keys of the path with dots between them. Below the top level a last key
`enabled` is left out. What is reached must be a truth value, nothing, or a mapping, and under `enabled` no mapping
either.

* `Leads`, `pathName`: paths and their names.
* `IsFaulty`: what may not be there; `isFaulty_iff` says it level by level, as mappings are read.
* `exists_ofMapping`, `mem_ofMapping_iff`: when a mapping gives flags, and which.
* `Rearranges.covers`: mappings with their entries in another order, or without those that enable nothing.
* `ofMapping_outcome`: all this in one statement.
* `ofMapping_allTrue`: the flags of a mapping in which all is true, against those of a list.
-/

namespace GuideSite.SectionFlags

open Value (Entries)

/-! ## Paths -/

/-- A path of keys leads to a value: through the mappings that mappings hold. -/
inductive Leads : Entries → List Value → Value → Prop
  | here {entries : Entries} {key v : Value} (h : (key, v) ∈ entries) : Leads entries [key] v
  | further {entries inner : Entries} {key v w : Value} {path : List Value} (h : (key, v) ∈ entries)
      (hinner : v.entries? = some inner) (hleads : Leads inner path w) : Leads entries (key :: path) w

/-- The text of a key without the blanks around it. -/
def keyName (key : Value) : String := Text.strip (key.display?.getD "")

/-- The last key of a path is `selfKey`. -/
def endsOwn (path : List Value) : Bool := path.getLast?.any isSelfKey

/-- The keys of a path below the top level, without `selfKey` at the end. -/
def innerKeys (path : List Value) : List Value := if endsOwn path then path.dropLast else path

/-- The name of what a path below another one leads to. -/
def nameBelow (outer : String) (path : List Value) : String :=
  String.intercalate "." (outer :: (innerKeys path).map keyName)

/-- The name of what a path leads to. -/
def pathName : List Value → String
  | [] => ""
  | key :: path => nameBelow (keyName key) path

/-! ## Faults -/

/-- A truth value, or nothing. -/
def isTruth : Value → Bool
  | .null => true
  | .bool _ => true
  | _ => false

/-- Some value that a path leads to may not be there: it is neither a truth value nor nothing nor a mapping, or the path
ends below the top level with `selfKey` and it is a mapping. -/
def IsFaulty (entries : Entries) : Prop :=
  ∃ path v, Leads entries path v ∧ isTruth v = false ∧ (v.entries? = none ∨ endsOwn path.tail = true)

/-- A mapping has each of its keys once, and so have the mappings in it. -/
inductive IsMapping : Entries → Prop
  | intro {entries : Entries} (keys : (entries.map Prod.fst).Nodup)
      (inner : ∀ entry ∈ entries, ∀ inner, entry.2.entries? = some inner → IsMapping inner) : IsMapping entries

/-- A value may not be there, or some value in it: level by level. -/
inductive Fails : Value → Prop
  | leaf {v : Value} (hnone : v.entries? = none) (h : isTruth v = false) : Fails v
  | own {v key w : Value} {entries : Entries} (hentries : v.entries? = some entries) (hmem : (key, w) ∈ entries)
      (hkey : isSelfKey key = true) (h : isTruth w = false) : Fails v
  | inner {v key w : Value} {entries : Entries} (hentries : v.entries? = some entries) (hmem : (key, w) ∈ entries)
      (hkey : isSelfKey key = false) (h : Fails w) : Fails v

theorem isTruth_of_entries? {v : Value} {entries : Entries} (h : v.entries? = some entries) : isTruth v = false := by
  cases v with
  | null => cases h
  | bool => cases h
  | _ => rfl

theorem isSelfKey_iff {key : Value} : isSelfKey key = true ↔ key = .text selfKey := by
  cases key <;> simp [isSelfKey]

theorem Leads.ne_nil {entries : Entries} {path : List Value} {v : Value} (h : Leads entries path v) : path ≠ [] := by
  cases h <;> exact List.cons_ne_nil _ _

/-- Keys before a path do not matter to its end. -/
theorem endsOwn_cons {path : List Value} (hpath : path ≠ []) (key : Value) : endsOwn (key :: path) = endsOwn path := by
  obtain ⟨first, rest, rfl⟩ := List.exists_cons_of_ne_nil hpath
  rw [endsOwn, List.getLast?_cons_cons, endsOwn]

/-- A path below a value leads to what may not be there only if the value fails. -/
theorem fails_of_leads {v w : Value} {inner : Entries} {path : List Value} (hinner : v.entries? = some inner)
    (hleads : Leads inner path w) (hw : isTruth w = false) (hfault : w.entries? = none ∨ endsOwn path = true) :
    Fails v := by
  induction hleads generalizing v with
  | @here entries key w h =>
    cases hkey : isSelfKey key with
    | true => exact .own hinner h hkey hw
    | false =>
      refine .inner hinner h hkey (.leaf (hfault.resolve_right ?_) hw)
      simp [endsOwn, hkey]
  | @further entries deeper key u w path h hdeeper hleads ih =>
    cases hkey : isSelfKey key with
    | true => exact .own hinner h hkey (isTruth_of_entries? hdeeper)
    | false =>
      rw [endsOwn_cons hleads.ne_nil] at hfault
      exact .inner hinner h hkey (ih hdeeper hw hfault)

/-- A value that fails may not be there, or some path below it leads to one that may not. -/
theorem leads_of_fails {v : Value} (h : Fails v) :
    (v.entries? = none ∧ isTruth v = false) ∨ ∃ inner path w, v.entries? = some inner ∧ Leads inner path w ∧
      isTruth w = false ∧ (w.entries? = none ∨ endsOwn path = true) := by
  induction h with
  | leaf hnone h => exact .inl ⟨hnone, h⟩
  | @own v key w entries hentries hmem hkey h =>
    exact .inr ⟨entries, [key], w, hentries, .here hmem, h, .inr (by simp [endsOwn, hkey])⟩
  | @inner v key w entries hentries hmem hkey h ih =>
    obtain ⟨hnone, hw⟩ | ⟨inner, path, u, hinner, hleads, hu, hfault⟩ := ih
    · exact .inr ⟨entries, [key], w, hentries, .here hmem, hw, .inl hnone⟩
    · rw [← endsOwn_cons hleads.ne_nil key] at hfault
      exact .inr ⟨entries, key :: path, u, hentries, .further hmem hinner hleads, hu, hfault⟩

/-- A mapping is at fault just if one of its values fails. -/
theorem isFaulty_iff {entries : Entries} : IsFaulty entries ↔ ∃ entry ∈ entries, Fails entry.2 := by
  constructor
  · rintro ⟨path, w, hleads, hw, hfault⟩
    cases hleads with
    | @here _ key _ h => exact ⟨(key, w), h, .leaf (hfault.resolve_right (by simp [endsOwn])) hw⟩
    | @further _ inner key v _ path h hinner hleads => exact ⟨(key, v), h, fails_of_leads hinner hleads hw hfault⟩
  · rintro ⟨⟨key, v⟩, hmem, hfails⟩
    obtain ⟨hnone, hv⟩ | ⟨inner, path, w, hinner, hleads, hw, hfault⟩ := leads_of_fails hfails
    · exact ⟨[key], v, .here hmem, hv, .inl hnone⟩
    · exact ⟨key :: path, w, .further hmem hinner hleads, hw, hfault⟩

/-! ## Acceptance -/

theorem isTruth_of_truth {name : String} {v : Value} {b : Bool} (h : truth name v = .ok b) : isTruth v = true := by
  unfold truth at h
  split at h
  · rfl
  · rfl
  · obtain ⟨_, _, h⟩ := bind_eq_ok.1 h
    cases h

theorem isTruth_of_truth_error {name : String} {v : Value} {e : Error} (h : truth name v = .error e) :
    isTruth v = false := by
  cases v with
  | null => cases h
  | bool => cases h
  | _ => rfl

/-- The value under `selfKey` is that of the only entry with this key. -/
theorem get_selfKey {entries : Entries} (hkeys : (entries.map Prod.fst).Nodup) {key w : Value}
    (hmem : (key, w) ∈ entries) (hkey : isSelfKey key = true) : Value.get entries selfKey = w := by
  obtain rfl := isSelfKey_iff.1 hkey
  rw [Value.get, Value.find?_of_mem hkeys hmem, Option.getD_some]

/-- A value that enables names does not fail. The induction is on how far mappings are nested. -/
theorem not_fails_of_enabledAt {depth : Nat} {name : String} {v : Value} {names : List String}
    (h : enabledAt depth name v = .ok names) (hmapping : ∀ inner, v.entries? = some inner → IsMapping inner) :
    ¬Fails v := by
  induction depth generalizing name v names with
  | zero => cases h
  | succ depth ih =>
    rw [enabledAt] at h
    split at h
    · rename_i entries hentries
      obtain ⟨own, hown, h⟩ := bind_eq_ok.1 h
      obtain ⟨below, hbelow, -⟩ := bind_eq_ok.1 h
      obtain ⟨hkeys, hinner⟩ := hmapping entries hentries
      intro hfails
      cases hfails with
      | leaf hnone =>
        rw [hentries] at hnone
        cases hnone
      | own hentries' hmem hkey hw =>
        obtain rfl := Option.some.inj (hentries.symm.trans hentries')
        rw [← get_selfKey hkeys hmem hkey, isTruth_of_truth hown] at hw
        cases hw
      | inner hentries' hmem hkey hw =>
        obtain rfl := Option.some.inj (hentries.symm.trans hentries')
        obtain ⟨names, -, hread⟩ := exists_of_mapM hbelow (List.mem_filter.2 ⟨hmem, by simp [hkey]⟩)
        obtain ⟨shown, -, hread⟩ := bind_eq_ok.1 hread
        exact ih hread (hinner _ hmem) hw
    · rename_i hnone
      obtain ⟨own, hown, -⟩ := bind_eq_ok.1 h
      intro hfails
      cases hfails with
      | leaf _ hv =>
        rw [isTruth_of_truth hown] at hv
        cases hv
      | own hentries => rw [hnone] at hentries; cases hentries
      | inner hentries => rw [hnone] at hentries; cases hentries

/-- Entries that can be read end with the error of one of their values. -/
theorem exists_of_entries_eq_error {depth : Nat} {path : String → String} {entries : Entries} {e : Error}
    (h : (entries.mapM fun (k, v) => do enabledAt depth (path (← k.displayed)) v) = .error e)
    (hreadable : Value.AreReadable False entries) :
    ∃ entry ∈ entries, ∃ name, enabledAt depth name entry.2 = .error e := by
  obtain ⟨before, ⟨key, v⟩, after, rfl, hread, -⟩ := exists_of_mapM_eq_error h
  have hmem : (key, v) ∈ before ++ (key, v) :: after := List.mem_append_right _ List.mem_cons_self
  obtain ⟨shown, hshown⟩ := (hreadable _ hmem).1.exists_displayed
  exact ⟨(key, v), hmem, path shown, (bind_of_ok hshown).symm.trans hread⟩

/-- A value that can be read and does not enable names fails. The induction is on the depth, which is enough as long as
the value is no larger. -/
theorem fails_of_enabledAt {depth : Nat} {name : String} {v : Value} {e : Error} (h : enabledAt depth name v = .error e)
    (hreadable : v.Readable False) (hdepth : v.size ≤ depth) : Fails v := by
  induction depth generalizing name v e with
  | zero =>
    have := v.size_pos
    omega
  | succ depth ih =>
    rw [enabledAt] at h
    split at h
    · rename_i entries hentries
      have hsize := Value.sizeEntries_lt_of_entries? hreadable.isLoop_eq hentries
      obtain hown | ⟨own, -, h⟩ := bind_eq_error.1 h
      · have hfalse := isTruth_of_truth_error hown
        have hget : Value.get entries selfKey ≠ .null := fun hnull => by
          rw [hnull] at hfalse
          cases hfalse
        exact .own hentries (Value.mem_of_get hget) (isSelfKey_iff.2 rfl) hfalse
      · obtain hbelow | ⟨names, -, h⟩ := bind_eq_error.1 h
        · have hinner := hreadable.entries hentries
          obtain ⟨entry, hmem, name, hread⟩ := exists_of_entries_eq_error hbelow fun entry hentry =>
            hinner entry (List.mem_of_mem_filter hentry)
          obtain ⟨hmem, hkey⟩ := List.mem_filter.1 hmem
          have hless := Value.size_le_sizeEntries hmem
          exact .inner hentries hmem (by simpa using hkey) (ih hread (hinner entry hmem).2 (by omega))
        · cases h
    · rename_i hnone
      obtain hown | ⟨own, -, h⟩ := bind_eq_error.1 h
      · exact .leaf hnone (isTruth_of_truth_error hown)
      · cases h

section Mapping

variable {entries : Entries} (hmapping : IsMapping entries) (hreadable : Value.AreReadable False entries)

include hmapping in
/-- A mapping that gives flags is not at fault. -/
theorem not_isFaulty_of_ofMapping {flags : SectionFlags} (h : ofMapping entries = .ok flags) : ¬IsFaulty entries := by
  rw [isFaulty_iff]
  rintro ⟨⟨key, v⟩, hmem, hfails⟩
  obtain ⟨names, hnames, -⟩ := bind_eq_ok.1 h
  obtain ⟨found, -, hread⟩ := exists_of_mapM hnames hmem
  obtain ⟨shown, -, hread⟩ := bind_eq_ok.1 hread
  obtain ⟨-, hinner⟩ := hmapping
  exact not_fails_of_enabledAt hread (hinner _ hmem) hfails

include hreadable in
/-- A mapping that gives no flags is at fault, and the error says so. -/
theorem isFaulty_of_ofMapping {e : Error} (h : ofMapping entries = .error e) :
    IsFaulty entries ∧ ∃ fault, e = .flag fault := by
  refine ⟨isFaulty_iff.2 ?_, (Config.ofMapping_raises hreadable e h).resolve_right fun hlong => hlong.2⟩
  obtain hnames | ⟨names, -, h⟩ := bind_eq_error.1 h
  · obtain ⟨entry, hmem, name, hread⟩ := exists_of_entries_eq_error hnames hreadable
    have hless := Value.size_le_sizeEntries hmem
    exact ⟨entry, hmem, fails_of_enabledAt hread (hreadable entry hmem).2 (by omega)⟩
  · cases h

include hmapping hreadable in
/-- A mapping gives flags unless it is at fault. -/
theorem exists_ofMapping : (∃ flags, ofMapping entries = .ok flags) ↔ ¬IsFaulty entries := by
  constructor
  · rintro ⟨flags, h⟩
    exact not_isFaulty_of_ofMapping hmapping h
  · intro hfine
    cases h : ofMapping entries with
    | ok flags => exact ⟨flags, rfl⟩
    | error e => exact absurd (isFaulty_of_ofMapping hreadable h).1 hfine

end Mapping

/-! ## Names -/

theorem nameBelow_nil (outer : String) : nameBelow outer [] = outer := String.intercalate_singleton

theorem nameBelow_own (outer : String) {key : Value} (hkey : isSelfKey key = true) : nameBelow outer [key] = outer := by
  rw [nameBelow, innerKeys, if_pos (by simp [endsOwn, hkey])]
  exact String.intercalate_singleton

/-- The first key of a path below another one goes to the name before it. -/
theorem nameBelow_cons (outer : String) {key : Value} (hkey : isSelfKey key = false) (path : List Value) :
    nameBelow outer (key :: path) = nameBelow (outer ++ "." ++ keyName key) path := by
  have hkeys : innerKeys (key :: path) = key :: innerKeys path := by
    cases path with
    | nil => simp [innerKeys, endsOwn, hkey]
    | cons next rest =>
      rw [innerKeys, endsOwn_cons (List.cons_ne_nil _ _), innerKeys]
      split
      · rfl
      · rfl
  rw [nameBelow, nameBelow, hkeys, List.map_cons, String.intercalate_cons_cons, String.intercalate_cons_append]

theorem keyName_eq {key : Value} {shown : String} (h : key.displayed = .ok shown) : keyName key = Text.strip shown := by
  rw [keyName, Value.displayed_eq_ok.1 h, Option.getD_some]

/-- The names that a value enables are those of the paths in it to what is true, or it is true itself. -/
theorem leads_of_enables {outer name : String} {v : Value} (h : v.Enables outer name) :
    (v = .bool true ∧ nameBelow outer [] = name) ∨
      ∃ inner path, v.entries? = some inner ∧ Leads inner path (.bool true) ∧ nameBelow outer path = name := by
  induction h with
  | leaf => exact .inl ⟨rfl, nameBelow_nil _⟩
  | @own outer v entries hentries hown =>
    have hget : Value.get entries selfKey ≠ .null := by
      rw [hown]
      exact nofun
    have hmem := Value.mem_of_get hget
    rw [hown] at hmem
    exact .inr ⟨entries, [.text selfKey], hentries, .here hmem, nameBelow_own _ (isSelfKey_iff.2 rfl)⟩
  | @inner outer name shown v w key entries hentries hmem hkey hshown hinner ih =>
    rw [← keyName_eq hshown] at ih
    obtain ⟨rfl, hname⟩ | ⟨inner, path, hinner, hleads, hname⟩ := ih
    · exact .inr ⟨entries, [key], hentries, .here hmem, (nameBelow_cons outer hkey _).trans hname⟩
    · exact .inr ⟨entries, key :: path, hentries, .further hmem hinner hleads,
        (nameBelow_cons outer hkey _).trans hname⟩

/-- The name of every path to what is true is enabled, where nothing is at fault. -/
theorem enables_of_leads {outer : String} {v w : Value} {inner : Entries} {path : List Value}
    (hinner : v.entries? = some inner) (hleads : Leads inner path w) (hw : w = .bool true) (hmapping : IsMapping inner)
    (hreadable : Value.AreReadable False inner) (hfine : ¬Fails v) : v.Enables outer (nameBelow outer path) := by
  induction hleads generalizing outer v with
  | @here entries key w hmem =>
    subst hw
    cases hkey : isSelfKey key with
    | true =>
      obtain ⟨hkeys, -⟩ := hmapping
      rw [nameBelow_own outer hkey]
      exact .own hinner (get_selfKey hkeys hmem hkey)
    | false =>
      obtain ⟨shown, hshown⟩ := (hreadable _ hmem).1.exists_displayed
      rw [nameBelow_cons outer hkey, nameBelow_nil, keyName_eq hshown]
      exact .inner hinner hmem hkey hshown .leaf
  | @further entries deeper key u w path hmem hdeeper hleads ih =>
    cases hkey : isSelfKey key with
    | true => exact absurd (.own hinner hmem hkey (isTruth_of_entries? hdeeper)) hfine
    | false =>
      obtain ⟨-, hbelow⟩ := hmapping
      obtain ⟨hreadableKey, hvalue⟩ := hreadable _ hmem
      obtain ⟨shown, hshown⟩ := hreadableKey.exists_displayed
      rw [nameBelow_cons outer hkey, keyName_eq hshown]
      exact .inner hinner hmem hkey hshown
        (ih hdeeper hw (hbelow _ hmem deeper hdeeper) (hvalue.entries hdeeper) fun hfails =>
          hfine (.inner hinner hmem hkey hfails))

/-- The flags of a mapping are the names of the paths to what is true in it. -/
theorem mem_ofMapping_iff {entries : Entries} {flags : SectionFlags} (hmapping : IsMapping entries)
    (hreadable : Value.AreReadable False entries) (h : ofMapping entries = .ok flags) (name : String) :
    name ∈ flags ↔ ∃ path, Leads entries path (.bool true) ∧ pathName path = name := by
  have hfine := not_isFaulty_of_ofMapping hmapping h
  rw [mem_ofMapping h]
  constructor
  · rintro ⟨⟨key, v⟩, hmem, shown, hshown, henables⟩
    rw [← keyName_eq hshown] at henables
    obtain ⟨rfl, hname⟩ | ⟨inner, path, hinner, hleads, hname⟩ := leads_of_enables henables
    · exact ⟨[key], .here hmem, hname⟩
    · exact ⟨key :: path, .further hmem hinner hleads, hname⟩
  · rintro ⟨path, hleads, rfl⟩
    cases hleads with
    | @here _ key _ hmem =>
      obtain ⟨shown, hshown⟩ := (hreadable _ hmem).1.exists_displayed
      refine ⟨_, hmem, shown, hshown, ?_⟩
      rw [pathName, nameBelow_nil, keyName_eq hshown]
      exact .leaf
    | @further _ inner key v _ path hmem hinner hleads =>
      obtain ⟨hkey, hvalue⟩ := hreadable _ hmem
      obtain ⟨shown, hshown⟩ := hkey.exists_displayed
      obtain ⟨-, hbelow⟩ := hmapping
      refine ⟨_, hmem, shown, hshown, ?_⟩
      rw [pathName, keyName_eq hshown]
      exact enables_of_leads hinner hleads rfl (hbelow _ hmem inner hinner) (hvalue.entries hinner) fun hfails =>
        hfine (isFaulty_iff.2 ⟨_, hmem, hfails⟩)

/-! ## Rearrangements -/

/-- The value enables nothing, and may be there. -/
def IsIdle (v : Value) : Prop := v = .null ∨ v = .bool false

/-- Entries in another order, or without one that is idle, in a mapping or in one that it holds. -/
inductive Rearranges : Entries → Entries → Prop
  | perm {entries entries' : Entries} (h : entries.Perm entries') : Rearranges entries entries'
  | drop {key v : Value} {rest : Entries} (h : IsIdle v) : Rearranges ((key, v) :: rest) rest
  | inner {key v v' : Value} {inner inner' rest : Entries} (hinner : v.entries? = some inner)
      (hinner' : v'.entries? = some inner') (hloop : v'.isLoop = false) (h : Rearranges inner inner') :
      Rearranges ((key, v) :: rest) ((key, v') :: rest)
  | trans {entries between entries' : Entries} (h : Rearranges entries between) (h' : Rearranges between entries') :
      Rearranges entries entries'

theorem Rearranges.areReadable {long : Prop} {entries entries' : Entries} (h : Rearranges entries entries')
    (hreadable : Value.AreReadable long entries) : Value.AreReadable long entries' := by
  induction h with
  | perm h => exact fun entry hentry => hreadable entry (h.mem_iff.2 hentry)
  | drop => exact (List.forall_mem_cons.1 hreadable).2
  | inner hinner hinner' hloop _ ih =>
    obtain ⟨⟨hkey, hvalue⟩, hrest⟩ := List.forall_mem_cons.1 hreadable
    exact List.forall_mem_cons.2 ⟨⟨hkey, (ih (hvalue.entries hinner)).readable hloop hinner'⟩, hrest⟩
  | trans _ _ ih ih' => exact ih' (ih hreadable)

theorem Rearranges.isMapping {entries entries' : Entries} (h : Rearranges entries entries')
    (hmapping : IsMapping entries) : IsMapping entries' := by
  induction h with
  | perm h =>
    obtain ⟨hkeys, hinner⟩ := hmapping
    exact ⟨(h.map Prod.fst).nodup_iff.1 hkeys, fun entry hentry => hinner entry (h.mem_iff.2 hentry)⟩
  | drop =>
    obtain ⟨hkeys, hinner⟩ := hmapping
    exact ⟨(List.nodup_cons.1 hkeys).2, (List.forall_mem_cons.1 hinner).2⟩
  | @inner _ _ _ inner inner' _ hinner hinner' _ _ ih =>
    obtain ⟨hkeys, hbelow⟩ := hmapping
    obtain ⟨hvalue, hrest⟩ := List.forall_mem_cons.1 hbelow
    refine ⟨hkeys, List.forall_mem_cons.2 ⟨fun found hfound => ?_, hrest⟩⟩
    obtain rfl : inner' = found := Option.some.inj (hinner'.symm.trans hfound)
    exact ih (hvalue inner hinner)
  | trans _ _ ih ih' => exact ih' (ih hmapping)

/-- The values are the same, or both are mappings. -/
def Alike (v v' : Value) : Prop := v' = v ∨ v.entries?.isSome = true ∧ v'.entries?.isSome = true

theorem Alike.isIdle {v v' : Value} (h : Alike v v') (hidle : IsIdle v') : IsIdle v := by
  obtain rfl | ⟨-, hsome⟩ := h
  · exact hidle
  · obtain rfl | rfl := hidle
    · cases hsome
    · cases hsome

theorem Alike.trans {u v w : Value} (h : Alike u v) (h' : Alike v w) : Alike u w := by
  obtain rfl | ⟨hu, hv⟩ := h
  · exact h'
  · obtain rfl | ⟨-, hw⟩ := h'
    · exact .inr ⟨hu, hv⟩
    · exact .inr ⟨hu, hw⟩

/-- Every path to what is not idle leads to a like value in the other entries. -/
def Covers (entries entries' : Entries) : Prop :=
  ∀ path v, ¬IsIdle v → Leads entries path v → ∃ v', Leads entries' path v' ∧ Alike v v'

namespace Covers

variable {entries entries' rest : Entries} {key v v' : Value}

theorem of_subset (h : entries ⊆ entries') : Covers entries entries' := by
  intro path v _ hleads
  refine ⟨v, ?_, .inl rfl⟩
  cases hleads with
  | here hmem => exact .here (h hmem)
  | further hmem hinner hleads => exact .further (h hmem) hinner hleads

theorem of_drop (h : IsIdle v) : Covers ((key, v) :: rest) rest := by
  intro path w hw hleads
  refine ⟨w, ?_, .inl rfl⟩
  cases hleads with
  | here hmem =>
    obtain heq | hmem := List.mem_cons.1 hmem
    · rw [(Prod.mk.inj heq).2] at hw
      exact absurd h hw
    · exact .here hmem
  | further hmem hinner hleads =>
    obtain heq | hmem := List.mem_cons.1 hmem
    · obtain ⟨-, rfl⟩ := Prod.mk.inj heq
      obtain rfl | rfl := h <;> cases hinner
    · exact .further hmem hinner hleads

theorem of_inner (hinner : v.entries? = some entries) (hinner' : v'.entries? = some entries')
    (h : Covers entries entries') : Covers ((key, v) :: rest) ((key, v') :: rest) := by
  intro path w hw hleads
  cases hleads with
  | here hmem =>
    obtain heq | hmem := List.mem_cons.1 hmem
    · obtain ⟨rfl, rfl⟩ := Prod.mk.inj heq
      exact ⟨v', .here List.mem_cons_self, .inr ⟨by rw [hinner]; rfl, by rw [hinner']; rfl⟩⟩
    · exact ⟨w, .here (List.mem_cons_of_mem _ hmem), .inl rfl⟩
  | further hmem hbelow hleads =>
    obtain heq | hmem := List.mem_cons.1 hmem
    · obtain ⟨rfl, rfl⟩ := Prod.mk.inj heq
      obtain rfl := Option.some.inj (hinner.symm.trans hbelow)
      obtain ⟨w', hleads', halike⟩ := h _ w hw hleads
      exact ⟨w', .further List.mem_cons_self hinner' hleads', halike⟩
    · exact ⟨w, .further (List.mem_cons_of_mem _ hmem) hbelow hleads, .inl rfl⟩

theorem trans {between : Entries} (h : Covers entries between) (h' : Covers between entries') :
    Covers entries entries' := by
  intro path v hv hleads
  obtain ⟨w, hleads, halike⟩ := h path v hv hleads
  obtain ⟨u, hleads, halike'⟩ := h' path w (fun hw => hv (halike.isIdle hw)) hleads
  exact ⟨u, hleads, halike.trans halike'⟩

/-- Nothing is at fault in entries that is not in those that cover them. -/
theorem isFaulty (h : Covers entries entries') (hfaulty : IsFaulty entries) : IsFaulty entries' := by
  obtain ⟨path, v, hleads, hv, hfault⟩ := hfaulty
  have hidle : ¬IsIdle v := by rintro (rfl | rfl) <;> cases hv
  obtain ⟨v', hleads', rfl | ⟨hsome, hsome'⟩⟩ := h path v hidle hleads
  · exact ⟨path, v', hleads', hv, hfault⟩
  · obtain ⟨inner', hinner'⟩ := Option.isSome_iff_exists.1 hsome'
    obtain hnone | hown := hfault
    · rw [hnone] at hsome
      cases hsome
    · exact ⟨path, v', hleads', isTruth_of_entries? hinner', .inr hown⟩

/-- What is true in entries is true in those that cover them. -/
theorem leads_true (h : Covers entries entries') {path : List Value} (hleads : Leads entries path (.bool true)) :
    Leads entries' path (.bool true) := by
  have hidle : ¬IsIdle (.bool true) := by rintro (h | h) <;> cases h
  obtain ⟨v', hleads', rfl | ⟨hsome, -⟩⟩ := h path _ hidle hleads
  · exact hleads'
  · cases hsome

end Covers

/-- A rearrangement covers what it comes from and is covered by it: one case for each way to rearrange. -/
theorem Rearranges.covers {entries entries' : Entries} (h : Rearranges entries entries') :
    Covers entries entries' ∧ Covers entries' entries := by
  induction h with
  | perm h => exact ⟨.of_subset h.subset, .of_subset h.symm.subset⟩
  | drop h => exact ⟨.of_drop h, .of_subset (List.subset_cons_self ..)⟩
  | inner hinner hinner' _ _ ih => exact ⟨.of_inner hinner hinner' ih.1, .of_inner hinner' hinner ih.2⟩
  | trans _ _ ih ih' => exact ⟨ih.1.trans ih'.1, ih'.2.trans ih.2⟩

/-! ## Outcomes -/

/-- Mappings that cover one another, and are read, give the same flags. -/
theorem ofMapping_of_covers {entries entries' : Entries} (hmapping : IsMapping entries) (hmapping' : IsMapping entries')
    (hreadable : Value.AreReadable False entries) (hreadable' : Value.AreReadable False entries')
    (hcovers : Covers entries entries') (hcovers' : Covers entries' entries) {flags : SectionFlags}
    (h : ofMapping entries = .ok flags) : ofMapping entries' = .ok flags := by
  have hfine := not_isFaulty_of_ofMapping hmapping h
  obtain ⟨flags', h'⟩ := (exists_ofMapping hmapping' hreadable').2 fun hfaulty => hfine (hcovers'.isFaulty hfaulty)
  obtain rfl : flags = flags' := by
    ext name
    rw [mem_ofMapping_iff hmapping hreadable h, mem_ofMapping_iff hmapping' hreadable' h']
    exact exists_congr fun path => and_congr_left fun _ => ⟨hcovers.leads_true, hcovers'.leads_true⟩
  exact h'

/-- What a mapping is at fault for is what it ends with. -/
theorem ofMapping_eq_flag_iff {entries : Entries} (hmapping : IsMapping entries)
    (hreadable : Value.AreReadable False entries) :
    (∃ fault, ofMapping entries = .error (.flag fault)) ↔ IsFaulty entries := by
  constructor
  · rintro ⟨fault, h⟩
    exact (isFaulty_of_ofMapping hreadable h).1
  · intro hfaulty
    cases h : ofMapping entries with
    | ok flags => exact absurd hfaulty (not_isFaulty_of_ofMapping hmapping h)
    | error e =>
      obtain ⟨-, fault, rfl⟩ := isFaulty_of_ofMapping hreadable h
      exact ⟨fault, rfl⟩

/-- **A mapping gives the names of the paths to what is true in it, unless a path leads to what may not be there.** Its
entries may come in any order, and those that are false or nothing may be left out, at any level. -/
theorem ofMapping_outcome {entries : Entries} (hmapping : IsMapping entries)
    (hreadable : Value.AreReadable False entries) :
    ((∃ fault, ofMapping entries = .error (.flag fault)) ↔ IsFaulty entries) ∧
    (¬IsFaulty entries → ∃ flags, ofMapping entries = .ok flags ∧
      ∀ name, name ∈ flags ↔ ∃ path, Leads entries path (.bool true) ∧ pathName path = name) ∧
    ∀ entries', Rearranges entries entries' →
      ((∃ fault, ofMapping entries' = .error (.flag fault)) ↔ ∃ fault, ofMapping entries = .error (.flag fault)) ∧
      ∀ flags, ofMapping entries' = .ok flags ↔ ofMapping entries = .ok flags := by
  refine ⟨ofMapping_eq_flag_iff hmapping hreadable, fun hfine => ?_, fun entries' hrearranges => ?_⟩
  · obtain ⟨flags, h⟩ := (exists_ofMapping hmapping hreadable).2 hfine
    exact ⟨flags, h, mem_ofMapping_iff hmapping hreadable h⟩
  · have hmapping' := hrearranges.isMapping hmapping
    have hreadable' := hrearranges.areReadable hreadable
    obtain ⟨hcovers, hcovers'⟩ := hrearranges.covers
    rw [ofMapping_eq_flag_iff hmapping hreadable, ofMapping_eq_flag_iff hmapping' hreadable']
    refine ⟨⟨hcovers'.isFaulty, hcovers.isFaulty⟩, fun flags => ⟨?_, ?_⟩⟩
    · exact ofMapping_of_covers hmapping' hmapping hreadable' hreadable hcovers' hcovers
    · exact ofMapping_of_covers hmapping hmapping' hreadable hreadable' hcovers hcovers'

/-- A mapping in a mapping, with blanks around a key, and with entries that enable nothing. -/
def nestedFlags : Entries := [
  (.text "guide", .null),
  (.text " reference ", .map [
    (.text "tools", .bool false), (.text "enabled", .bool true), (.text "gcm.api", .bool true)])]

/-- The same without what enables nothing, and in another order. -/
def plainFlags : Entries := [(.text " reference ", .map [(.text "gcm.api", .bool true), (.text "enabled", .bool true)])]

theorem rearranges_nestedFlags : Rearranges nestedFlags plainFlags :=
  .trans (.drop (.inl rfl)) (.inner rfl rfl rfl (.trans (.drop (.inr rfl)) (.perm (.swap ..))))

theorem isMapping_nestedFlags : IsMapping nestedFlags := by
  refine ⟨by simp [nestedFlags], List.forall_mem_cons.2 ⟨nofun, List.forall_mem_singleton.2 ?_⟩⟩
  rintro _ ⟨⟩
  exact ⟨by simp, by simp [Value.entries?, Value.unfold]⟩

theorem areReadable_nestedFlags : Value.AreReadable False nestedFlags := by
  refine Value.Readable.entries (v := .map nestedFlags) ⟨by decide, ?_⟩ rfl
  rintro ⟨n, hn, -⟩
  simp [nestedFlags, Value.parts, Value.partsEntries] at hn

theorem ofMapping_outcome_nested : IsMapping nestedFlags ∧ Value.AreReadable False nestedFlags ∧
    Rearranges nestedFlags plainFlags ∧ ¬IsFaulty nestedFlags ∧
    ∃ flags, ofMapping nestedFlags = .ok flags ∧ ofMapping plainFlags = .ok flags ∧
      flags.toList = ["reference", "reference.gcm.api"] ∧
      ∀ name, name ∈ flags ↔ ∃ path, Leads nestedFlags path (.bool true) ∧ pathName path = name := by
  have hread : ofMapping nestedFlags = .ok (.ofList ["reference", "reference.gcm.api"]) := rfl
  have hfine := not_isFaulty_of_ofMapping isMapping_nestedFlags hread
  obtain ⟨-, hflags, hrearranged⟩ := ofMapping_outcome isMapping_nestedFlags areReadable_nestedFlags
  obtain ⟨flags, h, hnames⟩ := hflags hfine
  obtain rfl := Except.ok.inj (hread.symm.trans h)
  exact ⟨isMapping_nestedFlags, areReadable_nestedFlags, rearranges_nestedFlags, hfine, _, h,
    ((hrearranged plainFlags rearranges_nestedFlags).2 _).2 h, rfl, hnames⟩

/-- An integer for a truth value. -/
def countedFlags (n : Int) : Entries := [(.text "a", .int n)]

theorem isMapping_countedFlags (n : Int) : IsMapping (countedFlags n) :=
  ⟨List.pairwise_singleton _ _, List.forall_mem_singleton.2 nofun⟩

theorem isFaulty_countedFlags (n : Int) : IsFaulty (countedFlags n) :=
  ⟨[.text "a"], .int n, .here List.mem_cons_self, rfl, .inl rfl⟩

theorem ofMapping_countedFlags {n : Int} (h : Text.ofInt? n = none) :
    ofMapping (countedFlags n) = .error .longInteger := by
  have hshown : (Value.int n).shown = .error .longInteger := by
    have hquoted : (Value.int n).quoted? = none := h
    rw [Value.shown, hquoted]
  have htruth : ∀ name, truth name (.int n) = .error .longInteger := fun name => bind_of_error hshown
  have hread : ∀ depth name, enabledAt (depth + 1) name (.int n) = .error .longInteger := fun depth name =>
    bind_of_error (htruth name)
  have hkey : (Value.text "a").displayed = .ok "a" := rfl
  rw [ofMapping, countedFlags, List.mapM_cons]
  refine bind_of_error (bind_of_error ?_)
  dsimp only
  rw [bind_of_ok hkey]
  exact hread _ _

/-- A mapping is at fault for an integer, but one with too many digits cannot be shown and ends the reading. -/
theorem ofMapping_outcome_long :
    IsMapping (countedFlags (Nat.pow 10 Text.maxDigits)) ∧ IsFaulty (countedFlags (Nat.pow 10 Text.maxDigits)) ∧
      ofMapping (countedFlags (Nat.pow 10 Text.maxDigits)) = .error .longInteger := by
  have hnone : Text.ofInt? (Nat.pow 10 Text.maxDigits) = none := by decide +kernel
  exact ⟨isMapping_countedFlags _, isFaulty_countedFlags _, ofMapping_countedFlags hnone⟩

/-! ## Lists of names -/

/-- The mapping with each of the names once, all of them true. -/
def allTrue (names : List String) : Entries := names.eraseDups.map fun name => (.text name, .bool true)

theorem ofMapping_allTrue_eq (names : List String) :
    ofMapping (allTrue names) = .ok (.ofList (names.eraseDups.map Text.strip)) := by
  have hnames : ((allTrue names).map fun entry => [keyName entry.1]).flatten = names.eraseDups.map Text.strip := by
    rw [← List.flatMap_def, ← List.map_eq_flatMap, allTrue, List.map_map]
    rfl
  refine (bind_of_ok (mapM_eq_ok_map (g := fun entry => [keyName entry.1]) fun entry hentry => ?_)).trans ?_
  · obtain ⟨name, -, rfl⟩ := List.mem_map.1 hentry
    rfl
  · rw [hnames]
    rfl

/-- **A mapping of names to truth and a list of them give the same flags unless a name is blank.** The list leaves blank
names out, and the mapping keeps them as the empty name. -/
theorem ofMapping_allTrue (names : List String) : ∃ flags, ofMapping (allTrue names) = .ok flags ∧
    (∀ name, name ∈ flags ↔ name ∈ ofNames names ∨ name = "" ∧ ∃ raw ∈ names, Text.strip raw = "") ∧
    (flags = ofNames names ↔ ∀ raw ∈ names, Text.strip raw ≠ "") ∧
    (∀ name ∈ ofNames names, Text.IsTrimmed name) ∧
    ∀ name ∈ flags, name = "" ∨ Text.IsTrimmed name := by
  have hmem : ∀ name, name ∈ NameSet.ofList (names.eraseDups.map Text.strip) ↔
      name ∈ ofNames names ∨ name = "" ∧ ∃ raw ∈ names, Text.strip raw = "" := by
    intro name
    simp only [NameSet.mem_ofList, List.mem_map, List.mem_eraseDups, mem_ofNames]
    by_cases hblank : name = ""
    · simp [hblank]
    · simp [hblank]
  have htrimmed : ∀ name ∈ ofNames names, Text.IsTrimmed name := by
    intro name hname
    obtain ⟨hne, raw, -, rfl⟩ := mem_ofNames.1 hname
    exact Text.isTrimmed_strip hne
  refine ⟨_, ofMapping_allTrue_eq names, hmem, ⟨?_, ?_⟩, htrimmed, fun name hname => ?_⟩
  · intro heq raw hraw hblank
    have hempty : "" ∈ ofNames names := by
      rw [← heq]
      exact (hmem "").2 (.inr ⟨rfl, raw, hraw, hblank⟩)
    exact (mem_ofNames.1 hempty).1 rfl
  · intro hplain
    ext name
    rw [hmem, or_iff_left]
    rintro ⟨-, raw, hraw, hblank⟩
    exact hplain raw hraw hblank
  · obtain hname | ⟨rfl, -⟩ := (hmem name).1 hname
    · exact .inr (htrimmed name hname)
    · exact .inl rfl

/-- A blank name is no flag of a list of names, and the empty flag of a mapping. -/
theorem ofMapping_allTrue_blank : ∃ flags, ofMapping (allTrue [" "]) = .ok flags ∧ flags ≠ ofNames [" "] ∧
    "" ∈ flags :=
  ⟨_, rfl, by decide, by decide⟩

end GuideSite.SectionFlags
