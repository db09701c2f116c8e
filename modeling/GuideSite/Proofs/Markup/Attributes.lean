import GuideSite.Proofs.Markup.Reading
import Mathlib.Data.List.TakeWhile

/-!
# Reading the attributes of a tag

A browser reads an opening tag character by character. The name of an attribute ends at a blank, a slash, an equals sign
or the bracket that ends the tag; a value stands between quotation marks or ends at a blank. A name has no references,
so a character that is written as a reference in a name is another name.

* `readFrom_attribute`, `head?_readFrom`: the reading of one written attribute, if its name stands for itself, and the
  name that is read in any case.
* `readOpening_chars`: a written tag is read with its attributes just if their names stand for themselves.
-/

namespace GuideSite.Markup

/-! ## The reader -/

/-- The blanks between the attributes of a tag. -/
def isTagBlank (c : Char) : Bool :=
  c = ' ' || c = '\t' || c = '\n' || c = '\x0C' || c = '\r'

/-- What is skipped before the name of an attribute. -/
def isSkipped (c : Char) : Bool := isTagBlank c || c = '/'

/-- What ends the name of an attribute. -/
def endsName (c : Char) : Bool := isSkipped c || c = '=' || c = '>'

/-- A place in a tag, with the name and the value that are being read there. -/
inductive TagPlace
  | before
  | name (name : List Char)
  | afterName (name : List Char)
  | beforeValue (name : List Char)
  | quoted (quote : Char) (name value : List Char)
  | bare (name value : List Char)

/-- An attribute whose characters were read. -/
def attributeOf (name value : List Char) : Attribute := ⟨String.ofList name, String.ofList (unescape value)⟩

namespace TagPlace

/-- The attribute that was begun, if the tag ends here. -/
def pending : TagPlace → List Attribute
  | before => []
  | name n => [attributeOf n []]
  | afterName n => [attributeOf n []]
  | beforeValue n => [attributeOf n []]
  | quoted _ n v => [attributeOf n v]
  | bare n v => [attributeOf n v]

/-- A bracket between quotation marks does not end the tag. -/
def isQuoted : TagPlace → Bool
  | quoted _ _ _ => true
  | _ => false

/-- The place after one more character of the tag, with the attribute that it completes. -/
def step : TagPlace → Char → List Attribute × TagPlace
  | before, c => if isSkipped c then ([], before) else ([], name [c])
  | name n, c =>
    if isTagBlank c then ([], afterName n)
    else if c = '/' then ([attributeOf n []], before)
    else if c = '=' then ([], beforeValue n)
    else ([], name (n ++ [c]))
  | afterName n, c =>
    if isTagBlank c then ([], afterName n)
    else if c = '/' then ([attributeOf n []], before)
    else if c = '=' then ([], beforeValue n)
    else ([attributeOf n []], name [c])
  | beforeValue n, c =>
    if isTagBlank c then ([], beforeValue n)
    else if c = '"' ∨ c = '\'' then ([], quoted c n [])
    else ([], bare n [c])
  | quoted q n v, c => if c = q then ([attributeOf n v], before) else ([], quoted q n (v ++ [c]))
  | bare n v, c => if isTagBlank c then ([attributeOf n v], before) else ([], bare n (v ++ [c]))

end TagPlace

open TagPlace (before)

/-- The attributes from a place to the end of the tag, and what follows the tag. -/
def readFrom (p : TagPlace) : List Char → Option (List Attribute × List Char)
  | [] => none
  | c :: cs =>
    if c = '>' ∧ p.isQuoted = false then some (p.pending, cs)
    else (readFrom (p.step c).2 cs).map fun r => ((p.step c).1 ++ r.1, r.2)

/-- What ends the name of a tag. -/
def isTagEnd (c : Char) : Bool := isSkipped c || c = '>'

/-- The opening tag that a text starts with, and what follows it. -/
def readOpening : List Char → Option (Token × List Char)
  | '<' :: cs =>
    (readFrom before (cs.dropWhile (!isTagEnd ·))).map fun r =>
      (.opening (String.ofList (cs.takeWhile (!isTagEnd ·))) r.1, r.2)
  | _ => none

/-! ## Names -/

/-- A character that is written as a reference. -/
def isReferred (c : Char) : Bool := c = '&' || c = '<' || c = '>' || c = '"' || c = '\''

/-- The text stands for itself as the name of an attribute: it is written without references, and no character of it
ends it. An equals sign may be the first one. -/
structure IsAttributeName (name : String) : Prop where
  ne_nil : name.toList ≠ []
  chars : ∀ c ∈ name.toList, isSkipped c = false ∧ isReferred c = false
  equals : '=' ∉ name.toList.tail

instance (name : String) : Decidable (IsAttributeName name) :=
  decidable_of_iff ((!name.toList.isEmpty && name.toList.all (fun c => !isSkipped c && !isReferred c) &&
    !name.toList.tail.contains '=') = true) (by
      simp only [Bool.and_eq_true, Bool.not_eq_true', List.isEmpty_eq_false_iff, List.all_eq_true,
        List.contains_eq_mem, decide_eq_false_iff_not]
      exact ⟨fun ⟨⟨hne, hchars⟩, hequals⟩ => ⟨hne, hchars, hequals⟩, fun h => ⟨⟨h.ne_nil, h.chars⟩, h.equals⟩⟩)

theorem escapeChar_eq {c : Char} (h : isReferred c = false) : escapeChar c = [c] := by
  simp only [isReferred, Bool.or_eq_false_iff, decide_eq_false_iff_not] at h
  simp [escapeChar, h]

theorem escape_eq_self {cs : List Char} (h : ∀ c ∈ cs, isReferred c = false) : escape cs = cs := by
  induction cs with
  | nil => rfl
  | cons c cs ih =>
    obtain ⟨hc, hcs⟩ := List.forall_mem_cons.1 h
    rw [escape, List.flatMap_cons, escapeChar_eq hc, ← escape, ih hcs]
    rfl

/-- Only what is written as a reference grows. -/
theorem length_escapeChar (c : Char) : (escapeChar c).length = 1 ∧ isReferred c = false ∨ 1 < (escapeChar c).length := by
  cases h : isReferred c with
  | false => exact .inl ⟨by rw [escapeChar_eq h]; rfl, rfl⟩
  | true =>
    simp only [isReferred, Bool.or_eq_true, decide_eq_true_eq] at h
    obtain (((rfl | rfl) | rfl) | rfl) | rfl := h <;> exact .inr (by decide)

theorem length_le_length_escape (cs : List Char) : cs.length ≤ (escape cs).length := by
  induction cs with
  | nil => exact Nat.le_refl _
  | cons c cs ih =>
    rw [escape, List.flatMap_cons, List.length_append, ← escape, List.length_cons]
    have := length_escapeChar c
    omega

theorem isReferred_of_escape_eq {cs : List Char} (h : escape cs = cs) : ∀ c ∈ cs, isReferred c = false := by
  induction cs with
  | nil => exact nofun
  | cons c cs ih =>
    have hlength := congrArg List.length h
    rw [escape, List.flatMap_cons, ← escape] at h
    rw [escape, List.flatMap_cons, List.length_append, ← escape, List.length_cons] at hlength
    have hrest := length_le_length_escape cs
    obtain ⟨-, hc⟩ | hmore := length_escapeChar c
    · rw [escapeChar_eq hc] at h
      exact List.forall_mem_cons.2 ⟨hc, ih (List.cons.inj h).2⟩
    · omega

/-! ## The name that is read -/

/-- The name of the first attribute that is read from a place on. -/
def TagPlace.firstName : TagPlace → List Char → Option (List Char)
  | .before, cs =>
    match cs.dropWhile isSkipped with
    | [] => none
    | c :: rest => if c = '>' then none else some (c :: rest.takeWhile (!endsName ·))
  | .name n, cs => some (n ++ cs.takeWhile (!endsName ·))
  | .afterName n, _ => some n
  | .beforeValue n, _ => some n
  | .quoted _ n _, _ => some n
  | .bare n _, _ => some n

/-- A step completes the attribute whose name was to be read, or the name is still to be read. -/
theorem firstName_step {p : TagPlace} {c : Char} (hend : c = '>' → p.isQuoted = true) (cs : List Char) :
    p.firstName (c :: cs) = (p.step c).2.firstName cs ∧ (p.step c).1 = [] ∨
      ∃ n v, p.firstName (c :: cs) = some n ∧ (p.step c).1 = [attributeOf n v] := by
  cases p with
  | before =>
    have hne : c ≠ '>' := fun heq => Bool.noConfusion (hend heq)
    cases hskip : isSkipped c <;> exact .inl (by simp [TagPlace.firstName, TagPlace.step, hskip, hne])
  | name n =>
    have hne : c ≠ '>' := fun heq => Bool.noConfusion (hend heq)
    by_cases hslash : c = '/'
    · subst hslash
      exact .inr ⟨n, [], by simp [TagPlace.firstName, endsName, isSkipped], rfl⟩
    by_cases hequals : c = '='
    · subst hequals
      exact .inl ⟨by simp [TagPlace.firstName, endsName, TagPlace.step, isTagBlank], rfl⟩
    by_cases hblank : isTagBlank c = true
    · exact .inl (by simp [TagPlace.firstName, TagPlace.step, endsName, isSkipped, hblank])
    · exact .inl (by simp [TagPlace.firstName, TagPlace.step, endsName, isSkipped, hblank, hslash, hequals, hne])
  | afterName n =>
    by_cases hslash : c = '/'
    · subst hslash
      exact .inr ⟨n, [], rfl, rfl⟩
    by_cases hequals : c = '='
    · subst hequals
      exact .inl ⟨rfl, rfl⟩
    by_cases hblank : isTagBlank c = true
    · exact .inl (by simp [TagPlace.firstName, TagPlace.step, hblank])
    · exact .inr ⟨n, [], rfl, by simp [TagPlace.step, hblank, hslash, hequals]⟩
  | beforeValue n =>
    by_cases hblank : isTagBlank c = true
    · exact .inl (by simp [TagPlace.firstName, TagPlace.step, hblank])
    by_cases hquote : c = '"' ∨ c = '\''
    · exact .inl (by simp [TagPlace.firstName, TagPlace.step, hblank, hquote])
    · exact .inl (by simp [TagPlace.firstName, TagPlace.step, hblank, hquote])
  | quoted q n v =>
    by_cases hquote : c = q
    · exact .inr ⟨n, v, rfl, by simp [TagPlace.step, hquote]⟩
    · exact .inl (by simp [TagPlace.firstName, TagPlace.step, hquote])
  | bare n v =>
    by_cases hblank : isTagBlank c = true
    · exact .inr ⟨n, v, rfl, by simp [TagPlace.step, hblank]⟩
    · exact .inl (by simp [TagPlace.firstName, TagPlace.step, hblank])

/-- The first attribute that is read has the name that is read first. -/
theorem head?_readFrom {cs : List Char} {p : TagPlace} {as : List Attribute} {rest : List Char}
    (h : readFrom p cs = some (as, rest)) : as.head?.map Attribute.name = (p.firstName cs).map String.ofList := by
  induction cs generalizing p as with
  | nil => cases h
  | cons c cs ih =>
    rw [readFrom] at h
    split at h
    · rename_i hend
      obtain ⟨rfl, hquoted⟩ := hend
      obtain ⟨rfl, -⟩ := Prod.mk.inj (Option.some.inj h)
      cases p <;>
        simp_all [TagPlace.firstName, TagPlace.pending, TagPlace.isQuoted, attributeOf, endsName, isSkipped, isTagBlank]
    · rename_i hend
      have hend' : c = '>' → p.isQuoted = true := by simpa using hend
      obtain ⟨⟨as', rest'⟩, hrest, heq⟩ := Option.map_eq_some_iff.1 h
      obtain ⟨rfl, rfl⟩ := Prod.mk.inj heq
      obtain ⟨hstep, hnone⟩ | ⟨n, v, hstep, hone⟩ := firstName_step hend' cs
      · rw [hnone, hstep]
        exact ih hrest
      · rw [hone, hstep]
        rfl

/-! ## Written attributes -/

theorem readFrom_of_step {p q : TagPlace} {c : Char} (h : p.step c = ([], q)) (hend : c ≠ '>' ∨ p.isQuoted = true)
    (cs : List Char) : readFrom p (c :: cs) = readFrom q cs := by
  have hgoes : ¬(c = '>' ∧ p.isQuoted = false) := fun ⟨heq, hquoted⟩ =>
    hend.elim (· heq) fun h => by rw [hquoted] at h; cases h
  rw [readFrom, if_neg hgoes, h]
  simp

theorem readFrom_name {w : List Char} (h : ∀ c ∈ w, endsName c = false) (n cs : List Char) :
    readFrom (.name n) (w ++ cs) = readFrom (.name (n ++ w)) cs := by
  induction w generalizing n with
  | nil => rw [List.append_nil, List.nil_append]
  | cons c w ih =>
    obtain ⟨hc, hw⟩ := List.forall_mem_cons.1 h
    simp only [endsName, isSkipped, Bool.or_eq_false_iff, decide_eq_false_iff_not] at hc
    obtain ⟨⟨⟨hblank, hslash⟩, hequals⟩, hbracket⟩ := hc
    have hstep : (TagPlace.name n).step c = ([], .name (n ++ [c])) := by
      simp [TagPlace.step, hblank, hslash, hequals]
    rw [List.cons_append, readFrom_of_step hstep (.inl hbracket), ih hw, List.append_assoc, List.singleton_append]

theorem readFrom_quoted {q : Char} {w : List Char} (h : q ∉ w) (n v cs : List Char) :
    readFrom (.quoted q n v) (w ++ cs) = readFrom (.quoted q n (v ++ w)) cs := by
  induction w generalizing v with
  | nil => rw [List.append_nil, List.nil_append]
  | cons c w ih =>
    obtain ⟨hc, hw⟩ := List.ne_and_not_mem_of_not_mem_cons h
    have hstep : (TagPlace.quoted q n v).step c = ([], .quoted q n (v ++ [c])) := if_neg hc.symm
    rw [List.cons_append, readFrom_of_step hstep (.inr rfl), ih hw, List.append_assoc, List.singleton_append]

/-- What follows the first character of a name goes on with it. -/
theorem IsAttributeName.endsName_eq {name : String} (h : IsAttributeName name) {c : Char} {w : List Char}
    (hname : name.toList = c :: w) : ∀ x ∈ w, endsName x = false := by
  intro x hx
  obtain ⟨hskip, hplain⟩ := h.chars x (hname ▸ List.mem_cons_of_mem c hx)
  have hequals : x ≠ '=' := fun heq => h.equals (by rw [hname, ← heq]; exact hx)
  have hbracket : x ≠ '>' := fun heq => by
    rw [heq] at hplain
    exact absurd hplain (by decide)
  simp [endsName, hskip, hequals, hbracket]

/-- An attribute whose name stands for itself is read as it was written. -/
theorem readFrom_attribute {a : Attribute} (h : IsAttributeName a.name) (cs : List Char) :
    readFrom before (a.chars ++ cs) = (readFrom before cs).map fun r => (a :: r.1, r.2) := by
  obtain ⟨c, w, hname⟩ := List.exists_cons_of_ne_nil h.ne_nil
  obtain ⟨hskip, hplain⟩ := h.chars c (hname ▸ List.mem_cons_self)
  have hbracket : c ≠ '>' := fun heq => by
    rw [heq] at hplain
    exact absurd hplain (by decide)
  have hescape : escape a.name.toList = c :: w := by
    rw [escape_eq_self fun x hx => (h.chars x hx).2, hname]
  have hquote : '"' ∉ escape a.value.toList := not_mem_escape (.inr (.inr (.inl rfl))) _
  have hchars : a.chars ++ cs = ' ' :: c :: (w ++ '=' :: '"' :: (escape a.value.toList ++ '"' :: cs)) := by
    simp [Attribute.chars, hescape]
  have hdone : attributeOf (c :: w) (escape a.value.toList) = a := by
    rw [attributeOf, unescape_escape, ← hname, String.ofList_toList, String.ofList_toList]
  have hblank : before.step ' ' = ([], before) := rfl
  have hfirst : before.step c = ([], .name [c]) := by simp [TagPlace.step, hskip]
  have hequals : (TagPlace.name (c :: w)).step '=' = ([], .beforeValue (c :: w)) := rfl
  have hopen : (TagPlace.beforeValue (c :: w)).step '"' = ([], .quoted '"' (c :: w) []) := rfl
  have hclose : (TagPlace.quoted '"' (c :: w) (escape a.value.toList)).step '"' = ([a], before) := by
    rw [TagPlace.step, if_pos rfl, hdone]
  calc readFrom before (a.chars ++ cs)
      = readFrom (.name (c :: w)) ('=' :: '"' :: (escape a.value.toList ++ '"' :: cs)) := by
        rw [hchars, readFrom_of_step hblank (.inl (by decide)), readFrom_of_step hfirst (.inl hbracket),
          readFrom_name (h.endsName_eq hname), List.singleton_append]
    _ = readFrom (.quoted '"' (c :: w) (escape a.value.toList)) ('"' :: cs) := by
        rw [readFrom_of_step hequals (.inl (by decide)), readFrom_of_step hopen (.inl (by decide)),
          readFrom_quoted hquote, List.nil_append]
    _ = (readFrom before cs).map fun r => (a :: r.1, r.2) := by
        rw [readFrom, if_neg (by simp), hclose]
        rfl

/-! ## Names that do not stand for themselves -/

/-- A reference has no character that ends a name. -/
theorem endsName_of_mem_escapeChar {c x : Char} (h : x ∈ escapeChar c) : x = c ∨ endsName x = false := by
  cases hplain : isReferred c with
  | false =>
    rw [escapeChar_eq hplain] at h
    exact .inl (List.mem_singleton.1 h)
  | true =>
    simp only [isReferred, Bool.or_eq_true, decide_eq_true_eq] at hplain
    have hreference : (escapeChar c).all (!endsName ·) = true := by
      obtain (((rfl | rfl) | rfl) | rfl) | rfl := hplain <;> rfl
    exact .inr (by simpa using List.all_eq_true.1 hreference x h)

theorem endsName_of_mem_escape {cs : List Char} (h : ∀ x ∈ cs, endsName x = false) :
    ∀ x ∈ escape cs, endsName x = false := by
  intro x hx
  obtain ⟨c, hc, hx⟩ := List.mem_flatMap.1 hx
  obtain rfl | hends := endsName_of_mem_escapeChar hx
  · exact h x hc
  · exact hends

/-- A name that starts with no blank and no slash is written with such a start. -/
theorem exists_cons_escapeChar {c : Char} (h : isSkipped c = false) :
    ∃ d ds, escapeChar c = d :: ds ∧ isSkipped d = false ∧ ∀ x ∈ ds, endsName x = false := by
  cases hplain : isReferred c with
  | false => exact ⟨c, [], escapeChar_eq hplain, h, nofun⟩
  | true =>
    simp only [isReferred, Bool.or_eq_true, decide_eq_true_eq] at hplain
    have hrest : ∀ ds : List Char, ds.all (!endsName ·) = true → ∀ x ∈ ds, endsName x = false := fun ds hds x hx => by
      simpa using List.all_eq_true.1 hds x hx
    obtain (((rfl | rfl) | rfl) | rfl) | rfl := hplain <;> exact ⟨'&', _, rfl, rfl, hrest _ rfl⟩

/-- What is read of a written name, up to the equals sign after it, is the name only if it stands for itself. -/
theorem isAttributeName_of_firstName {name : String} {cs : List Char}
    (h : before.firstName (escape name.toList ++ '=' :: cs) = some name.toList) : IsAttributeName name := by
  rw [TagPlace.firstName] at h
  split at h
  · cases h
  · rename_i c rest hdrop
    split at h
    · cases h
    · have hname : c :: rest.takeWhile (!endsName ·) = name.toList := Option.some.inj h
      have hskip : isSkipped c = false := by
        have hhead := List.head?_dropWhile_not isSkipped (escape name.toList ++ '=' :: cs)
        rwa [hdrop] at hhead
      have hends : ∀ x ∈ rest.takeWhile (!endsName ·), endsName x = false := fun x hx => by
        simpa using List.mem_takeWhile_imp hx
      generalize hu : rest.takeWhile (!endsName ·) = u at hname hends
      obtain ⟨d, ds, hd, hdskip, hds⟩ := exists_cons_escapeChar hskip
      have hescape : escape name.toList = d :: (ds ++ escape u) := by
        rw [← hname, escape, List.flatMap_cons, hd]
        rfl
      -- Nothing is skipped and the name goes on to the equals sign, so all that was written is read.
      rw [hescape, List.cons_append, List.dropWhile_cons_of_neg (by simp [hdskip])] at hdrop
      obtain ⟨rfl, rfl⟩ := List.cons.inj hdrop
      have hall : ∀ x ∈ ds ++ escape u, (!endsName x) = true := by
        intro x hx
        obtain hx | hx := List.mem_append.1 hx
        · simp [hds x hx]
        · simp [endsName_of_mem_escape hends x hx]
      rw [List.takeWhile_append_of_pos hall, List.takeWhile_cons_of_neg (by decide), List.append_nil] at hu
      have hself : escape name.toList = name.toList := by rw [hescape, hu, hname]
      have hplain := isReferred_of_escape_eq hself
      refine ⟨by rw [← hname]; exact List.cons_ne_nil _ _, fun x hx => ⟨?_, hplain x hx⟩, ?_⟩
      · rw [← hname] at hx
        obtain rfl | hx := List.mem_cons.1 hx
        · exact hskip
        · have := hends x hx
          simp only [endsName, Bool.or_eq_false_iff] at this
          exact this.1.1
      · rw [← hname]
        exact fun hx => absurd (hends '=' hx) (by decide)

/-- The attributes of a tag are read as they were written just if their names stand for themselves. -/
theorem readFrom_attributes {as : List Attribute} {rest : List Char} :
    readFrom before (as.flatMap Attribute.chars ++ '>' :: rest) = some (as, rest) ↔
      ∀ a ∈ as, IsAttributeName a.name := by
  induction as with
  | nil => exact iff_of_true rfl nofun
  | cons a as ih =>
    rw [List.flatMap_cons, List.append_assoc, List.forall_mem_cons, ← ih]
    by_cases ha : IsAttributeName a.name
    · rw [readFrom_attribute ha, and_iff_right ha]
      constructor
      · intro hread
        obtain ⟨⟨as', rest'⟩, hrest, heq⟩ := Option.map_eq_some_iff.1 hread
        obtain ⟨has, hrests⟩ := Prod.mk.inj heq
        obtain rfl : as' = as := (List.cons.inj has).2
        obtain rfl : rest' = rest := hrests
        exact hrest
      · intro hread
        rw [hread]
        rfl
    · refine iff_of_false (fun hread => ha ?_) fun hboth => ha hboth.1
      have hchars : a.chars ++ (as.flatMap Attribute.chars ++ '>' :: rest) =
          ' ' :: (escape a.name.toList ++ '=' :: '"' :: (escape a.value.toList ++ '"' ::
            (as.flatMap Attribute.chars ++ '>' :: rest))) := by
        simp [Attribute.chars]
      have hhead := head?_readFrom hread
      rw [hchars] at hhead
      obtain ⟨n, hfirst, hn⟩ := Option.map_eq_some_iff.1 hhead.symm
      obtain rfl : n = a.name.toList := by rw [← hn, String.toList_ofList]
      exact isAttributeName_of_firstName hfirst

/-- The name of a written tag ends where its attributes begin, or the tag. -/
theorem span_tag {tag : String} (h : IsTagName tag) (as : List Attribute) (rest : List Char) :
    (tag.toList ++ (as.flatMap Attribute.chars ++ '>' :: rest)).takeWhile (!isTagEnd ·) = tag.toList ∧
      (tag.toList ++ (as.flatMap Attribute.chars ++ '>' :: rest)).dropWhile (!isTagEnd ·) =
        as.flatMap Attribute.chars ++ '>' :: rest := by
  have htag : ∀ c ∈ tag.toList, (!isTagEnd c) = true := fun c hc => by
    simp only [isTagEnd, isSkipped, isTagBlank]
    have hne : ∀ x, x.isAlphanum = false → c ≠ x := fun x hx heq => h.not_mem hx (heq ▸ hc)
    simp [hne]
  have hhead : ∃ c cs, as.flatMap Attribute.chars ++ '>' :: rest = c :: cs ∧ isTagEnd c = true := by
    cases as with
    | nil => exact ⟨'>', rest, rfl, rfl⟩
    | cons a as => exact ⟨' ', _, rfl, rfl⟩
  obtain ⟨c, cs, hcs, hc⟩ := hhead
  rw [List.takeWhile_append_of_pos htag, List.dropWhile_append_of_pos htag, hcs,
    List.takeWhile_cons_of_neg (by simp [hc]), List.dropWhile_cons_of_neg (by simp [hc]), List.append_nil]
  exact ⟨rfl, rfl⟩

/-- A written tag is read with its attributes just if their names stand for themselves. -/
theorem readOpening_chars {tag : String} (h : IsTagName tag) {as : List Attribute} {rest : List Char} :
    readOpening ((Token.opening tag as).chars ++ rest) = some (.opening tag as, rest) ↔
      ∀ a ∈ as, IsAttributeName a.name := by
  obtain ⟨htake, hdrop⟩ := span_tag h as rest
  have hchars : (Token.opening tag as).chars ++ rest =
      '<' :: (tag.toList ++ (as.flatMap Attribute.chars ++ '>' :: rest)) := by
    simp [Token.chars]
  rw [hchars, readOpening, htake, hdrop, ← @readFrom_attributes as rest, String.ofList_toList,
    Option.map_eq_some_iff]
  constructor
  · rintro ⟨⟨as', rest'⟩, hread, heq⟩
    obtain ⟨htoken, hrest⟩ := Prod.mk.inj heq
    obtain rfl : as' = as := (Token.opening.inj htoken).2
    obtain rfl : rest' = rest := hrest
    exact hread
  · exact fun hread => ⟨(as, rest), hread, rfl⟩

end GuideSite.Markup
