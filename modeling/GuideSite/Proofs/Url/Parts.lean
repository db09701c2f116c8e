import GuideSite.Proofs.Path.Plain
import GuideSite.Url.Basic

/-!
# The parts of plain URLs

A URL is cut at delimiters, and a plain path and the name of a host hold none of them. So an address and a link of plain
paths have just the parts that they were put together from, and the other parts are not there.

* `cutAt_part`: a part is cut off at its delimiter again.
* `parse_eq_ok`: what is left after the authority.
* `parse_address`, `parse_reference`: the parts of an address and of a link.
-/

namespace GuideSite.Url

open GuideSite.Path (IsPathChar IsPlainSegment isPlainChar)

/-! ## Cutting -/

section Cutting

variable {d : Char} {cs : List Char}

theorem cutAt_of_not_mem (h : d ∉ cs) : cutAt d cs = (cs, none) := by
  have hall : ∀ c ∈ cs, decide (c ≠ d) = true := fun c hmem => decide_eq_true fun heq => h (heq ▸ hmem)
  rw [cutAt, List.dropWhile_eq_nil_iff.2 hall]

theorem cutAt_append (h : d ∉ cs) (rest : List Char) : cutAt d (cs ++ d :: rest) = (cs, some rest) := by
  have hall : ∀ c ∈ cs, decide (c ≠ d) = true := fun c hmem => decide_eq_true fun heq => h (heq ▸ hmem)
  rw [cutAt, List.dropWhile_append_of_pos hall, List.takeWhile_append_of_pos hall]
  simp

/-- A part is cut off again at its delimiter. -/
theorem cutAt_part (h : d ∉ cs) (rest : List Char) :
    (cutAt d (cs ++ part d rest)).1 = cs ∧ (cutAt d (cs ++ part d rest)).2.getD [] = rest := by
  by_cases hrest : rest = []
  · rw [hrest, part, if_pos rfl, List.append_nil, cutAt_of_not_mem h]
    exact ⟨rfl, rfl⟩
  · rw [part, if_neg hrest, cutAt_append h]
    exact ⟨rfl, rfl⟩

theorem cutParams_of_not_mem (h : ';' ∉ cs) : cutParams cs = (cs, []) := by
  have hlast : ';' ∉ (cs.reverse.takeWhile (· ≠ '/')).reverse := fun hmem =>
    h (List.mem_reverse.1 ((List.takeWhile_sublist _).subset (List.mem_reverse.1 hmem)))
  rw [cutParams, cutAt_of_not_mem hlast]

end Cutting

/-! ## Characters -/

/-- A character of a host. Beyond ASCII every character counts that does not hide a delimiter. -/
def isHostChar (c : Char) : Bool :=
  if c.toNat < 0x80 then c.isAlphanum || c == '-' || c == '.' else !hiddenDelimiters.contains c.toNat

/-- No control and no space is in a path. -/
theorem toNat_of_isPathChar {c : Char} (h : IsPathChar c) : 0x20 < c.toNat := by
  obtain rfl | hplain := h
  · decide
  · by_contra hsmall
    have hc : isPlainChar c = false :=
      @Path.forall_char_lt (fun c => isPlainChar c = false) 0x21 (by decide) c (by omega)
    rw [hplain] at hc
    cases hc

theorem toNat_of_isHostChar {c : Char} (h : isHostChar c = true) : 0x20 < c.toNat := by
  by_contra hsmall
  have hc : isHostChar c = false :=
    @Path.forall_char_lt (fun c => isHostChar c = false) 0x21 (by decide) c (by omega)
  rw [h] at hc
  cases hc

theorem cleaned_eq_self {cs : List Char} (h : ∀ c ∈ cs, 0x20 < c.toNat) : cleaned cs = cs := by
  have hstart : cs.dropWhile (fun c => decide (c.toNat ≤ 0x20)) = cs := by
    cases cs with
    | nil => rfl
    | cons c cs =>
      have hc := h c List.mem_cons_self
      exact List.dropWhile_cons_of_neg (by simpa using hc)
  rw [cleaned, hstart, List.filter_eq_self]
  intro c hmem
  have hne : ∀ d : Char, d.toNat ≤ 0x20 → c ≠ d := by
    rintro d hd rfl
    exact absurd (h c hmem) (by omega)
  simp [hne '\t' (by decide), hne '\r' (by decide), hne '\n' (by decide)]

/-! ## The parts of an address -/

theorem checkAuthority_eq_ok {host : List Char} (h : ∀ c ∈ host, isHostChar c = true) :
    checkAuthority host = .ok () := by
  have hopen : '[' ∉ host := fun hmem => absurd (h _ hmem) (by decide)
  have hclose : ']' ∉ host := fun hmem => absurd (h _ hmem) (by decide)
  have hhidden : ∀ c ∈ host, c.toNat ∉ hiddenDelimiters := by
    intro c hmem hhidden
    have hc := h c hmem
    have hlarge : ∀ n ∈ hiddenDelimiters, ¬n < 0x80 := by decide
    rw [isHostChar, if_neg (hlarge _ hhidden)] at hc
    simp [hhidden] at hc
  simpa [checkAuthority, hopen, hclose, pure, Except.pure] using hhidden

/-- The parts after the authority are a path and a fragment, if there are no other delimiters. -/
theorem parse_eq_ok {scheme scheme' text rest authority path fragment : List Char}
    (hscheme : (cutScheme? (cleaned text)).getD (scheme, cleaned text) = (scheme', rest))
    (hauthority : cutAuthority rest = (authority, path ++ part '#' fragment))
    (hcheck : checkAuthority authority = .ok ()) (hpath : ∀ c ∈ path, IsPathChar c) :
    parse scheme text = .ok ⟨scheme', authority, path, [], [], fragment⟩ := by
  have hnot : ∀ d, isPlainChar d = false → d ≠ '/' → d ∉ path := fun d => Path.not_mem_of_isPathChar hpath
  obtain ⟨hbefore, hafter⟩ := cutAt_part (hnot '#' (by decide) (by decide)) fragment
  rw [parse, hscheme]
  dsimp only
  rw [hauthority]
  dsimp only
  rw [hcheck]
  cases hcut : cutAt '#' (path ++ part '#' fragment) with
  | mk before after =>
    rw [hcut] at hbefore hafter
    subst hbefore hafter
    simp only [cutAt_of_not_mem (hnot '?' (by decide) (by decide)),
      cutParams_of_not_mem (hnot ';' (by decide) (by decide)), ite_self]
    rfl

/-- The schemes of web sites. -/
def webSchemes : List String := ["http", "https"]

theorem cutScheme?_web {scheme : String} (h : scheme ∈ webSchemes) (rest : List Char) :
    cutScheme? (scheme.toList ++ ':' :: rest) = some (scheme.toList, rest) := by
  have hcolon : ∀ scheme ∈ webSchemes, ':' ∉ scheme.toList := by decide
  rw [cutScheme?, cutAt_append (hcolon scheme h)]
  simp only [webSchemes, List.mem_cons, List.not_mem_nil, or_false] at h
  obtain rfl | rfl := h <;> rfl

theorem cutScheme?_of_not_mem {cs : List Char} (h : ':' ∉ cs) : cutScheme? cs = none := by
  rw [cutScheme?, cutAt_of_not_mem h]
  cases cs <;> rfl

theorem cutAuthority_of_head?_ne {cs : List Char} (h : cs.head? ≠ some '/') : cutAuthority cs = ([], cs) := by
  rw [cutAuthority.eq_def]
  split
  · exact absurd rfl h
  · rfl

/-- The text of the address of a host and of a path there. -/
def address (scheme : String) (host path : List Char) : List Char :=
  scheme.toList ++ ':' :: '/' :: '/' :: (host ++ path)

/-- An address has the parts that it was put together from. -/
theorem parse_address {scheme : String} (hscheme : scheme ∈ webSchemes) {host path : List Char}
    (hhost : ∀ c ∈ host, isHostChar c = true) (hpath : ∀ c ∈ path, IsPathChar c) :
    parse [] (address scheme host ('/' :: path)) = .ok ⟨scheme.toList, host, '/' :: path, [], [], []⟩ := by
  have hpath' : ∀ c ∈ '/' :: path, IsPathChar c := List.forall_mem_cons.2 ⟨.inl rfl, hpath⟩
  have hprinted : ∀ c ∈ address scheme host ('/' :: path), 0x20 < c.toNat := by
    have hall : ∀ scheme ∈ webSchemes, scheme.toList.all (fun c => decide (0x20 < c.toNat)) = true := by decide
    have hletters : ∀ c ∈ scheme.toList, 0x20 < c.toNat := fun c hmem =>
      of_decide_eq_true (List.all_eq_true.1 (hall scheme hscheme) c hmem)
    simp only [address, List.forall_mem_append, List.forall_mem_cons]
    exact ⟨hletters, by decide, by decide, by decide, fun c hmem => toNat_of_isHostChar (hhost c hmem),
      by decide, fun c hmem => toNat_of_isPathChar (hpath c hmem)⟩
  have hends : ∀ c ∈ host, (!endsAuthority c) = true := by
    intro c hmem
    have hne : ∀ d, isHostChar d = false → c ≠ d := by
      rintro d hd rfl
      rw [hhost c hmem] at hd
      cases hd
    simp [endsAuthority, hne '/' (by decide), hne '?' (by decide), hne '#' (by decide)]
  have hcut : (cutScheme? (cleaned (address scheme host ('/' :: path)))).getD
      ([], cleaned (address scheme host ('/' :: path))) =
        (scheme.toList, '/' :: '/' :: (host ++ '/' :: path)) := by
    rw [cleaned_eq_self hprinted, address, cutScheme?_web hscheme]
    rfl
  have hauthority : cutAuthority ('/' :: '/' :: (host ++ '/' :: path)) = (host, '/' :: path ++ part '#' []) := by
    rw [cutAuthority, List.takeWhile_append_of_pos hends, List.dropWhile_append_of_pos hends]
    simp [endsAuthority, part]
  exact parse_eq_ok hcut hauthority (checkAuthority_eq_ok hhost) hpath'

/-- A reference that starts from the place it is read from. -/
theorem parse_reference (scheme : List Char) {path fragment : List Char} (hpath : ∀ c ∈ path, IsPathChar c)
    (hrelative : path.head? ≠ some '/') (hfragment : ∀ c ∈ fragment, isPlainChar c = true) :
    parse scheme (path ++ part '#' fragment) = .ok ⟨scheme, [], path, [], [], fragment⟩ := by
  have hpart : ∀ c ∈ part '#' fragment, c = '#' ∨ isPlainChar c = true := by
    intro c hmem
    rw [part] at hmem
    split at hmem
    · cases hmem
    · obtain rfl | hmem := List.mem_cons.1 hmem
      · exact .inl rfl
      · exact .inr (hfragment c hmem)
  have hprinted : ∀ c ∈ path ++ part '#' fragment, 0x20 < c.toNat := by
    refine List.forall_mem_append.2 ⟨fun c hmem => toNat_of_isPathChar (hpath c hmem), fun c hmem => ?_⟩
    obtain rfl | hc := hpart c hmem
    · decide
    · exact toNat_of_isPathChar (.inr hc)
  have hcolon : ':' ∉ path ++ part '#' fragment := by
    rw [List.mem_append, not_or]
    refine ⟨Path.not_mem_of_isPathChar hpath (by decide) (by decide), fun hmem => ?_⟩
    obtain hc | hc := hpart ':' hmem
    · exact absurd hc (by decide)
    · exact absurd hc (by decide)
  have hcut : (cutScheme? (cleaned (path ++ part '#' fragment))).getD (scheme, cleaned (path ++ part '#' fragment)) =
      (scheme, path ++ part '#' fragment) := by
    rw [cleaned_eq_self hprinted, cutScheme?_of_not_mem hcolon]
    rfl
  have hhead : (path ++ part '#' fragment).head? ≠ some '/' := by
    rw [List.head?_append]
    cases hpath : path.head? with
    | some c =>
      rw [hpath] at hrelative
      exact hrelative
    | none =>
      rw [part]
      split <;> simp
  exact parse_eq_ok hcut (cutAuthority_of_head?_ne hhead) rfl hpath

end GuideSite.Url
