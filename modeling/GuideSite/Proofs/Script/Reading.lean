import GuideSite.Script.Literal
import Mathlib.Data.Nat.Digits.Defs
import Mathlib.Tactic.IntervalCases

/-!
# Reading string literals

A script reads a literal character by character up to the apostrophe that no backslash stands before. What it gets are
UTF-16 units: an escape with digits is one unit, any other escape and every character that stands for itself is its own
units. From the units a text comes back, two surrogates together for a character beyond the first 65536.

* `readFrom_apostropheChar`: one written character is read as its units.
* `readLiteral_apostropheLiteral`: a literal is read up to its end, whatever follows it.
* `isPlainAscii_apostropheLiteral`: a literal has printable characters of ASCII only.
* `ofUnits?_flatMap_units`: the units of a text give the text.
-/

namespace GuideSite.Script

/-! ## The reader -/

/-- A character that ends the line, which no literal goes beyond. -/
def endsLine (c : Char) : Bool :=
  c = '\n' || c = '\r' || c.toNat = 0x2028 || c.toNat = 0x2029

/-- The value of a hexadecimal digit. -/
def digitValue? (c : Char) : Option Nat :=
  if '0' ≤ c ∧ c ≤ '9' then some (c.toNat - 48)
  else if 'a' ≤ c ∧ c ≤ 'f' then some (c.toNat - 87)
  else if 'A' ≤ c ∧ c ≤ 'F' then some (c.toNat - 55)
  else none

/-- The units of a character after a backslash. A letter may stand for a control character; octal escapes and continued
lines are left out. -/
def escapedUnits? (c : Char) : Option (List Nat) :=
  if c = 'b' then some [0x08]
  else if c = 't' then some [0x09]
  else if c = 'n' then some [0x0A]
  else if c = 'v' then some [0x0B]
  else if c = 'f' then some [0x0C]
  else if c = 'r' then some [0x0D]
  else if c.isDigit || endsLine c then none
  else some (units c)

/-- A place in a literal. -/
inductive LiteralPlace
  | text
  /-- After a backslash. -/
  | escape
  /-- Before a digit of a unit that has `left` more after it; `value` is what the digits before it say. -/
  | code (left value : Nat)

/-- What was read, with units before it. -/
def preceded (us : List Nat) (r : List Nat × List Char) : List Nat × List Char := (us ++ r.1, r.2)

/-- The units from a place up to the end of the literal, and what follows the literal. -/
def readFrom : LiteralPlace → List Char → Option (List Nat × List Char)
  | _, [] => none
  | .text, c :: cs =>
    if c = '\'' then some ([], cs)
    else if c = '\\' then readFrom .escape cs
    else if endsLine c then none
    else (readFrom .text cs).map (preceded (units c))
  | .escape, c :: cs =>
    if c = 'u' then readFrom (.code 3 0) cs
    else if c = 'x' then readFrom (.code 1 0) cs
    else (escapedUnits? c).bind fun us => (readFrom .text cs).map (preceded us)
  | .code left value, c :: cs =>
    (digitValue? c).bind fun d => match left with
      | 0 => (readFrom .text cs).map (preceded [16 * value + d])
      | left + 1 => readFrom (.code left (16 * value + d)) cs

/-- The units of the literal between apostrophes that a text starts with, and what follows it. -/
def readLiteral : List Char → Option (List Nat × List Char)
  | '\'' :: cs => readFrom .text cs
  | _ => none

theorem map_preceded_nil (r : Option (List Nat × List Char)) : r.map (preceded []) = r := by
  cases r <;> rfl

theorem map_preceded_map (us vs : List Nat) (r : Option (List Nat × List Char)) :
    (r.map (preceded vs)).map (preceded us) = r.map (preceded (us ++ vs)) := by
  cases r <;> simp [preceded]

/-! ## Digits -/

/-- The last of several digits tells the number from its sixteenth part. -/
theorem hexDigits_succ {width : Nat} (hwidth : 0 < width) (n : Nat) :
    Text.hexDigits (width + 1) n = Text.hexDigits width (n / 16) ++ [Nat.digitChar (n % 16)] := by
  by_cases h : n < 16
  · obtain ⟨w, rfl⟩ : ∃ w, width = w + 1 := ⟨width - 1, by omega⟩
    simp [Text.hexDigits, Nat.toDigits_of_lt_base h, Nat.div_eq_of_lt h, Nat.mod_eq_of_lt h, List.replicate_succ']
  · have hdigits : Nat.toDigits 16 n = Nat.toDigits 16 (n / 16) ++ [Nat.digitChar (n % 16)] := by
      rw [Nat.toDigits_eq_if (by decide), if_neg h]
    simp [Text.hexDigits, hdigits]

/-- A unit is written with four digits. -/
theorem hexDigits_four {n : Nat} (h : n < 0x10000) : Text.hexDigits 4 n =
    [Nat.digitChar (n / 4096), Nat.digitChar (n / 256 % 16), Nat.digitChar (n / 16 % 16), Nat.digitChar (n % 16)] := by
  have hfirst : Text.hexDigits 1 (n / 16 / 16 / 16) = [Nat.digitChar (n / 4096)] := by
    have hdiv : n / 16 / 16 / 16 = n / 4096 := by omega
    rw [hdiv, Text.hexDigits, Nat.toDigits_of_lt_base (by omega)]
    rfl
  have hsecond : n / 16 / 16 % 16 = n / 256 % 16 := by omega
  rw [hexDigits_succ (by decide), hexDigits_succ (by decide), hexDigits_succ (by decide), hfirst, hsecond]
  rfl

theorem digitValue?_digitChar {d : Nat} (h : d < 16) : digitValue? (Nat.digitChar d) = some d := by
  interval_cases d <;> rfl

/-- The digits of a unit are read as the unit. -/
theorem readFrom_hexDigits {n : Nat} (h : n < 0x10000) (cs : List Char) :
    readFrom (.code 3 0) (Text.hexDigits 4 n ++ cs) = (readFrom .text cs).map (preceded [n]) := by
  have hvalue : 16 * (16 * (16 * (16 * 0 + n / 4096) + n / 256 % 16) + n / 16 % 16) + n % 16 = n := by omega
  rw [hexDigits_four h]
  simp only [List.cons_append, List.nil_append, readFrom, Option.bind_some,
    digitValue?_digitChar (show n / 4096 < 16 by omega), digitValue?_digitChar (Nat.mod_lt _ (by decide : 0 < 16)),
    hvalue]

/-! ## Characters -/

theorem readFrom_unitEscape {n : Nat} (h : n < 0x10000) (cs : List Char) :
    readFrom .text (unitEscape n ++ cs) = (readFrom .text cs).map (preceded [n]) := by
  rw [← readFrom_hexDigits h]
  rfl

/-- A unit has at most 16 bits. -/
theorem lt_of_mem_units {c : Char} {n : Nat} (h : n ∈ units c) : n < 0x10000 := by
  have hvalid : c.toNat < 0xD800 ∨ 0xDFFF < c.toNat ∧ c.toNat < 0x110000 := c.valid
  simp only [units] at h
  split at h
  · simp only [List.mem_singleton] at h
    omega
  · simp only [List.mem_cons, List.not_mem_nil, or_false] at h
    omega

theorem readFrom_unitEscapes {us : List Nat} (h : ∀ n ∈ us, n < 0x10000) (cs : List Char) :
    readFrom .text (us.flatMap unitEscape ++ cs) = (readFrom .text cs).map (preceded us) := by
  induction us with
  | nil => exact (map_preceded_nil _).symm
  | cons n us ih =>
    obtain ⟨hn, hus⟩ := List.forall_mem_cons.1 h
    rw [List.flatMap_cons, List.append_assoc, readFrom_unitEscape hn, ih hus, map_preceded_map]
    rfl

/-- One written character is read as its units, before whatever follows it. -/
theorem readFrom_apostropheChar (c : Char) (cs : List Char) :
    readFrom .text (apostropheChar c ++ cs) = (readFrom .text cs).map (preceded (units c)) := by
  have hcode : ∀ {n}, c.toNat = n → c = Char.ofNat n := fun h => by rw [← h, Char.ofNat_toNat]
  unfold apostropheChar
  by_cases happly : c = '\''
  · subst happly
    rfl
  rw [if_neg happly]
  fun_cases literalChar c with
  | case1 | case2 | case3 | case4 | case5 => subst_vars; rfl
  | case6 _ _ _ _ _ h => rw [hcode h]; rfl
  | case7 _ _ _ _ _ _ h => rw [hcode h]; rfl
  | case8 _ hslash hline hreturn _ _ _ hplain =>
    have hends : endsLine c = false := by
      have h2028 : c.toNat ≠ 0x2028 := by omega
      have h2029 : c.toNat ≠ 0x2029 := by omega
      simp [endsLine, hline, hreturn, h2028, h2029]
    simp [readFrom, happly, hslash, hends]
  | case9 => exact readFrom_unitEscapes (fun _ => lt_of_mem_units) cs

/-- A literal is read up to its end, whatever follows it. -/
theorem readLiteral_apostropheLiteral (s : String) (rest : List Char) :
    readLiteral ((apostropheLiteral s).toList ++ rest) = some (s.toList.flatMap units, rest) := by
  have hchars : ∀ cs : List Char, readFrom .text (cs.flatMap apostropheChar ++ '\'' :: rest) =
      some (cs.flatMap units, rest) := by
    intro cs
    induction cs with
    | nil => rfl
    | cons c cs ih =>
      rw [List.flatMap_cons, List.append_assoc, readFrom_apostropheChar, ih, List.flatMap_cons]
      rfl
  rw [apostropheLiteral, String.toList_ofList, List.cons_append, List.append_assoc]
  exact hchars s.toList

/-! ## ASCII -/

/-- A character of ASCII that is printed. -/
def IsPlainAscii (c : Char) : Prop := 0x20 ≤ c.toNat ∧ c.toNat < 0x7F

instance (c : Char) : Decidable (IsPlainAscii c) := inferInstanceAs (Decidable (_ ∧ _))

/-- For listed characters the property can be computed. -/
theorem isPlainAscii_of_all {cs : List Char} (h : cs.all (fun c => decide (IsPlainAscii c)) = true) :
    ∀ c ∈ cs, IsPlainAscii c := fun c hc => of_decide_eq_true (List.all_eq_true.1 h c hc)

theorem isPlainAscii_unitEscape {n : Nat} (h : n < 0x10000) : ∀ c ∈ unitEscape n, IsPlainAscii c := by
  have hdigit : ∀ d < 16, IsPlainAscii (Nat.digitChar d) := by decide
  have hmod : ∀ n, IsPlainAscii (Nat.digitChar (n % 16)) := fun n => hdigit _ (Nat.mod_lt _ (by decide))
  rw [unitEscape, hexDigits_four h]
  simp only [List.forall_mem_cons]
  exact ⟨by decide, by decide, hdigit _ (by omega), hmod _, hmod _, hmod _, nofun⟩

theorem isPlainAscii_apostropheChar (c : Char) : ∀ x ∈ apostropheChar c, IsPlainAscii x := by
  unfold apostropheChar
  split
  · exact isPlainAscii_of_all rfl
  fun_cases literalChar c with
  | case1 | case2 | case3 | case4 | case5 | case6 | case7 => exact isPlainAscii_of_all rfl
  | case8 _ _ _ _ _ _ _ hplain => exact List.forall_mem_singleton.2 hplain
  | case9 =>
    intro x hx
    obtain ⟨n, hn, hx⟩ := List.mem_flatMap.1 hx
    exact isPlainAscii_unitEscape (lt_of_mem_units hn) x hx

/-- A literal has printable characters of ASCII only, so none that ends a line. -/
theorem isPlainAscii_apostropheLiteral (s : String) : ∀ c ∈ (apostropheLiteral s).toList, IsPlainAscii c := by
  rw [apostropheLiteral, String.toList_ofList, List.forall_mem_cons, List.forall_mem_append]
  refine ⟨by decide, fun c hc => ?_, isPlainAscii_of_all rfl⟩
  obtain ⟨x, -, hc⟩ := List.mem_flatMap.1 hc
  exact isPlainAscii_apostropheChar x c hc

/-! ## The text of units -/

/-- The first of two surrogates. -/
def isHigh (n : Nat) : Bool := 0xD800 ≤ n && n < 0xDC00

/-- The second of two surrogates. -/
def isLow (n : Nat) : Bool := 0xDC00 ≤ n && n < 0xE000

/-- The text of UTF-16 units, in which surrogates come in pairs. -/
def ofUnits? : List Nat → Option (List Char)
  | [] => some []
  | n :: ns =>
    if isHigh n then match ns with
      | m :: ms =>
        if isLow m then (ofUnits? ms).map (Char.ofNat (0x10000 + (n - 0xD800) * 0x400 + (m - 0xDC00)) :: ·) else none
      | [] => none
    else if isLow n then none
    else (ofUnits? ns).map (Char.ofNat n :: ·)

/-- The units of a character give the character. -/
theorem ofUnits?_units (c : Char) (ns : List Nat) : ofUnits? (units c ++ ns) = (ofUnits? ns).map (c :: ·) := by
  have hvalid : c.toNat < 0xD800 ∨ 0xDFFF < c.toNat ∧ c.toNat < 0x110000 := c.valid
  simp only [units]
  split
  · have hhigh : isHigh c.toNat = false := by
      simp only [isHigh, Bool.and_eq_false_iff, decide_eq_false_iff_not]
      omega
    have hlow : isLow c.toNat = false := by
      simp only [isLow, Bool.and_eq_false_iff, decide_eq_false_iff_not]
      omega
    rw [List.singleton_append, ofUnits?.eq_def]
    simp only [hhigh, hlow, if_false, Bool.false_eq_true, Char.ofNat_toNat]
  · have hhigh : isHigh (0xD800 + (c.toNat - 0x10000) / 0x400) = true := by
      simp only [isHigh, Bool.and_eq_true, decide_eq_true_eq]
      omega
    have hlow : isLow (0xDC00 + (c.toNat - 0x10000) % 0x400) = true := by
      simp only [isLow, Bool.and_eq_true, decide_eq_true_eq]
      omega
    have hvalue : 0x10000 + (0xD800 + (c.toNat - 0x10000) / 0x400 - 0xD800) * 0x400 +
        (0xDC00 + (c.toNat - 0x10000) % 0x400 - 0xDC00) = c.toNat := by omega
    simp only [List.cons_append, List.nil_append, ofUnits?, hhigh, hlow, if_true, hvalue, Char.ofNat_toNat]

/-- The units of a text give the text. -/
theorem ofUnits?_flatMap_units (cs : List Char) : ofUnits? (cs.flatMap units) = some cs := by
  induction cs with
  | nil => rfl
  | cons c cs ih => rw [List.flatMap_cons, ofUnits?_units, ih, Option.map_some]

end GuideSite.Script
