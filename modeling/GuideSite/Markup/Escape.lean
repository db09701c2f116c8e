/-!
# Escaping for markup

Five characters have a meaning in markup and are written as references; all others stand for themselves. `unescape`
reads the references back.

* `unescape_escape`: reading back what was written gives the text.
* `not_mem_escape`: an escaped text holds none of the characters that end or open markup.
-/

namespace GuideSite.Markup

/-- The reference for a character, or the character itself. -/
def escapeChar (c : Char) : List Char :=
  if c = '&' then ['&', 'a', 'm', 'p', ';']
  else if c = '<' then ['&', 'l', 't', ';']
  else if c = '>' then ['&', 'g', 't', ';']
  else if c = '"' then ['&', '#', '3', '4', ';']
  else if c = '\'' then ['&', '#', '3', '9', ';']
  else [c]

/-- The text with every character that has a meaning in markup written as a reference. -/
def escape (cs : List Char) : List Char := cs.flatMap escapeChar

/-- The text with the five references read back. -/
def unescape : List Char → List Char
  | [] => []
  | '&' :: 'a' :: 'm' :: 'p' :: ';' :: cs => '&' :: unescape cs
  | '&' :: 'l' :: 't' :: ';' :: cs => '<' :: unescape cs
  | '&' :: 'g' :: 't' :: ';' :: cs => '>' :: unescape cs
  | '&' :: '#' :: '3' :: '4' :: ';' :: cs => '"' :: unescape cs
  | '&' :: '#' :: '3' :: '9' :: ';' :: cs => '\'' :: unescape cs
  | c :: cs => c :: unescape cs

theorem escape_append (xs ys : List Char) : escape (xs ++ ys) = escape xs ++ escape ys :=
  List.flatMap_append

/-- A character that starts no reference stands for itself. -/
theorem unescape_cons {c : Char} (h : c ≠ '&') (cs : List Char) : unescape (c :: cs) = c :: unescape cs := by
  rw [unescape.eq_def]
  split <;> simp_all

/-- What was written for one character is read back before anything that follows. -/
theorem unescape_escapeChar_append (c : Char) (cs : List Char) : unescape (escapeChar c ++ cs) = c :: unescape cs := by
  unfold escapeChar
  by_cases h₁ : c = '&'
  · subst h₁; rfl
  by_cases h₂ : c = '<'
  · subst h₂; rfl
  by_cases h₃ : c = '>'
  · subst h₃; rfl
  by_cases h₄ : c = '"'
  · subst h₄; rfl
  by_cases h₅ : c = '\''
  · subst h₅; rfl
  simp only [h₁, h₂, h₃, h₄, h₅, if_false, List.singleton_append]
  exact unescape_cons h₁ cs

/-- Reading back what was written gives the text. -/
theorem unescape_escape (cs : List Char) : unescape (escape cs) = cs := by
  induction cs with
  | nil => rfl
  | cons c cs ih => rw [escape, List.flatMap_cons, unescape_escapeChar_append, ← escape, ih]

theorem not_mem_escapeChar {x : Char} (hx : x = '<' ∨ x = '>' ∨ x = '"' ∨ x = '\'') (c : Char) :
    x ∉ escapeChar c := by
  unfold escapeChar
  rcases hx with rfl | rfl | rfl | rfl <;> repeat' split
  all_goals simp_all [eq_comm]

/-- An escaped text holds no quotation mark and no angle bracket. -/
theorem not_mem_escape {x : Char} (hx : x = '<' ∨ x = '>' ∨ x = '"' ∨ x = '\'') (cs : List Char) :
    x ∉ escape cs := fun h =>
  have ⟨c, _, hc⟩ := List.mem_flatMap.1 h
  not_mem_escapeChar hx c hc

end GuideSite.Markup
