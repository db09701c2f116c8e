import GuideSite.Yaml.Cursor

/-!
# Block scalars

A block scalar is the lines below its header that are indented at least as far as the first of them. In the literal
style the lines stay as they are; in the folded style the break between two lines becomes a space, unless one of them
starts with a blank. The header says what becomes of the breaks at the end.
-/

namespace GuideSite.Yaml

/-! ## Header -/

/-- What becomes of the line breaks at the end of a block scalar. -/
inductive Chomping
  /-- One is kept. -/
  | clip
  | keep
  | strip
  deriving DecidableEq

/-- The header: what becomes of the last breaks, and how much deeper than its parent the text is indented, if that is
given. -/
structure BlockHeader where
  chomping : Chomping
  deeper : Option Nat

/-- The chomping that a text starts with. -/
def chomping? : List Char → Option (Chomping × List Char)
  | '+' :: cs => some (.keep, cs)
  | '-' :: cs => some (.strip, cs)
  | _ => none

/-- The indentation that a text starts with, a single digit. -/
def deeper? : List Char → Option (Nat × List Char)
  | [] => none
  | c :: cs => if c.isDigit then some (c.toNat - '0'.toNat, cs) else none

/-- The rest of a line that may hold a comment, and nothing else; the text after it. -/
def commentLine? (cs : List Char) : Option (List Char) :=
  let after := match cs.dropWhile (· == ' ') with
    | '#' :: rest => rest.dropWhile (!isBreak ·)
    | rest => rest
  match after with
  | [] => some []
  | c :: rest => if isBreak c then some rest else none

/-- The header after the indicator of the style, and the text after its line. -/
def blockHeader? (cs : List Char) : Option (BlockHeader × List Char) := do
  let (header, after) : BlockHeader × List Char := match chomping? cs with
    | some (chomping, cs) => match deeper? cs with
      | some (n, cs) => (⟨chomping, some n⟩, cs)
      | none => (⟨chomping, none⟩, cs)
    | none => match deeper? cs with
      | some (n, cs) => match chomping? cs with
        | some (chomping, cs) => (⟨chomping, some n⟩, cs)
        | none => (⟨.clip, some n⟩, cs)
      | none => (⟨.clip, none⟩, cs)
  if header.deeper = some 0 ∨ !startsSpace after then none
  else (commentLine? after).map (header, ·)

/-! ## Lines -/

/-- Empty lines before the text: their breaks, the column of the first break, the greatest column of a space, and the
text and the column after them. -/
structure BlockLead where
  breaks : List Char
  firstColumn : Option Nat
  widest : Nat
  after : List Char
  column : Nat

/-- The empty lines at the start of a text, from a column on. -/
def blockLead (column : Nat) : List Char → BlockLead
  | [] => ⟨[], none, 0, [], column⟩
  | c :: cs =>
    if c = ' ' then
      let lead := blockLead (column + 1) cs
      { lead with widest := max lead.widest (column + 1) }
    else if isBreak c then
      let lead := blockLead (columnAfter column c) cs
      { lead with breaks := breakChar c :: lead.breaks, firstColumn := some column }
    else ⟨[], none, 0, c :: cs, column⟩

/-- Empty lines inside the text, which may have spaces up to the indentation. -/
structure BlockBreaks where
  breaks : List Char
  after : List Char
  column : Nat

/-- The empty lines at the start of a text, from a column on. -/
def blockBreaks (indent column : Nat) : List Char → BlockBreaks
  | [] => ⟨[], [], column⟩
  | c :: cs =>
    if c = ' ' ∧ column < indent then blockBreaks indent (column + 1) cs
    else if isBreak c then
      let more := blockBreaks indent (columnAfter column c) cs
      { more with breaks := breakChar c :: more.breaks }
    else ⟨[], c :: cs, column⟩

/-- The text starts with a space or a tab. -/
def startsIndented : List Char → Bool
  | [] => false
  | c :: _ => isSpaceOrTab c

/-- Lines of text, the breaks at their end apart: the break of the last line, the empty lines after it, and the text
after them. -/
structure BlockLines where
  text : List Char
  last : List Char
  breaks : List Char
  after : List Char

/-- The lines at the start of a text, of which the first stands after empty lines. `marked` says that a mark between
documents ends the scalar. -/
def blockLines (folded marked : Bool) (indent : Nat) (start : BlockBreaks) : BlockLines :=
  if start.column ≠ indent ∨ start.after = [] then ⟨[], [], start.breaks, start.after⟩
  else
    let line := start.after.takeWhile (!isBreak ·)
    let rest := start.after.drop line.length
    let last := (rest.take 1).map breakChar
    let next := blockBreaks indent ((line ++ rest.take 1).foldl columnAfter start.column) rest.tail
    let ended := (marked && next.column == 0 && startsMark next.after) || next.column ≠ indent || next.after = []
    if _h : !ended && next.after.length < start.after.length then
      let joint :=
        if folded && last = ['\n'] && !startsIndented start.after && !startsIndented next.after then
          if next.breaks = [] then [' '] else []
        else last
      let more := blockLines folded marked indent next
      { more with text := start.breaks ++ line ++ joint ++ more.text }
    else ⟨start.breaks ++ line, last, next.breaks, next.after⟩
termination_by start.after.length
decreasing_by simp only [Bool.and_eq_true, decide_eq_true_eq] at _h; exact _h.2

/-! ## Reading -/

/-- The block scalar at a place after the indicator of its style, inside a collection indented by `parent`; the text
after it. -/
def block? (folded : Bool) (parent : Int) (p : Cursor) : Option (List Char × List Char) := do
  let (header, cs) ← blockHeader? p.rest
  let column := (p.upTo cs).column
  let lines ← match header.deeper with
    | some n =>
      let indent := (max parent 0 + n).toNat
      some (blockLines folded false indent (blockBreaks indent column cs))
    | none =>
      let least := (parent + 1).toNat
      let lead := blockLead column cs
      if lead.firstColumn.any fun first => 0 < first && first < lead.widest then none
      else some (blockLines folded (least == 0) (max least lead.widest) ⟨lead.breaks, lead.after, lead.column⟩)
  return (lines.text ++ (match header.chomping with
    | .clip => lines.last
    | .keep => lines.last ++ lines.breaks
    | .strip => []), lines.after)

end GuideSite.Yaml
