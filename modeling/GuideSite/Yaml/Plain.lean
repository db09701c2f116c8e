import GuideSite.Yaml.Cursor
import GuideSite.Yaml.Version

/-!
# Plain scalars

A plain scalar stands without quotation marks. It ends before `: `, before ` #`, before an indicator of the flow
collection around it, and before a line that is not indented enough. Its lines are folded: one break becomes a space,
more breaks lose the first.
-/

namespace GuideSite.Yaml

/-- A plain scalar starts here: with no indicator, or with one that the next character lifts. -/
def startsPlain (version : Version) (flow : Bool) : List Char → Bool
  | [] => false
  | c :: cs =>
    if c = '-' then !startsBlank cs
    else if c = '?' then !flow && !startsBlank cs
    else if c = ':' then
      if flow then version != .first && !(cs.head?.any isSpaceOrTab) else !startsBlank cs
    else !(isSpaceOrTab c || isBreak c || isIndicator c)

/-- A character that ends a plain scalar in brackets. -/
def endsInFlow (version : Version) (c : Char) : Bool :=
  isFlowIndicator c || (version == .first && c == '?')

/-- The characters of a plain scalar up to the next blank. -/
def plainRun (version : Version) (flow : Bool) : List Char → List Char
  | [] => []
  | c :: cs =>
    if startsBlank (c :: cs) || (c = ':' && startsBlank cs) || (flow && endsInFlow version c) then []
    else c :: plainRun version flow cs

/-! ## Folding -/

/-- What line breaks fold to, the first of which is given. -/
def fold (first : Char) (others : List Char) : List Char :=
  if breakChar first ≠ '\n' then breakChar first :: others
  else if others = [] then [' '] else others

/-- The line breaks after a first one, spaces around them left out, and the text after them. A mark between documents
at the start of a line is the end, and then there are none. -/
def plainBreaks : List Char → Option (List Char) × List Char
  | [] => (some [], [])
  | c :: cs =>
    if c = ' ' then plainBreaks cs
    else if isBreak c then
      if startsMark cs then (none, cs)
      else
        let (breaks, after) := plainBreaks cs
        (breaks.map (breakChar c :: ·), after)
    else (some [], c :: cs)

/-- What stands between two runs of a plain scalar: its text, which is empty where the scalar ends; the text after it;
and whether it breaks a line. -/
structure PlainGap where
  text : List Char
  after : List Char
  breaks : Bool

/-- The gap that a text starts with. -/
def plainGap (cs : List Char) : PlainGap :=
  let after := cs.dropWhile (· == ' ')
  match after with
  | [] => ⟨cs.takeWhile (· == ' '), [], false⟩
  | c :: rest =>
    if isBreak c then
      if startsMark rest then ⟨[], rest, true⟩
      else match plainBreaks rest with
        | (some breaks, after) => ⟨fold c breaks, after, true⟩
        | (none, after) => ⟨[], after, true⟩
    else ⟨cs.takeWhile (· == ' '), after, false⟩

/-! ## Reading -/

/-- A plain scalar: its text, the place after it, and whether lines were ended before that place. -/
structure Plain where
  text : List Char
  next : Cursor
  breaks : Bool

/-- The plain scalar at a place; in a block collection its lines have at least the column `indent`. -/
def plain (version : Version) (flow : Bool) (indent : Int) (p : Cursor) : Plain :=
  let run := plainRun version flow p.rest
  let gap := plainGap (p.rest.drop run.length)
  let q := p.upTo gap.after
  let ends := gap.text = [] || gap.after.head? = some '#' || (!flow && q.column < indent) ||
    plainRun version flow gap.after = []
  if _h : !ends && q.rest.length < p.rest.length then
    let more := plain version flow indent q
    ⟨run ++ gap.text ++ more.text, more.next, more.breaks⟩
  else ⟨run, q, gap.breaks⟩
termination_by p.rest.length
decreasing_by simp only [Bool.and_eq_true, decide_eq_true_eq] at _h; exact _h.2

end GuideSite.Yaml
