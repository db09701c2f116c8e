import GuideSite.Value.Timestamp

/-!
# Dates of YAML

A date is written as year, month and day with hyphens between. A time of day may follow, and after it its zone: the
letter `Z` or the distance from universal time.

* `Moment.ofChars?`: the numbers of a date.
* `Moment.toTimestamp`: the point in time, if the calendar knows it.
-/

namespace GuideSite.Yaml

/-- The numbers of a date; `carries` tells that the fraction of its last second is rounded up to a whole one. -/
structure Moment where
  stamp : Timestamp
  carries : Bool := false
  deriving DecidableEq, Repr

namespace Moment

/-! ## Numbers -/

/-- The number that digits write. -/
def digitsValue (cs : List Char) : Nat :=
  cs.foldl (fun n c => 10 * n + (c.toNat - '0'.toNat)) 0

/-- A number of `least` to `most` digits, and the text after it. -/
def number? (least most : Nat) (cs : List Char) : Option (Nat × List Char) :=
  let digits := (cs.take most).takeWhile Char.isDigit
  if least ≤ digits.length then some (digitsValue digits, cs.drop digits.length) else none

/-- The text after a character that must come first. -/
def after? (c : Char) : List Char → Option (List Char)
  | [] => none
  | d :: cs => if d = c then some cs else none

/-! ## Parts -/

/-- Year, month and day, and the text after them. -/
def date? (cs : List Char) : Option ((Nat × Nat × Nat) × List Char) := do
  let (year, cs) ← number? 4 4 cs
  let (month, cs) ← number? 1 2 (← after? '-' cs)
  let (day, cs) ← number? 1 2 (← after? '-' cs)
  return ((year, month, day), cs)

/-- The text after what parts a date from a time of day: a letter or some blanks. -/
def afterDate? (cs : List Char) : Option (List Char) :=
  match cs with
  | 'T' :: cs => some cs
  | 't' :: cs => some cs
  | ' ' :: cs => some (cs.dropWhile fun c => c == ' ' || c == '\t')
  | '\t' :: cs => some (cs.dropWhile fun c => c == ' ' || c == '\t')
  | _ => none

/-- The digits of a fraction as millionths, the seventh digit rounded. -/
def millionths (digits : List Char) : Nat :=
  let six := digits.take 6
  let rounded := if (digits[6]?).any ('4' < ·) then 1 else 0
  digitsValue (six ++ List.replicate (6 - six.length) '0') + rounded

/-- The distance of a zone in seconds, without its sign. -/
def distance? (cs : List Char) : Option Nat := do
  let (hours, cs) ← number? 1 2 cs
  match cs with
  | [] => some (3600 * hours)
  | ':' :: cs => do
    let (minutes, cs) ← number? 2 2 cs
    if cs = [] then some (3600 * hours + 60 * minutes) else none
  | _ => none

/-- A zone, which is named as it is written; there may be none at all. -/
def zone? (cs : List Char) : Option (Option Zone) :=
  let name := cs.dropWhile fun c => c == ' ' || c == '\t'
  match name with
  | [] => if cs = [] then some none else none
  | ['Z'] => some (some ⟨"Z", 0⟩)
  | '+' :: rest => (distance? rest).map fun d => some ⟨String.ofList name, d⟩
  | '-' :: rest => (distance? rest).map fun d => some ⟨String.ofList name, -Int.ofNat d⟩
  | _ => none

/-! ## The whole -/

/-- A date with a time of day. -/
def withClock? (date : Nat × Nat × Nat) (cs : List Char) : Option Moment := do
  let (hour, cs) ← number? 1 2 (← afterDate? cs)
  let (minute, cs) ← number? 2 2 (← after? ':' cs)
  let (second, cs) ← number? 2 2 (← after? ':' cs)
  let (fraction, cs) := match cs with
    | '.' :: cs => (cs.takeWhile Char.isDigit, cs.dropWhile Char.isDigit)
    | cs => ([], cs)
  let micro := millionths fraction
  let (year, month, day) := date
  return {
    stamp := { year, month, day, clock := some ⟨hour, minute, second, micro % 1000000⟩, zone := ← zone? cs }
    carries := 1000000 ≤ micro }

/-- The numbers of a date. -/
def ofLine? (cs : List Char) : Option Moment := do
  let ((year, month, day), rest) ← date? cs
  if rest = [] then some { stamp := { year, month, day, clock := none } } else withClock? (year, month, day) rest

/-- The text is read as a date though nothing says so: month and day have two digits, or a time of day follows. -/
def isPlain (cs : List Char) : Bool :=
  (ofLine? cs).any fun m => m.stamp.clock.isSome || cs.length == 10

/-- The text without a line feed at its end. -/
def dropLineEnd (cs : List Char) : List Char :=
  if cs.getLast? = some '\n' then cs.dropLast else cs

/-- The numbers of a date, after which a line may end. -/
def ofChars? (cs : List Char) : Option Moment := ofLine? (dropLineEnd cs)

/-- The point in time, if the calendar knows it. -/
def toTimestamp (m : Moment) : Except Timestamp.Fault Timestamp := do
  let t ← Timestamp.check m.stamp
  if m.carries then t.nextSecond else return t

end Moment

end GuideSite.Yaml
