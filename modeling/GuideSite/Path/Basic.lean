/-!
# Paths

A path is a sequence of names below an anchor: the place it is read from, the root, or the root written with two
slashes. Empty names and `.` say nothing and are dropped when a path is read; `..` is kept, since what it means
depends on the file tree.
-/

namespace GuideSite

/-- Where a path starts. -/
inductive Anchor
  | relative
  | root
  | doubleRoot
  deriving DecidableEq, Repr

/-- The text of an anchor. -/
def Anchor.text : Anchor → String
  | .relative => ""
  | .root => "/"
  | .doubleRoot => "//"

/-- A sequence of names below an anchor. -/
structure Path where
  anchor : Anchor
  names : List String
  deriving DecidableEq, Repr

namespace Path

/-! ## Reading and writing -/

/-- The segments of a text between its slashes. -/
def segments (s : String) : List String :=
  (s.toList.splitOn '/').map String.ofList

/-- A segment that names something. -/
def isName (segment : String) : Bool :=
  segment ≠ "" && segment ≠ "."

/-- The anchor of a text: two slashes are kept apart from one and from more. -/
def anchorOf (s : String) : Anchor :=
  match s.toList with
  | '/' :: '/' :: '/' :: _ => .root
  | '/' :: '/' :: _ => .doubleRoot
  | '/' :: _ => .root
  | _ => .relative

/-- The path that a text writes. -/
def parse (s : String) : Path :=
  ⟨anchorOf s, (segments s).filter isName⟩

/-- The path as text; the place itself is a dot. -/
def text (p : Path) : String :=
  if p.anchor = .relative ∧ p.names = [] then "." else p.anchor.text ++ String.intercalate "/" p.names

/-! ## Parts -/

/-- The path is read from the root, not from a place. -/
def isAbsolute (p : Path) : Bool := p.anchor ≠ .relative

/-- One path followed by another; an absolute one starts anew. -/
def join (base rest : Path) : Path :=
  if rest.isAbsolute then rest else ⟨base.anchor, base.names ++ rest.names⟩

instance : Div Path := ⟨join⟩

theorem div_of_relative {rest : Path} (h : rest.anchor = .relative) (base : Path) :
    base / rest = ⟨base.anchor, base.names ++ rest.names⟩ :=
  if_neg (by simp [isAbsolute, h])

/-- The path without its last name. -/
def parent (p : Path) : Path := ⟨p.anchor, p.names.dropLast⟩

/-- The rest of a path below a base with the same anchor. -/
def relativeTo? (p base : Path) : Option Path :=
  if p.anchor = base.anchor then (base.names.isPrefixOf? p.names).map (⟨.relative, ·⟩) else none

/-- The path seen from the working directory: relative if it lies below, else as it is. -/
def display (p cwd : Path) : String :=
  if p.isAbsolute then ((p.relativeTo? cwd).getD p).text else p.text

/-! ## Names -/

/-- The name without its suffix: what follows the last point, unless that point starts or ends the name. -/
def dropSuffix (name : String) : String :=
  let reversed := name.toList.reverse
  match reversed.dropWhile (· ≠ '.') with
  | '.' :: base => if base = [] ∨ reversed.head? = some '.' then name else String.ofList base.reverse
  | _ => name

end Path

end GuideSite
