/-!
# Versions of YAML

A document may name the version of the language that it is written in. Version 1.1 has more words for truth values,
reads a number with a leading zero in base eight and one with colons in base sixty, and knows fewer places for a colon
without a key; a document that names no version is one of version 1.2.
-/

namespace GuideSite.Yaml

/-- A version of the language. -/
structure Version where
  major : Nat
  minor : Nat
  deriving DecidableEq, Repr

namespace Version

/-- The version of a document that names none. -/
def standard : Version := ⟨1, 2⟩

/-- Version 1.1. -/
def first : Version := ⟨1, 1⟩

/-- The version comes after 1.1. -/
def isLater (v : Version) : Bool := 1 < v.major || (v.major == 1 && 1 < v.minor)

/-- Documents may be of the version. -/
def isKnown (v : Version) : Bool := v.major == 1 && (v.minor == 1 || v.minor == 2)

end Version

end GuideSite.Yaml
