/-!
# Languages

Labels come in several languages. Each label has a text in the language `en`; the others are shown in the order of a
list of language codes, and codes that the list does not know come after it, by their code points.
-/

namespace GuideSite.Language

/-- The language of a label without a translation. -/
def standard : String := "en"

/-- The order of languages where none is configured. -/
def stockOrder : List String := ["en", "es", "ja", "ko", "ru", "zh-CN", "zh-TW"]

/-- The position of the last occurrence of a code. -/
def lastPosition? (code : String) : List String → Option Nat
  | [] => none
  | c :: cs => match lastPosition? code cs with
    | some i => some (i + 1)
    | none => if c = code then some 0 else none

/-- The rank of a code: its last position in the order. A code that is not there ranks as the number of different
codes. -/
def rank (order : List String) (code : String) : Nat :=
  (lastPosition? code order).getD order.eraseDups.length

/-- The first code may stand before the second. -/
def precedes (order : List String) (a b : String) : Bool :=
  decide (rank order a < rank order b) || (rank order a == rank order b && decide (a ≤ b))

/-- The codes by rank; codes of one rank by their code points. -/
def sort (order codes : List String) : List String :=
  codes.mergeSort (precedes order)

end GuideSite.Language
