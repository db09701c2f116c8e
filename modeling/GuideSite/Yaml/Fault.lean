import GuideSite.Value.Timestamp

/-!
# Faults of documents

Why a text is no document. The grammar refuses a text without further words; a scalar that looks like a number or a
date and is none says so.
-/

namespace GuideSite.Yaml

/-- Why a text is no document. -/
inductive Fault
  /-- The text breaks a rule of the language. -/
  | malformed
  /-- The text asks for a version of the language that is not known. -/
  | version (major minor : Nat)
  /-- The calendar does not know the date. -/
  | date (fault : Timestamp.Fault)
  /-- The text, kept in quoted form, is no integer in the base. -/
  | integer (base : Nat) (shown : String)
  /-- The integer has too many digits to be read. -/
  | digits (count : Nat)
  /-- An integer has too many digits to be shown. -/
  | longInteger
  /-- The text, kept in quoted form, is no number. -/
  | float (shown : String)
  /-- The text, kept in quoted form, is no truth value. -/
  | bool (shown : String)
  /-- A number has no digits at all. -/
  | noDigits
  /-- An escape writes a number beyond the last character. -/
  | codePoint
  /-- An escape writes a number of more than thirty-one binary digits. -/
  | codePointSize
  /-- The key holds a value of a kind that keys cannot hold. -/
  | key (kind : String)
  /-- A key comes twice in a list of entries. -/
  | repeated
  /-- A value needs itself to be made. -/
  | endless
  deriving DecidableEq, Repr

/-- What a rule of the language demands; the text is malformed without it. -/
def orMalformed {α : Type} : Option α → Except Fault α
  | some a => .ok a
  | none => .error .malformed

/-- What a fault says. -/
def Fault.message : Fault → String
  | .malformed => ""
  | .version major minor => s!"version minor part can only be 2 or 1, got ({major}, {minor})"
  | .date fault => fault.message
  | .integer base shown => s!"invalid literal for int() with base {base}: {shown}"
  | .digits count =>
    s!"Exceeds the limit (4300 digits) for integer string conversion: value has {count} digits; use " ++
      "sys.set_int_max_str_digits() to increase the limit"
  | .longInteger =>
    "Exceeds the limit (4300 digits) for integer string conversion; use sys.set_int_max_str_digits() to increase " ++
      "the limit"
  | .float shown => s!"could not convert string to float: {shown}"
  | .bool shown => shown
  | .noDigits => "string index out of range"
  | .codePoint => "chr() arg not in range(0x110000)"
  | .codePointSize => "Python int too large to convert to C int"
  | .key kind => s!"unhashable type: '{kind}'"
  | .repeated => ""
  | .endless => "maximum recursion depth exceeded"

end GuideSite.Yaml
