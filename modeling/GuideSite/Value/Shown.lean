import GuideSite.Error
import GuideSite.Value.Display

/-!
# The text of a value or an error

A request that needs the text of a value ends with an error if the value has none.
-/

namespace GuideSite.Value

/-- The text that stands for a value. -/
def displayed (v : Value) : Except Error String :=
  match v.display? with
  | some shown => .ok shown
  | none => .error .longInteger

/-- The value in quoted form. -/
def shown (v : Value) : Except Error String :=
  match v.quoted? with
  | some shown => .ok shown
  | none => .error .longInteger

end GuideSite.Value
