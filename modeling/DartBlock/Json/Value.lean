import DartBlock.Number.Binary64

/-!
# JSON values

Whole numbers and floating-point numbers are kept apart, and the members of an object keep
their order.
-/

namespace DartBlock.Json

inductive Value
  | null
  | bool (b : Bool)
  | int (n : Int)
  | float (x : Binary64)
  | string (s : String)
  | array (items : List Value)
  | object (members : List (String × Value))
  deriving Inhabited, Repr

end DartBlock.Json
