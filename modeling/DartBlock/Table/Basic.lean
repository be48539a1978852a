/-!
# Tables

The two shapes a result can have: the text itself, or a table of cells.
-/

namespace DartBlock

abbrev Table := List (List String)

inductive Shaped
  | text (s : String)
  | table (rows : Table)
  deriving DecidableEq, Repr

end DartBlock
