import DartBlock.Outcome
import DartBlock.Table.Reader
import DartBlock.Text.Lowercase

/-!
# Shaping results

Printed text becomes a table when it shows one, unless a result flag asks for the text itself.
-/

namespace DartBlock

/-- Flags that always keep the text. -/
def scalarFlags : List String := ["scalar", "verbatim", "html", "code", "pp", "file"]

/-- Flags that keep the text unless a table is asked for. -/
def textFlags : List String := ["raw", "org", "drawer"]

/-- Flags that ask for a table. -/
def tableFlags : List String := ["table", "vector"]

/-- Whether the flags keep the text; the case of their letters does not matter. -/
def wantsScalar (flags : List String) : Bool :=
  let fs := flags.map String.lowercased
  fs.any scalarFlags.contains || (fs.any textFlags.contains && !fs.any tableFlags.contains)

def shape (flags : List String) (text : String) : Shaped :=
  if wantsScalar flags then .text text
  else match Table.read? text with
    | some rows => .table rows
    | none => .text text

/-- The remark on a result: the size of a table. -/
def Shaped.note? : Shaped → Option Note
  | .text _ => none
  | .table rows => some (.table rows.length (rows.headD []).length)

end DartBlock
