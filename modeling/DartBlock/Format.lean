import DartBlock.Json.Writer
import DartBlock.Table.Layout
import DartBlock.Yaml.Writer

/-!
# Output formats

How a result is printed: as text, in which a table is laid out in lines of cells, as JSON or as
YAML.
-/

namespace DartBlock

inductive Format
  | text
  | json
  | yaml
  deriving DecidableEq, Repr

/-- The result as a JSON value: a string or an array of arrays of strings. -/
def Shaped.toJson : Shaped → Json.Value
  | .text s => .string s
  | .table rows => .array (rows.map fun row => .array (row.map .string))

namespace Format

def word : Format → String
  | .text => "text"
  | .json => "json"
  | .yaml => "yaml"

/-- All formats, in the order messages list them. -/
def all : List Format := [.text, .json, .yaml]

def ofWord? (w : String) : Option Format := all.find? fun f => f.word == w

/-- The printed form of a result, without a line break at its end. -/
def print : Format → Shaped → String
  | .text, .text s => s
  | .text, .table rows => Table.layout rows
  | .json, v => v.toJson.text
  | .yaml, v => Yaml.document v

end Format

end DartBlock
