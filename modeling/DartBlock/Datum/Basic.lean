import DartBlock.Datum.Moment
import DartBlock.Mode
import DartBlock.Number.Binary64

/-!
# Dynamic values

Header arguments and configuration files hold values of any kind. A `Datum` is such a value; a
mapping is the list of its entries in order.
-/

namespace DartBlock

inductive Datum
  | null
  | bool (b : Bool)
  | int (n : Int)
  | float (x : Binary64)
  | text (s : String)
  | mode (m : Mode)
  | bytes (bs : List UInt8)
  | moment (m : Moment)
  | list (items : List Datum)
  | set (items : List Datum)
  | mapping (entries : List (Datum × Datum))
  /-- A list or a mapping inside itself, where it is not given again. -/
  | recurring (isMapping : Bool)
  deriving Inhabited, Repr

abbrev Entries := List (Datum × Datum)

namespace Datum

/-- Whether a condition takes the value as true: nothing, zero and what is empty is false. -/
def isTrue : Datum → Bool
  | .null => false
  | .bool b => b
  | .int n => n != 0
  | .float x => !x.isZero
  | .text s => !s.isEmpty
  | .mode _ => true
  | .bytes bs => !bs.isEmpty
  | .moment _ => true
  | .list items => !items.isEmpty
  | .set items => !items.isEmpty
  | .mapping entries => !entries.isEmpty
  | .recurring _ => true

/-- The text of a text, or the word of a mode. -/
def text? : Datum → Option String
  | .text s => some s
  | .mode m => some m.word
  | _ => none

/-- The number a truth value or a whole number stands for. -/
def int? : Datum → Option Int
  | .bool b => some (if b then 1 else 0)
  | .int n => some n
  | _ => none

/-- Whether two values name the same entry of a mapping. Numbers are compared by value, so that
`1`, `1.0` and the truth value are one key. -/
def sameKey (x y : Datum) : Bool :=
  match x, y with
  | .null, .null => true
  | .float a, .float b => a != .nan && (a == b || a.isZero && b.isZero)
  | .bytes a, .bytes b => a == b
  | .moment a, .moment b => a.same b
  | .float a, y => match y.int? with | some n => a.equalsInt n | none => false
  | x, .float b => match x.int? with | some n => b.equalsInt n | none => false
  | x, y =>
    match x.int?, y.int?, x.text?, y.text? with
    | some m, some n, _, _ => m == n
    | _, _, some s, some t => s == t
    | _, _, _, _ => false

/-- Sets an entry: a key that is there keeps its place and its spelling. -/
def putEntry {α : Type} (key : Datum) (value : α) : List (Datum × α) → List (Datum × α)
  | [] => [(key, value)]
  | (k, v) :: rest =>
    if k.sameKey key then (k, value) :: rest else (k, v) :: putEntry key value rest

end Datum

end DartBlock
