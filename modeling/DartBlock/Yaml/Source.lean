import DartBlock.Text.LineBreak
import DartBlock.Text.Utf8
import DartBlock.Yaml.Char
import DartBlock.Yaml.Trouble

/-!
# Texts as they arrive

The text of a file comes in portions, one at a time and only when it is needed. So bytes that are
no UTF-8 and characters that no document may hold do not show before the portion that holds them
is reached, and a text that breaks the rules earlier is refused for that.
-/

namespace DartBlock.Yaml

/-- The characters of a text that can be had, and the trouble met behind them; without a trouble
the text ends there. -/
structure Source where
  chars : List Char
  trouble : Option Trouble := none
  deriving DecidableEq, Repr

namespace Source

def portion : Nat := 4096

/-- The least number of bytes that are read at once. -/
def block : Nat := 8192

/-- The number of characters that can be had before a portion. The first two come together. -/
def before (n : Nat) : Nat := if n < 2 then 0 else n * portion

/-- The number of characters that the first `bytes` bytes give. A carriage return is held back
until the character after it is known. -/
def given (cs : List (Char × Nat)) (bytes : Nat) : Nat :=
  let known := (cs.takeWhile (·.2 ≤ bytes)).map (·.1)
  (Text.unifyBreaks (if known.getLast? = some '\r' then known.dropLast else known)).length

/-- The number of characters that are given before the bytes with a fault are read. The fault
shows with `fault` bytes, `start` bytes have been read, and the last of them gave a number of
characters. As many bytes are read at once as the rest of a portion takes at that rate. -/
def givenBefore (cs : List (Char × Nat)) (total fault : Nat) :
    (fuel start bytes chars : Nat) → Nat
  | 0, start, _, _ => given cs start
  | fuel + 1, start, bytes, chars =>
    let sum := given cs start
    let next := min total (start + max block (bytes * (portion - sum % portion) / chars))
    if fault ≤ next ∨ total ≤ start then sum
    else givenBefore cs total fault fuel next (next - start) (given cs next - sum)

/-- A text some of whose characters may be forbidden. -/
def ofChars (cs : List Char) (trouble : Option Trouble) : Source :=
  match cs.findIdx? (!isAllowed ·) with
  | some i => ⟨cs.take (before (i / portion)), some .invalid⟩
  | none => ⟨cs, trouble⟩

/-- The text of bytes, with line feeds for all kinds of line breaks. -/
def ofBytes (bytes : ByteArray) : Source :=
  let bytes := bytes.data.toList
  let (cs, fault) := Text.Utf8.arrivals none 0 bytes
  let text := Text.unifyBreaks (cs.map (·.1))
  match fault with
  | none => ofChars text none
  | some fault =>
    let whole := givenBefore cs bytes.length fault bytes.length.succ 0 0 0 / portion
    ofChars (text.take (before whole)) (some .notUtf8)

end Source

end DartBlock.Yaml
