import DartBlock.Datum.Basic
import DartBlock.Number.Reading
import DartBlock.Number.Shortest
import DartBlock.Text.Quoted

/-!
# Texts of dynamic values

A value has two texts: `display`, where a text is shown as it is, and `quoted`, where it stands
between quotation marks. They differ at the outermost level only: inside a list, a set or a
mapping everything is quoted. Neither text can be had of a value that holds a number with too many
digits (`isLong`), so whoever asks for one looks at that first.
-/

namespace DartBlock.Datum

def modeName : Mode → String
  | .output => "ResultType.OUTPUT"
  | .value => "ResultType.VALUE"

def quotedByte (mark : Char) (b : UInt8) : List Char :=
  let c := Char.ofNat b.toNat
  if c = mark ∨ c = '\\' then ['\\', c]
  else if c = '\n' then ['\\', 'n']
  else if c = '\r' then ['\\', 'r']
  else if c = '\t' then ['\\', 't']
  else if 0x20 ≤ b ∧ b < 0x7F then [c]
  else '\\' :: 'x' :: Text.hexDigits 2 b.toNat

def quotedBytes (bs : List UInt8) : String :=
  let mark := Text.quoteMark (bs.map fun b => Char.ofNat b.toNat)
  String.ofList ('b' :: mark :: bs.flatMap (quotedByte mark) ++ [mark])

mutual

/-- The text of a value with texts between quotation marks. -/
def quoted : Datum → String
  | .null => "None"
  | .bool true => "True"
  | .bool false => "False"
  | .int n => toString n
  | .float x => x.text
  | .text s => s.inQuotes
  | .mode m => "<" ++ modeName m ++ ": " ++ m.word.inQuotes ++ ">"
  | .bytes bs => quotedBytes bs
  | .moment m => m.text
  | .list items => "[" ++ ", ".intercalate (quotedItems items) ++ "]"
  | .set [] => "set()"
  | .set items => "\x7b" ++ ", ".intercalate (quotedItems items) ++ "\x7d"
  | .mapping entries => "\x7b" ++ ", ".intercalate (quotedEntries entries) ++ "\x7d"
  | .recurring true => "\x7b...\x7d"
  | .recurring false => "[...]"

def quotedItems : List Datum → List String
  | [] => []
  | x :: xs => quoted x :: quotedItems xs

def quotedEntry : Datum × Datum → String
  | (k, v) => quoted k ++ ": " ++ quoted v

def quotedEntries : Entries → List String
  | [] => []
  | e :: es => quotedEntry e :: quotedEntries es

end

mutual

/-- Whether the value holds a number that is too long to be written. -/
def isLong : Datum → Bool
  | .int n => (Nat.toDigits 10 n.natAbs).length > digitLimit
  | .list items => anyLong items
  | .set items => anyLong items
  | .mapping entries => anyLongEntry entries
  | _ => false

def anyLong : List Datum → Bool
  | [] => false
  | x :: xs => isLong x || anyLong xs

def isLongEntry : Datum × Datum → Bool
  | (k, v) => isLong k || isLong v

def anyLongEntry : Entries → Bool
  | [] => false
  | e :: es => isLongEntry e || anyLongEntry es

end

def display : Datum → String
  | .text s => s
  | .mode m => modeName m
  | x => x.quoted

end DartBlock.Datum
