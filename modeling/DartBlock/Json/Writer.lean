import DartBlock.Json.Value
import DartBlock.Number.Shortest
import DartBlock.Text.Quoted

/-!
# Writing JSON

The indented layout: each item of an array and each member of an object stands on a line of its
own, two spaces deeper than what holds it, and an empty one is written without a line break.
Strings escape the quotation mark, the backslash and the control characters below U+0020, and
nothing else.
-/

namespace DartBlock.Json

def escapeChar (c : Char) : List Char :=
  if c = '"' ∨ c = '\\' then ['\\', c]
  else if c = '\n' then ['\\', 'n']
  else if c = '\r' then ['\\', 'r']
  else if c = '\t' then ['\\', 't']
  else if c = '\x08' then ['\\', 'b']
  else if c = '\x0C' then ['\\', 'f']
  else if c.toNat < 0x20 then '\\' :: 'u' :: Text.hexDigits 4 c.toNat
  else [c]

def writeString (cs : List Char) : List Char :=
  '"' :: cs.flatMap escapeChar ++ ['"']

def newline (depth : Nat) : List Char :=
  '\n' :: List.replicate (2 * depth) ' '

mutual

/-- A value that stands at a depth. -/
def write (depth : Nat) : Value → List Char
  | .null => ['n', 'u', 'l', 'l']
  | .bool true => ['t', 'r', 'u', 'e']
  | .bool false => ['f', 'a', 'l', 's', 'e']
  | .int n => (toString n).toList
  | .float x => x.text.toList
  | .string s => writeString s.toList
  | .array [] => ['[', ']']
  | .array (v :: vs) =>
    '[' :: newline (depth + 1) ++ write (depth + 1) v ++ writeItems depth vs
      ++ newline depth ++ [']']
  | .object [] => ['{', '}']
  | .object (m :: ms) =>
    '{' :: newline (depth + 1) ++ writeMember (depth + 1) m ++ writeMembers depth ms
      ++ newline depth ++ ['}']

/-- The items of an array after the first. -/
def writeItems (depth : Nat) : List Value → List Char
  | [] => []
  | v :: vs => ',' :: newline (depth + 1) ++ write (depth + 1) v ++ writeItems depth vs

def writeMember (depth : Nat) : String × Value → List Char
  | (name, v) => writeString name.toList ++ [':', ' '] ++ write depth v

def writeMembers (depth : Nat) : List (String × Value) → List Char
  | [] => []
  | m :: ms =>
    ',' :: newline (depth + 1) ++ writeMember (depth + 1) m ++ writeMembers depth ms

end

def Value.text (v : Value) : String := String.ofList (write 0 v)

end DartBlock.Json
