import DartBlock.Json.Value
import DartBlock.Number.Reading

/-!
# Reading JSON

A reader for the JSON grammar. A reading function takes the characters still to read and
returns what it read with the characters that follow. Nesting is bounded by a fuel argument
that `read?` takes from the length of the text.
-/

namespace DartBlock.Json

def isSpace (c : Char) : Bool :=
  c == ' ' || c == '\t' || c == '\n' || c == '\r'

def simpleEscape? : Char → Option Char
  | '"' => some '"'
  | '\\' => some '\\'
  | '/' => some '/'
  | 'b' => some '\x08'
  | 'f' => some '\x0C'
  | 'n' => some '\n'
  | 'r' => some '\r'
  | 't' => some '\t'
  | _ => none

def unit? (a b c d : Char) : Option Nat :=
  natOfDigits? 16 [a, b, c, d]

/-- A string after its opening quotation mark. The first argument is an escaped high surrogate
just read: only an escaped low one may follow it, and the two are one character. -/
def readString : Option Nat → List Char → Option (List Char × List Char)
  | none, '"' :: cs => some ([], cs)
  | pending, '\\' :: 'u' :: a :: b :: c :: d :: cs => do
    let n ← unit? a b c d
    let low := 0xDC00 ≤ n ∧ n < 0xE000
    match pending with
    | some high =>
      if low then
        let (s, rest) ← readString none cs
        return (Char.ofNat (0x10000 + (high - 0xD800) * 0x400 + (n - 0xDC00)) :: s, rest)
      else none
    | none =>
      if low then none
      else if 0xD800 ≤ n ∧ n < 0xDC00 then readString (some n) cs
      else
        let (s, rest) ← readString none cs
        return (Char.ofNat n :: s, rest)
  | none, '\\' :: e :: cs => do
    let c ← simpleEscape? e
    let (s, rest) ← readString none cs
    return (c :: s, rest)
  | none, c :: cs => do
    if c.toNat < 0x20 ∨ c = '\\' then none
    let (s, rest) ← readString none cs
    return (c :: s, rest)
  | _, _ => none

def isNumberChar (c : Char) : Bool :=
  c.isDigit || c == '-' || c == '+' || c == '.' || c == 'e' || c == 'E'

/-- Whether digits are written without a superfluous zero in front. -/
def plainDigits : List Char → Bool
  | ['0'] => true
  | '0' :: _ => false
  | ds => !ds.isEmpty

/-- The value of the characters of a number: a whole number if it has neither fraction nor
exponent. -/
def number? (cs : List Char) : Option Value :=
  let (negative, body) := match cs with
    | '-' :: cs => (true, cs)
    | cs => (false, cs)
  let whole := body.takeWhile Char.isDigit
  if !plainDigits whole then none
  else match body.dropWhile Char.isDigit with
    | [] => (natOfDigits? 10 whole).map fun n => .int (if negative then -(n : Int) else n)
    | '.' :: rest =>
      if (rest.takeWhile Char.isDigit).isEmpty then none
      else (Binary64.ofUnsigned? negative body).map .float
    | _ => (Binary64.ofUnsigned? negative body).map .float

def cutWord? : (word cs : List Char) → Option (List Char)
  | [], cs => some cs
  | w :: ws, c :: cs => if w = c then cutWord? ws cs else none
  | _ :: _, [] => none

mutual

def readValue : Nat → List Char → Option (Value × List Char)
  | 0, _ => none
  | fuel + 1, cs =>
    match cs.dropWhile isSpace with
    | '"' :: cs => (readString none cs).map fun (s, rest) => (.string (.ofList s), rest)
    | '[' :: cs =>
      match cs.dropWhile isSpace with
      | ']' :: rest => some (.array [], rest)
      | cs => (readItems fuel cs).map fun (items, rest) => (.array items, rest)
    | '{' :: cs =>
      match cs.dropWhile isSpace with
      | '}' :: rest => some (.object [], rest)
      | cs => (readMembers fuel cs).map fun (members, rest) => (.object members, rest)
    | 't' :: cs => (cutWord? ['r', 'u', 'e'] cs).map fun rest => (.bool true, rest)
    | 'f' :: cs => (cutWord? ['a', 'l', 's', 'e'] cs).map fun rest => (.bool false, rest)
    | 'n' :: cs => (cutWord? ['u', 'l', 'l'] cs).map fun rest => (.null, rest)
    | cs => (number? (cs.takeWhile isNumberChar)).map fun v => (v, cs.dropWhile isNumberChar)

/-- The items of an array, up to and with its closing bracket. -/
def readItems : Nat → List Char → Option (List Value × List Char)
  | 0, _ => none
  | fuel + 1, cs => do
    let (v, rest) ← readValue fuel cs
    match rest.dropWhile isSpace with
    | ',' :: rest =>
      let (vs, rest) ← readItems fuel rest
      return (v :: vs, rest)
    | ']' :: rest => return ([v], rest)
    | _ => none

def readMembers : Nat → List Char → Option (List (String × Value) × List Char)
  | 0, _ => none
  | fuel + 1, cs => do
    let '"' :: cs := cs.dropWhile isSpace | none
    let (name, rest) ← readString none cs
    let ':' :: rest := rest.dropWhile isSpace | none
    let (v, rest) ← readValue fuel rest
    let member := (String.ofList name, v)
    match rest.dropWhile isSpace with
    | ',' :: rest =>
      let (ms, rest) ← readMembers fuel rest
      return (member :: ms, rest)
    | '}' :: rest => return ([member], rest)
    | _ => none

end

def read? (text : String) : Option Value := do
  let cs := text.toList
  let (v, rest) ← readValue (cs.length + 1) cs
  if rest.all isSpace then some v else none

end DartBlock.Json
