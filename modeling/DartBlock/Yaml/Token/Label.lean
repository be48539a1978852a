import DartBlock.Number.Reading
import DartBlock.Text.Utf8
import DartBlock.Yaml.Cursor
import DartBlock.Yaml.Token

/-!
# Labels and directives

Anchors, aliases and tags, which stand before a node or for one, and the directives before a
document.
-/

namespace DartBlock.Yaml.Label

open Scan

def isName (c : Char) : Bool := c.isAlphanum || c == '-' || c == '_'

/-- The characters of a tag: those of a web address. A percent sign begins an escape. -/
def isTagCharacter (c : Char) : Bool :=
  c.isAlphanum || ['-', ';', '/', '?', ':', '@', '&', '=', '+', '$', ',', '_', '.', '!', '~', '*',
    '\'', '(', ')', '[', ']'].contains c

def name : Scan String := do
  let cs ← span isName
  let d ← peek
  let ends := endsWord d || ['?', ':', ',', ']', '}', '%', '@', '\x60'].contains d
  if cs.isEmpty ∨ !ends then throw .invalid
  return String.ofList cs

def hexValue (c : Char) : Scan Nat :=
  match natOfDigits? 16 [c] with
  | some n => return n
  | none => throw .invalid

/-- The bytes of the escapes that come next, each a percent sign and two digits. -/
def escapes : (fuel : Nat) → Scan (List UInt8)
  | 0 => return []
  | fuel + 1 => do
    if (← peek) ≠ '%' then return []
    pass 1
    let high ← hexValue (← peek)
    let low ← hexValue (← peekAt 1)
    pass 2
    return UInt8.ofNat (high * 16 + low) :: (← escapes fuel)

/-- The characters of a tag. Escapes in a row are the bytes of characters. -/
def tagCharacters : (fuel : Nat) → Scan (List Char)
  | 0 => return []
  | fuel + 1 => do
    let cs ← span isTagCharacter
    if (← peek) ≠ '%' then return cs
    let bytes ← escapes fuel
    let some s := Text.Utf8.decode? ⟨bytes.toArray⟩ | throw .invalid
    return cs ++ s.toList ++ (← tagCharacters fuel)

def tagText : Scan String := do
  let cs ← tagCharacters (← get).fuel
  if cs.isEmpty then throw .invalid
  return String.ofList cs

/-- The handle of a tag: an exclamation mark, alone or with a name and a second one. -/
def handle : Scan String := do
  if (← peek) ≠ '!' then throw .invalid
  if (← peekAt 1) = ' ' then
    pass 1
    return "!"
  let cs := ((← get).rest.drop 1).takeWhile isName
  if (← peekAt (cs.length + 1)) ≠ '!' then throw .invalid
  pass (cs.length + 2)
  return String.ofList ('!' :: cs ++ ['!'])

/-- A tag. It is written out between angle brackets, or begins with a handle; an exclamation
mark alone is a tag as well. -/
def tag : Scan Token := do
  let second ← peekAt 1
  let token ←
    if second = '<' then do
      pass 2
      let text ← tagText
      if (← peek) ≠ '>' then throw .invalid
      pass 1
      pure (Token.tag none text)
    else if endsWord second then do
      pass 1
      pure (Token.tag none "!")
    else do
      let cs := ((← get).rest.drop 1).takeWhile fun c => !endsPart c && c != '!'
      let h ←
        if (← peekAt (cs.length + 1)) = '!' then handle
        else do
          pass 1
          pure "!"
      pure (Token.tag (some h) (← tagText))
  unless endsPart (← peek) do throw .invalid
  return token

def number : Scan Nat := do
  let ds ← span Char.isDigit
  if ds.length > digitLimit then throw .noNumber
  match natOfDigits? 10 ds with
  | some n => return n
  | none => throw .invalid

def content (name : String) : Scan Directive := do
  if name = "YAML" then
    skipSpaces
    let major ← number
    if (← peek) ≠ '.' then throw .invalid
    pass 1
    let _ ← number
    unless endsPart (← peek) do throw .invalid
    return .version major
  else if name = "TAG" then
    skipSpaces
    let h ← handle
    if (← peek) ≠ ' ' then throw .invalid
    skipSpaces
    let stem ← tagText
    unless endsPart (← peek) do throw .invalid
    return .handle h stem
  else
    skipSpan (!endsLine ·)
    return .unknown

/-- A directive, up to the start of the next line. -/
def directive : Scan Token := do
  pass 1
  let name ← span isName
  if name.isEmpty then throw .invalid
  unless endsPart (← peek) do throw .invalid
  let d ← content (String.ofList name)
  finishLine
  return .directive d

end DartBlock.Yaml.Label
