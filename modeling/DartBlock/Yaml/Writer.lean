import DartBlock.Table.Basic
import DartBlock.Yaml.Char
import DartBlock.Yaml.Plain

/-!
# Writing YAML

Texts and tables as YAML documents in the block style. A text is written plain if it reads back
as the same text, otherwise between single quotation marks, and with escapes between double
ones if it has to be. Lines are folded at spaces beyond column 80.
-/

namespace DartBlock.Yaml

/-- The column beyond which a line is folded. -/
def lineWidth : Nat := 80

inductive Style
  | plain
  | single
  | double
  deriving DecidableEq, Repr

/-- Whether a character can only be written as an escape. -/
def isSpecial (c : Char) : Bool :=
  let n := c.toNat
  !(n == 0x0A || (0x20 ≤ n && n ≤ 0x7E)
    || ((n == 0x85 || (0xA0 ≤ n && n ≤ 0xD7FF) || (0xE000 ≤ n && n ≤ 0xFFFD)
      || (0x10000 ≤ n && n < 0x10FFFF)) && n != 0xFEFF))

def isIndicator (c : Char) : Bool :=
  ['#', ',', '[', ']', '{', '}', '&', '*', '!', '|', '>', '\'', '"', '%', '@', '\x60'].contains c

def anyPair (p : Char → Char → Bool) : List Char → Bool
  | c :: d :: cs => p c d || anyPair p (d :: cs)
  | _ => false

def startsBadly : List Char → Bool
  | [] => false
  | c :: cs =>
    isIndicator c
      || ((c == '?' || c == ':' || c == '-') && cs.head?.all endsWord)
      || ['-', '-', '-'].isPrefixOf (c :: cs)
      || ['.', '.', '.'].isPrefixOf (c :: cs)

/-- Whether a colon ends a word or a number sign begins one after the first character. -/
def holdsMark (cs : List Char) : Bool :=
  anyPair (fun c d => c == ':' && endsWord d) cs
    || anyPair (fun c d => endsWord c && d == '#') cs
    || cs.getLast? == some ':'

/-- Whether the text stands on one line and no space is at its ends. -/
def isCompact (cs : List Char) : Bool :=
  !cs.any isBreak && cs.head? != some ' ' && cs.getLast? != some ' '

/-- Whether the text can stand between single quotation marks: it has no special characters, and
no space stands next to a line break. -/
def singleAllowed (cs : List Char) : Bool :=
  !cs.any isSpecial && !anyPair (fun c d => isBreak c && d == ' ') cs
    && !anyPair (fun c d => c == ' ' && isBreak d) cs

/-- Whether the text can stand without quotation marks and reads back as a text. -/
def plainAllowed (cs : List Char) : Bool :=
  singleAllowed cs && isCompact cs && !startsBadly cs && !holdsMark cs
    && Plain.kind cs == .text

def style (cs : List Char) : Style :=
  if plainAllowed cs then .plain else if singleAllowed cs then .single else .double

def lineBreak (indent : Nat) : List Char := '\n' :: List.replicate indent ' '

/-- A plain text from the given column on. A single space beyond the line width becomes a line
break; `spaced` tells whether the character before is a space. -/
def writePlain (indent : Nat) : (spaced : Bool) → (column : Nat) → List Char → List Char
  | _, _, [] => []
  | spaced, column, c :: cs =>
    if c = ' ' then
      if column > lineWidth ∧ !spaced ∧ cs.head? ≠ some ' ' then
        lineBreak indent ++ writePlain indent true indent cs
      else ' ' :: writePlain indent true (column + 1) cs
    else c :: writePlain indent false (column + 1) cs

/-- The inside of single quotation marks from the given column on, after the character `before`.
A quotation mark is doubled; a single space beyond the line width becomes a line break, except
at the ends; a first line feed of several breaks is doubled, and the next line is indented. -/
def writeSingle (indent : Nat) : (before : Option Char) → (column : Nat) →
    List Char → List Char
  | _, _, [] => []
  | before, column, c :: cs =>
    if c = ' ' then
      if column > lineWidth ∧ before ≠ none ∧ before ≠ some ' ' ∧ !cs.isEmpty
          ∧ cs.head? ≠ some ' ' then
        lineBreak indent ++ writeSingle indent (some c) indent cs
      else ' ' :: writeSingle indent (some c) (column + 1) cs
    else if isBreak c then
      let first := !before.any isBreak
      let last := !cs.head?.any isBreak
      (if first && c == '\n' then ['\n'] else []) ++ c ::
        (if last then List.replicate indent ' ' else [])
        ++ writeSingle indent (some c) (if last then indent else 0) cs
    else if c = '\'' then '\'' :: '\'' :: writeSingle indent (some c) (column + 2) cs
    else c :: writeSingle indent (some c) (column + 1) cs

def upperHexDigit (n : Nat) : Char :=
  if n < 10 then Char.ofNat (0x30 + n) else Char.ofNat (0x37 + n)

def upperHex : (width : Nat) → Nat → List Char
  | 0, _ => []
  | w + 1, n => upperHex w (n / 16) ++ [upperHexDigit (n % 16)]

def letterEscape? (c : Char) : Option Char :=
  match c.toNat with
  | 0x00 => some '0'
  | 0x07 => some 'a'
  | 0x08 => some 'b'
  | 0x09 => some 't'
  | 0x0A => some 'n'
  | 0x0B => some 'v'
  | 0x0C => some 'f'
  | 0x0D => some 'r'
  | 0x1B => some 'e'
  | 0x22 => some '"'
  | 0x5C => some '\\'
  | 0x85 => some 'N'
  | 0x2028 => some 'L'
  | 0x2029 => some 'P'
  | _ => none

def needsEscape (c : Char) : Bool :=
  let n := c.toNat
  c == '"' || c == '\\' || n == 0x2028 || n == 0x2029 || n == 0xFEFF
    || !((0x20 ≤ n && n ≤ 0x7E) || (0xA0 ≤ n && n ≤ 0xD7FF) || (0xE000 ≤ n && n ≤ 0xFFFD))

def doubleEscape (c : Char) : List Char :=
  match letterEscape? c with
  | some e => ['\\', e]
  | none =>
    if c.toNat ≤ 0xFF then '\\' :: 'x' :: upperHex 2 c.toNat
    else if c.toNat ≤ 0xFFFF then '\\' :: 'u' :: upperHex 4 c.toNat
    else '\\' :: 'U' :: upperHex 8 c.toNat

/-- The inside of double quotation marks from the given column on. Beyond the line width a line
ends, with a backslash, before a space and around an escape, but not at the ends of the text; a
space at the start of the next line is marked by a backslash of its own. `fresh` tells whether
an escape, or nothing, comes before. -/
def writeDouble (indent : Nat) : (first fresh : Bool) → (column : Nat) →
    List Char → List Char
  | _, _, _, [] => []
  | first, fresh, column, c :: cs =>
    if needsEscape c then
      let e := doubleEscape c
      if !first ∧ !cs.isEmpty ∧ column + e.length > lineWidth + 1 then
        let mark := if cs.head? = some ' ' then ['\\'] else []
        e ++ '\\' :: lineBreak indent ++ mark
          ++ writeDouble indent false true (indent + mark.length) cs
      else e ++ writeDouble indent false true (column + e.length) cs
    else if !first ∧ !cs.isEmpty ∧ (c = ' ' ∨ fresh) ∧ column > lineWidth then
      let mark := if c = ' ' then ['\\'] else []
      '\\' :: lineBreak indent ++ mark
        ++ c :: writeDouble indent false false (indent + mark.length + 1) cs
    else c :: writeDouble indent false false (column + 1) cs

def writeText (indent column : Nat) (cs : List Char) : List Char :=
  match style cs with
  | .plain => writePlain indent false column cs
  | .single => '\'' :: writeSingle indent none (column + 1) cs ++ ['\'']
  | .double => '"' :: writeDouble indent true true (column + 1) cs ++ ['"']

/-- A document that is a text. A plain one is followed by the mark of the end of a document. -/
def textDocument (s : String) : String :=
  let cs := s.toList
  String.ofList (writeText 2 0 cs ++ if style cs = .plain then ['\n', '.', '.', '.'] else [])

def writeRow (row : List String) : List Char :=
  match row with
  | [] => ['-', ' ', '[', ']']
  | cell :: cells =>
    '-' :: ' ' :: '-' :: ' ' :: writeText 4 4 cell.toList
      ++ cells.flatMap fun cell => '\n' :: ' ' :: ' ' :: '-' :: ' ' :: writeText 4 4 cell.toList

def tableDocument (rows : Table) : String :=
  match rows with
  | [] => "[]"
  | _ => String.ofList (['\n'].intercalate (rows.map writeRow))

/-- The document of a result, without the line break at its end. -/
def document : Shaped → String
  | .text s => textDocument s
  | .table rows => tableDocument rows

end DartBlock.Yaml
