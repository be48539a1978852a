import DartBlock.Number.Reading
import DartBlock.Yaml.Cursor

/-!
# Scalars as they are written

How the text of a scalar is read: block scalars, which keep or fold the lines of a block,
scalars between quotation marks, and plain scalars. In a folded text a line break is a space,
and of several line breaks the first is dropped. Fuel is bounded by the length of what is still
to be read.
-/

namespace DartBlock.Yaml.Scalar

open Scan

def isSpacing (c : Char) : Bool := c == ' ' || c == '\t'

/-- What joins two lines of a folded text: the break between them and the breaks of the empty
lines after it. -/
def folded (first more : List Char) : List Char :=
  (if first ≠ ['\n'] then first else if more.isEmpty then [' '] else []) ++ more

/-! ## Block scalars -/

inductive Chomping
  | strip
  | clip
  | keep
  deriving DecidableEq, Repr

def chomping? : Char → Option Chomping
  | '+' => some .keep
  | '-' => some .strip
  | _ => none

def chomping : Scan (Option Chomping) := do
  let some how := chomping? (← peek) | return none
  pass 1
  return some how

/-- The digit of an indentation, if it comes next. It is not zero. -/
def increment : Scan (Option Nat) := do
  let c ← peek
  if c = '0' then throw .invalid
  if !c.isDigit then return none
  pass 1
  return digitValue? c

/-- The signs after the mark of a block scalar, in either order. -/
def header : Scan (Chomping × Option Nat) := do
  match ← chomping with
  | some how => return (how, ← increment)
  | none =>
    match ← increment with
    | some n => return ((← chomping).getD .clip, some n)
    | none => return (.clip, none)

/-- Skips the empty lines at the start of a block scalar and returns their breaks and the
greatest column reached. -/
def emptyLines : (fuel widest : Nat) → Scan (List Char × Nat)
  | 0, widest => return ([], widest)
  | fuel + 1, widest => do
    let spaces ← span (· == ' ')
    let column := (← get).column
    let widest := if spaces.isEmpty then widest else max widest column
    let first ← passBreak
    if first.isEmpty then return ([], widest)
    let (more, widest) ← emptyLines fuel widest
    return (first ++ more, widest)

/-- Skips spaces up to an indentation and the empty lines between them, and returns the breaks. -/
def indentedBreaks (indent : Nat) : (fuel : Nat) → Scan (List Char)
  | 0 => return []
  | fuel + 1 => do
    let c ← get
    let spaces := (c.rest.take (indent - c.column)).takeWhile (· == ' ')
    pass spaces.length
    let first ← passBreak
    if first.isEmpty then return []
    return first ++ (← indentedBreaks indent fuel)

/-- The lines of a block: their text, the break that ends the last of them, and the breaks after
it. -/
structure Lines where
  text : List Char
  lastBreak : List Char
  more : List Char

def atLine (indent : Nat) : Scan Bool := do
  if (← get).column ≠ indent then return false
  return (← peek) ≠ '\x00'

/-- The lines of a block after the breaks of some empty lines. Folding spares lines that begin
with white space. -/
def blockLines (fold : Bool) (indent : Nat) : (fuel : Nat) → (breaks : List Char) → Scan Lines
  | 0, breaks => return ⟨[], [], breaks⟩
  | fuel + 1, breaks => do
    unless ← atLine indent do return ⟨[], [], breaks⟩
    let start ← peek
    let line ← span (!endsLine ·)
    let first ← passBreak
    let more ← indentedBreaks indent fuel
    unless ← atLine indent do return ⟨breaks ++ line, first, more⟩
    let next ← peek
    let joint :=
      if fold && first == ['\n'] && !isSpacing start && !isSpacing next then
        if more.isEmpty then [' '] else []
      else first
    let tail ← blockLines fold indent fuel more
    return { tail with text := breaks ++ line ++ joint ++ tail.text }

/-- A block scalar from its mark on; `least` is the least indentation of its lines. -/
def block (fold : Bool) (least : Nat) : Scan (List Char) := do
  pass 1
  let (chomping, increment) ← header
  unless endsPart (← peek) do throw .invalid
  finishLine
  let fuel := (← get).fuel
  let (breaks, indent) ← match increment with
    | some n => do
      let indent := least + n - 1
      pure (← indentedBreaks indent fuel, indent)
    | none => do
      let (breaks, widest) ← emptyLines fuel 0
      pure (breaks, max least widest)
  let lines ← blockLines fold indent fuel breaks
  return lines.text ++ match chomping with
    | .strip => []
    | .clip => lines.lastBreak
    | .keep => lines.lastBreak ++ lines.more

/-! ## Scalars between quotation marks -/

def letterOf? : Char → Option Char
  | '0' => some '\x00'
  | 'a' => some '\x07'
  | 'b' => some '\x08'
  | 't' => some '\t'
  | '\t' => some '\t'
  | 'n' => some '\n'
  | 'v' => some '\x0B'
  | 'f' => some '\x0C'
  | 'r' => some '\r'
  | 'e' => some '\x1B'
  | ' ' => some ' '
  | '"' => some '"'
  | '\\' => some '\\'
  | '/' => some '/'
  | 'N' => some '\u0085'
  | '_' => some '\u00A0'
  | 'L' => some '\u2028'
  | 'P' => some '\u2029'
  | _ => none

def digitsOf? : Char → Option Nat
  | 'x' => some 2
  | 'u' => some 4
  | 'U' => some 8
  | _ => none

/-- The character with a number. No text here can hold half of a surrogate pair, so U+FFFD stands
for it; that such a text has no UTF-8 is for the host to tell (`Host.mishap?`). -/
def characterAt (n : Nat) : Except Trouble Char :=
  if n > 0x7FFFFFFF then .error .wideEscape
  else if n > 0x10FFFF then .error .noCharacter
  else .ok (if 0xD800 ≤ n ∧ n < 0xE000 then '\uFFFD' else Char.ofNat n)

/-- The breaks of the empty lines that come next. A document mark must not begin any line. -/
def flowBreaks : (fuel : Nat) → Scan (List Char)
  | 0 => return []
  | fuel + 1 => do
    if ← atMark then throw .invalid
    skipSpan isSpacing
    let first ← passBreak
    if first.isEmpty then return []
    return first ++ (← flowBreaks fuel)

def numbered (n : Nat) : Scan Char := do
  let ds := ((← get).rest.take n).takeWhile fun c => (natOfDigits? 16 [c]).isSome
  if ds.length < n then
    let _ ← peekAt ds.length
    throw .invalid
  need n
  let c ← characterAt ((natOfDigits? 16 ds).getD 0)
  pass n
  return c

/-- An escape after its backslash. An escaped line break stands for the breaks of the empty
lines after it. -/
def escape (fuel : Nat) : Scan (List Char) := do
  let c ← peek
  match letterOf? c, digitsOf? c with
  | some d, _ =>
    pass 1
    return [d]
  | none, some n =>
    pass 1
    return [← numbered n]
  | none, none =>
    if (← passBreak).isEmpty then throw .invalid
    flowBreaks fuel

/-- Whether two single quotation marks come next, which stand for one. -/
def atPair (mark c : Char) : Scan Bool := do
  if mark = '\'' ∧ c = '\'' then return (← peekAt 1) = '\'' else return false

/-- A part of a scalar between quotation marks that holds no white space but what is escaped. -/
def quotedPart (mark : Char) : (fuel : Nat) → Scan (List Char)
  | 0 => return []
  | fuel + 1 => do
    let cs ← span fun c => !(endsWord c || c == '\'' || c == '"' || c == '\\')
    let c ← peek
    if ← atPair mark c then
      pass 2
      return cs ++ '\'' :: (← quotedPart mark fuel)
    else if c = '\\' ∧ mark = '"' then
      pass 1
      let d ← escape fuel
      return cs ++ d ++ (← quotedPart mark fuel)
    else if c ≠ mark ∧ !endsWord c then
      pass 1
      return cs ++ c :: (← quotedPart mark fuel)
    else return cs

def quotedGap (fuel : Nat) : Scan (List Char) := do
  let blanks ← span isSpacing
  if (← peek) = '\x00' then throw .invalid
  let first ← passBreak
  if first.isEmpty then return blanks
  return folded first (← flowBreaks fuel)

/-- The parts of a scalar between quotation marks up to its second mark. -/
def quotedParts (mark : Char) : (fuel : Nat) → Scan (List Char)
  | 0 => throw .invalid
  | fuel + 1 => do
    let part ← quotedPart mark fuel.succ
    if (← peek) = mark then
      pass 1
      return part
    let gap ← quotedGap fuel
    return part ++ gap ++ (← quotedParts mark fuel)

def quoted : Scan (List Char) := do
  let mark ← peek
  pass 1
  quotedParts mark (← get).fuel

/-! ## Plain scalars -/

def isFlowMark (c : Char) : Bool := [',', '[', ']', '{', '}'].contains c

def plainRun (inFlow : Bool) : List Char → List Char
  | [] => []
  | d :: rest =>
    let e := rest.headD '\x00'
    if endsWord d || (d == ':' && (endsWord e || (inFlow && isFlowMark e)))
        || (inFlow && (isFlowMark d || d == '?')) then []
    else d :: plainRun inFlow rest

def plainWord (inFlow : Bool) : Scan (List Char) := do
  if (← peek) = '#' then return []
  let cs := plainRun inFlow (← get).rest
  if (← peekAt cs.length) = ':' then
    let _ ← peekAt (cs.length + 1)
  pass cs.length
  return cs

/-- Skips spaces and empty lines between two lines of a plain scalar; `none` in place of the
breaks if a document mark begins one of them. -/
def plainBreaks : (fuel : Nat) → Scan (Option (List Char))
  | 0 => return some []
  | fuel + 1 => do
    if ← atMark then return none
    skipSpaces
    let first ← passBreak
    if first.isEmpty then return some []
    return (← plainBreaks fuel).map (first ++ ·)

/-- What stands between two parts of a plain scalar, and whether a line ends there. Nothing
stands there if the scalar ends. -/
def plainGap (fuel : Nat) : Scan (List Char × Bool) := do
  let spaces ← span (· == ' ')
  let first ← passBreak
  if first.isEmpty then return (spaces, false)
  match ← plainBreaks fuel with
  | some more => return (folded first more, true)
  | none => return ([], true)

/-- A plain scalar from a part on: its text, and whether a line ended after its last part. The
gap before the part belongs to the scalar only if the part is not empty. -/
def plainParts (inFlow : Bool) (least : Nat) :
    (fuel : Nat) → (gap : List Char) → (broke : Bool) → Scan (List Char × Bool)
  | 0, _, broke => return ([], broke)
  | fuel + 1, gap, broke => do
    let word ← plainWord inFlow
    if word.isEmpty then return ([], broke)
    let (nextGap, broke) ← plainGap fuel
    if nextGap.isEmpty then return (gap ++ word, broke)
    if (← peek) = '#' then return (gap ++ word, broke)
    if !inFlow ∧ (← get).column < least then return (gap ++ word, broke)
    let (more, broke) ← plainParts inFlow least fuel nextGap broke
    return (gap ++ word ++ more, broke)

/-- A plain scalar; outside flow collections its lines are indented by at least `least`. -/
def plain (inFlow : Bool) (least : Nat) : Scan (List Char × Bool) := do
  plainParts inFlow least (← get).fuel [] false

/-- The marks that begin no plain scalar, or only before a character that is no white space. -/
def isMark (c : Char) : Bool :=
  endsWord c || ['-', '?', ':', ',', '[', ']', '{', '}', '#', '&', '*', '!', '|', '>', '\'', '"',
    '%', '@', '\x60'].contains c

def startsPlain (inFlow : Bool) : Scan Bool := do
  let c ← peek
  if !isMark c then return true
  let alone := endsWord (← peekAt 1)
  return !alone && (c == '-' || (!inFlow && (c == '?' || c == ':')))

end DartBlock.Yaml.Scalar
