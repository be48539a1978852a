import DartBlock.Yaml.Token.Label
import DartBlock.Yaml.Token.Scalar

/-!
# Cutting a text into tokens

A document is cut into tokens from left to right. Blocks begin and end by indentation, and most
keys of a mapping show only at the colon after them: a token that may be a key is noted, and the
key mark is put in front of it when the colon is met. `Token.ofSource` yields the tokens up to the
end of the text or to the first place where the rules are broken.
-/

namespace DartBlock.Yaml

/-- A token that may turn out to be a key: how many tokens come before it, where it stands, and
whether it can be nothing else. -/
structure Candidate where
  before : Nat
  place : Cursor
  required : Bool

/-- How far a text has been cut. -/
structure Lexer where
  cursor : Cursor
  /-- The tokens so far, the last one first. -/
  tokens : List Token := []
  /-- The number of tokens so far. -/
  count : Nat := 0
  /-- The columns of the open blocks, the innermost first. -/
  blocks : List Nat := []
  /-- The last candidate of each open flow collection, the innermost first, and of the text
  around them. -/
  candidates : List (Option Candidate) := [none]
  keyAllowed : Bool := true

namespace Lexer

def inFlow (l : Lexer) : Bool := 2 ≤ l.candidates.length

/-- The least indentation of what belongs to the innermost block. -/
def least (l : Lexer) : Nat := match l.blocks with
  | n :: _ => n + 1
  | [] => 0

def push (t : Token) (l : Lexer) : Lexer :=
  { l with tokens := t :: l.tokens, count := l.count + 1 }

/-- Adds a token behind the first `before` ones. -/
def insert (before : Nat) (t : Token) (l : Lexer) : Lexer :=
  let later := l.count - before
  { l with tokens := l.tokens.take later ++ t :: l.tokens.drop later, count := l.count + 1 }

/-- Ends the blocks that satisfy a condition, from the innermost on. -/
def closeBlocks (p : Nat → Bool) (l : Lexer) : Lexer :=
  if l.inFlow then l
  else
    let closed := l.blocks.takeWhile p
    { l with
      blocks := l.blocks.drop closed.length
      tokens := closed.map (fun _ => .blockEnd) ++ l.tokens
      count := l.count + closed.length }

def opensBlock (column : Nat) (l : Lexer) : Bool :=
  !l.inFlow && l.blocks.head?.all (· < column)

/-- Begins a block at a column, unless it is under way; its token goes behind the first `before`
ones. -/
def openBlock (before column : Nat) (t : Token) (l : Lexer) : Lexer :=
  if l.opensBlock column then { l.insert before t with blocks := column :: l.blocks } else l

def candidate? (l : Lexer) : Option Candidate := l.candidates.head?.join

/-- Gives up the candidate of the innermost collection. -/
def dropCandidate (l : Lexer) : Except Trouble Lexer :=
  if l.candidate?.any (·.required) then .error .invalid
  else .ok { l with candidates := none :: l.candidates.tail }

/-- Whether a candidate can still be a key: a key stands on one line and is not long. -/
def Candidate.isFresh (k : Candidate) (c : Cursor) : Bool :=
  k.place.line == c.line && c.index - k.place.index ≤ 1024

def dropStale (l : Lexer) : Except Trouble Lexer :=
  if l.candidates.any fun k => k.any fun k => k.required && !Candidate.isFresh k l.cursor then
    .error .invalid
  else
    .ok { l with
      candidates := l.candidates.map fun k => k.filter fun k => Candidate.isFresh k l.cursor }

/-- Notes that the next token may be a key. At the indentation of a block it has to be one. -/
def noteCandidate (l : Lexer) : Except Trouble Lexer :=
  if l.keyAllowed then do
    let l ← l.dropCandidate
    let required := !l.inFlow && l.blocks.head? == some l.cursor.column
    let k : Candidate := { before := l.count, place := l.cursor, required }
    return { l with candidates := some k :: l.candidates.tail }
  else .ok l

def reading {α : Type} (l : Lexer) (s : Scan α) : Except Trouble (α × Lexer) := do
  let (a, cursor) ← s.run l.cursor
  return (a, { l with cursor })

/-- Goes on to the next token, past spaces, comments and line breaks, and tells whether there was
a line break. -/
def gap : (fuel : Nat) → Scan Bool
  | 0 => return false
  | fuel + 1 => do
    Scan.skipSpaces
    Scan.skipComment
    if (← Scan.passBreak).isEmpty then return false
    let _ ← gap fuel
    return true

/-- Goes on to the next token. Outside flow collections a key may begin on a new line. -/
def advance (l : Lexer) : Except Trouble Lexer := do
  let (broke, l) ← l.reading (gap l.cursor.fuel)
  return { l with keyAllowed := l.keyAllowed || (broke && !l.inFlow) }

def mark (width : Nat) (t : Token) (l : Lexer) : Except Trouble Lexer := do
  let (_, l) ← l.reading (Scan.pass width)
  return l.push t

/-- Leaves all blocks, as a document mark, a directive and the end of the text do. -/
def leave (l : Lexer) : Except Trouble Lexer := do
  let l ← (l.closeBlocks fun _ => true).dropCandidate
  return { l with keyAllowed := false }

def openFlow (t : Token) (l : Lexer) : Except Trouble Lexer := do
  let l ← (← l.noteCandidate).mark 1 t
  return { l with candidates := none :: l.candidates, keyAllowed := true }

def closeFlow (t : Token) (l : Lexer) : Except Trouble Lexer := do
  let l ← l.dropCandidate
  if !l.inFlow then throw .invalid
  let l ← l.mark 1 t
  return { l with candidates := l.candidates.tail, keyAllowed := false }

def comma (l : Lexer) : Except Trouble Lexer := do
  let l ← (← l.dropCandidate).mark 1 .comma
  return { l with keyAllowed := true }

/-- The mark of an entry or a key, with which a block can begin; outside flow collections it
stands where a key may begin. -/
def lead (block t : Token) (keyAfter : Bool) (l : Lexer) : Except Trouble Lexer := do
  if !l.inFlow ∧ !l.keyAllowed then throw .invalid
  let l ← (l.openBlock l.count l.cursor.column block).dropCandidate
  let l ← l.mark 1 t
  return { l with keyAllowed := keyAfter }

/-- The colon before a value. If there is a candidate it becomes the key. -/
def colon (l : Lexer) : Except Trouble Lexer :=
  match l.candidate? with
  | some k => do
    let l := { l with candidates := none :: l.candidates.tail }
    let l := (l.insert k.before .key).openBlock k.before k.place.column .blockMapping
    let l ← l.mark 1 .value
    return { l with keyAllowed := false }
  | none => l.lead .blockMapping .value !l.inFlow

def candidate (l : Lexer) (s : Scan Token) : Except Trouble Lexer := do
  let (t, l) ← (← l.noteCandidate).reading s
  return { l.push t with keyAllowed := false }

def named (t : String → Token) : Scan Token := do
  Scan.pass 1
  return t (← Label.name)

def quoted : Scan Token := return .scalar (← Scalar.quoted) false

def blockScalar (fold : Bool) (l : Lexer) : Except Trouble Lexer := do
  let (text, l) ← (← l.dropCandidate).reading (Scalar.block fold (max 1 l.least))
  return { l.push (.scalar text false) with keyAllowed := true }

/-- A plain scalar. After its last line a key may begin. -/
def plain (l : Lexer) : Except Trouble Lexer := do
  let ((text, keyAllowed), l) ← (← l.noteCandidate).reading (Scalar.plain l.inFlow l.least)
  return { l.push (.scalar text true) with keyAllowed }

def directive (l : Lexer) : Except Trouble Lexer := do
  let (t, l) ← (← l.leave).reading Label.directive
  return l.push t

/-- Whether a character with a condition is followed by white space. -/
def standsAlone (l : Lexer) (condition : Bool) : Except Trouble Bool := do
  if condition then return endsWord (← (Scan.peekAt 1).run' l.cursor) else return false

/-- Whether a document mark comes next, where a character has a condition. -/
def atMark (l : Lexer) (condition : Bool) : Except Trouble Bool :=
  if condition then Scan.atMark.run' l.cursor else return false

def cut (l : Lexer) (d : Char) : Except Trouble Lexer := do
  let first := l.cursor.column = 0
  if d = '\x00' then return (← l.leave).push .finish
  else if d = '%' ∧ first then l.directive
  else if ← l.atMark (first ∧ d = '-') then (← l.leave).mark 3 .documentStart
  else if ← l.atMark (first ∧ d = '.') then (← l.leave).mark 3 .documentEnd
  else if d = '[' then l.openFlow .flowSequence
  else if d = '{' then l.openFlow .flowMapping
  else if d = ']' then l.closeFlow .flowSequenceEnd
  else if d = '}' then l.closeFlow .flowMappingEnd
  else if d = ',' then l.comma
  else if ← l.standsAlone (d = '-') then l.lead .blockSequence .entry true
  else if d = '?' ∧ l.inFlow then l.lead .blockMapping .key false
  else if ← l.standsAlone (d = '?') then l.lead .blockMapping .key true
  else if d = ':' ∧ l.inFlow then l.colon
  else if ← l.standsAlone (d = ':') then l.colon
  else if d = '*' then l.candidate (named .alias)
  else if d = '&' then l.candidate (named .anchor)
  else if d = '!' then l.candidate Label.tag
  else if d = '|' ∧ !l.inFlow then l.blockScalar false
  else if d = '>' ∧ !l.inFlow then l.blockScalar true
  else if d = '\'' ∨ d = '"' then l.candidate quoted
  else if ← (Scalar.startsPlain l.inFlow).run' l.cursor then l.plain
  else throw .invalid

def isFinished (l : Lexer) : Bool := l.tokens.head? = some .finish

/-- Cuts off the next token; at the end of the text it is the last one. -/
def step (l : Lexer) : Except Trouble Lexer := do
  let l ← (← l.advance).dropStale
  let l := l.closeBlocks (· > l.cursor.column)
  let l ← l.cut (← Scan.peek.run' l.cursor)
  if l.isFinished then return l else l.dropStale

/-- How many tokens are settled: no key mark can be put in front of them any more. -/
def settled (l : Lexer) : Nat :=
  (l.candidates.filterMap id).foldl (fun n k => min n k.before) l.count

/-- Cuts off tokens up to the end of the text. Where the rules are broken only the settled tokens
are handed out. -/
def run : (fuel : Nat) → Lexer → List Token
  | 0, l => l.tokens.reverse
  | fuel + 1, l =>
    match l.step with
    | .error t => l.tokens.reverse.take l.settled ++ [.broken t]
    | .ok l => if l.isFinished then l.tokens.reverse else run fuel l

end Lexer

def skipOrderMark : Scan Unit := do
  if (← Scan.peek) = '\uFEFF' then Scan.pass 1

def Token.ofSource (s : Source) : List Token :=
  match skipOrderMark.run (.ofSource s) with
  | .ok (_, cursor) => Lexer.run s.chars.length.succ { cursor }
  | .error t => [.broken t]

end DartBlock.Yaml
