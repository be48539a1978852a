import DartBlock.Yaml.Source

/-!
# Places in a text

A cursor is a place in a text: what is still to be read, what is met behind it, and the line and
the column where it stands. Lines and columns are counted from zero. Reading from a place on is a
`Scan`; it fails where a trouble of the text itself is reached.
-/

namespace DartBlock.Yaml

structure Cursor where
  rest : List Char
  trouble : Option Trouble := none
  length : Nat := rest.length
  index : Nat := 0
  line : Nat := 0
  column : Nat := 0
  deriving DecidableEq, Repr

/-- A line break as it is read: only the two separators of lines and paragraphs stay apart from
a line feed. -/
def asRead (c : Char) : Char := if c = '\u0085' then '\n' else c

namespace Cursor

def ofSource (s : Source) : Cursor := { rest := s.chars, trouble := s.trouble }

/-- Fuel for whatever takes a character each time. -/
def fuel (c : Cursor) : Nat := c.length + 1

/-- The place after the next character. A byte order mark takes up no column. -/
def next (c : Cursor) : Cursor :=
  match c.rest with
  | [] => c
  | d :: rest =>
    if isBreak d then { c with rest, index := c.index + 1, line := c.line + 1, column := 0 }
    else
      { c with
        rest
        index := c.index + 1
        column := if d = '\uFEFF' then c.column else c.column + 1 }

@[simp] theorem rest_next (c : Cursor) : c.next.rest = c.rest.tail := by
  unfold next
  split
  · simp [*]
  · split <;> simp [*]

def skip : Nat → Cursor → Cursor
  | 0, c => c
  | n + 1, c => skip n c.next

end Cursor

abbrev Scan := StateT Cursor (Except Trouble)

namespace Scan

/-- Looks for `n` characters. Where the text ends fewer are enough; where it breaks off its
trouble shows. -/
def need (n : Nat) : Scan Unit := do
  let c ← get
  match c.trouble with
  | some t => if (c.rest.take n).length < n then throw t
  | none => return

/-- The character `n` places after the next one, or NUL beyond the end. -/
def peekAt (n : Nat) : Scan Char := do
  need (n + 1)
  return ((← get).rest.drop n).headD '\x00'

def peek : Scan Char := peekAt 0

/-- Goes on by `n` characters. The one after them is looked for. -/
def pass (n : Nat) : Scan Unit := do
  need (n + 1)
  modify (Cursor.skip n)

def span (p : Char → Bool) : Scan (List Char) := do
  let cs := (← get).rest.takeWhile p
  pass cs.length
  return cs

def skipSpan (p : Char → Bool) : Scan Unit := do
  let _ ← span p

def skipSpaces : Scan Unit := skipSpan (· == ' ')

def skipComment : Scan Unit := do
  if (← peek) = '#' then skipSpan (!endsLine ·)

/-- Goes past a line break, which is returned as it is read; nothing where no line ends. -/
def passBreak : Scan (List Char) := do
  let c ← peek
  if isBreak c then
    pass 1
    return [asRead c]
  else return []

/-- Whether the three hyphens or points of a document mark come next. -/
def atMark : Scan Bool := do
  need 3
  let three := (← get).rest.take 3
  if three = ['-', '-', '-'] ∨ three = ['.', '.', '.'] then return endsWord (← peekAt 3)
  else return false

/-- Goes on to the next line; nothing but spaces and a comment may come before it. -/
def finishLine : Scan Unit := do
  skipSpaces
  skipComment
  unless endsLine (← peek) do throw .invalid
  let _ ← passBreak

end Scan

end DartBlock.Yaml
