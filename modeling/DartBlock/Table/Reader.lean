import DartBlock.Table.Basic
import DartBlock.Text.Blank

/-!
# Reading printed tables

A printed list, set, map or record is read as a table if it is one group of cells, or a group of
such groups that are equally long. A group is a pair of brackets around items separated by
commas; an item is a group or a cell, and a cell is any text without brackets and commas. Only
this structure counts: quotation marks have no meaning.

White space around groups is skipped, and so is white space after an opening bracket; that is
why a blank cell is read after a comma but not at the start of a group.
-/

namespace DartBlock.Table

inductive Bracket
  | round
  | square
  | curly
  deriving DecidableEq, Repr

namespace Bracket

def opening : Bracket → Char
  | .round => '('
  | .square => '['
  | .curly => '{'

def closing : Bracket → Char
  | .round => ')'
  | .square => ']'
  | .curly => '}'

def ofOpening? (c : Char) : Option Bracket :=
  if c = '(' then some .round
  else if c = '[' then some .square
  else if c = '{' then some .curly
  else none

@[simp] theorem ofOpening?_opening (b : Bracket) : ofOpening? b.opening = some b := by
  cases b <;> rfl

end Bracket

/-- The characters that give a printed table its structure. -/
def isDelimiter (c : Char) : Bool :=
  c == ',' || c == '(' || c == ')' || c == '[' || c == ']' || c == '{' || c == '}'

/-- A printed value: a cell or a group. -/
inductive Node
  | cell (text : List Char)
  | group (items : List Node)
  deriving Repr

/-- What begins at this place: the kind and the inside of a group, if a group begins here. -/
def openGroup? : List Char → Option (Bracket × List Char)
  | [] => none
  | c :: cs => (Bracket.ofOpening? c).map fun b => (b, cs)

mutual

def readItem : Nat → List Char → Option (Node × List Char)
  | 0, _ => none
  | fuel + 1, cs =>
    match openGroup? (cs.dropWhile Text.isGap) with
    | some (b, inside) =>
      (readGroup fuel b inside).map fun (items, rest) =>
        (.group items, rest.dropWhile Text.isGap)
    | none =>
      let text := cs.takeWhile fun c => !isDelimiter c
      if text.isEmpty then none
      else some (.cell (Text.strip text), cs.dropWhile fun c => !isDelimiter c)

/-- The items of a group after its opening bracket, which may be none. -/
def readGroup : Nat → Bracket → List Char → Option (List Node × List Char)
  | 0, _, _ => none
  | fuel + 1, b, cs =>
    match cs.dropWhile Text.isGap with
    | [] => none
    | c :: rest =>
      if c = b.closing then some ([], rest) else readItems fuel b (c :: rest)

/-- The items of a group from an item on, up to and with its closing bracket. -/
def readItems : Nat → Bracket → List Char → Option (List Node × List Char)
  | 0, _, _ => none
  | fuel + 1, b, cs =>
    match readItem fuel cs with
    | none => none
    | some (item, rest) =>
      match rest with
      | [] => none
      | c :: rest =>
        if c = ',' then
          (readItems fuel b rest).map fun (items, rest) => (item :: items, rest)
        else if c = b.closing then some ([item], rest)
        else none

end

def Node.cell? : Node → Option String
  | .cell text => some (String.ofList text)
  | .group _ => none

/-- The cells of a group that is a row: it has cells, and nothing else. -/
def Node.row? : Node → Option (List String)
  | .group (item :: items) => (item :: items).mapM Node.cell?
  | _ => none

def isRectangle : Table → Bool
  | [] => true
  | row :: rows => rows.all fun r => r.length == row.length

def ofItems? (items : List Node) : Option Table :=
  if items.isEmpty then none
  else match items.mapM Node.cell? with
    | some row => some [row]
    | none => (items.mapM Node.row?).filter isRectangle

/-- The table that stripped text shows, if it shows one. Each item takes at least one character
and at most three steps. -/
def ofChars? (cs : List Char) : Option Table :=
  match readItem (3 * cs.length + 3) cs with
  | some (.group items, []) => ofItems? items
  | _ => none

def read? (text : String) : Option Table := ofChars? (Text.strip text.toList)

end DartBlock.Table
