/-!
# Templates

A template is a text with slots. `%a` and `%w` stand for the markers of asynchronous code, `%s`
for the body, and `%%` for a percent sign; any other percent sign stands for itself. A template
is read once from left to right, so what fills a slot is never read as a template.
-/

namespace DartBlock.Template

/-- A place of a template that is filled in. -/
inductive Slot
  | percent
  | asyncMarker
  | awaitMarker
  | body
  deriving DecidableEq, Repr

namespace Slot

def letter : Slot → Char
  | .percent => '%'
  | .asyncMarker => 'a'
  | .awaitMarker => 'w'
  | .body => 's'

def ofLetter? (c : Char) : Option Slot :=
  if c = '%' then some .percent
  else if c = 'a' then some .asyncMarker
  else if c = 'w' then some .awaitMarker
  else if c = 's' then some .body
  else none

@[simp] theorem ofLetter?_letter (s : Slot) : ofLetter? s.letter = some s := by
  cases s <;> rfl

end Slot

inductive Piece
  | char (c : Char)
  | slot (s : Slot)
  deriving DecidableEq, Repr

def read : List Char → List Piece
  | [] => []
  | '%' :: c :: cs =>
    match Slot.ofLetter? c with
    | some s => .slot s :: read cs
    | none => .char '%' :: read (c :: cs)
  | c :: cs => .char c :: read cs

/-- Whether the template has a place for the body. -/
def hasBody (template : String) : Bool :=
  (read template.toList).contains (.slot .body)

def fillPieces (table : Slot → String) (ps : List Piece) : List Char :=
  ps.flatMap fun
    | .char c => [c]
    | .slot s => (table s).toList

def fill (table : Slot → String) (template : String) : String :=
  String.ofList (fillPieces table (read template.toList))

/-- The parts with every slot filled, or the first slot that the table has no text for. -/
def fillPieces? (table : Slot → Option String) : List Piece → Except Slot (List Char)
  | [] => .ok []
  | .char c :: ps => (fillPieces? table ps).map (c :: ·)
  | .slot s :: ps =>
    match table s with
    | some t => (fillPieces? table ps).map (t.toList ++ ·)
    | none => .error s

/-- The template filled from a table that may lack texts. -/
def fill? (table : Slot → Option String) (template : String) : Except Slot String :=
  (fillPieces? table (read template.toList)).map String.ofList

theorem fillPieces?_some (table : Slot → String) (ps : List Piece) :
    fillPieces? (fun s => some (table s)) ps = .ok (fillPieces table ps) := by
  induction ps with
  | nil => rfl
  | cons p ps ih =>
    cases p with
    | char c => simp [fillPieces?, ih, fillPieces, Except.map]
    | slot s => simp [fillPieces?, ih, fillPieces, Except.map]

end DartBlock.Template
