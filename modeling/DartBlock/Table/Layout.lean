import DartBlock.Table.Basic

/-!
# Table layout

A table as lines of cells between bars. Every column is as wide as its widest cell, and a short
row is filled up with blank cells.
-/

namespace DartBlock.Table

/-- The number of columns: the length of the longest row. -/
def columns (rows : Table) : Nat :=
  rows.foldl (fun n row => max n row.length) 0

/-- The cell of a row in a column, empty if the row is too short. -/
def cellAt (row : List String) (i : Nat) : String := row.getD i ""

/-- The width of a column: the length of its longest cell. -/
def width (rows : Table) (i : Nat) : Nat :=
  rows.foldl (fun n row => max n (cellAt row i).length) 0

def padCell (width : Nat) (cell : String) : String :=
  cell ++ String.ofList (List.replicate (width - cell.length) ' ')

def widths (rows : Table) : List Nat := (List.range (columns rows)).map (width rows)

/-- The line of a row in columns of given widths. -/
def line (widths : List Nat) (row : List String) : String :=
  "| " ++ " | ".intercalate (widths.mapIdx fun i w => padCell w (cellAt row i)) ++ " |"

def layout (rows : Table) : String :=
  let ws := widths rows
  "\n".intercalate (rows.map (line ws))

end DartBlock.Table
