import DartBlock.Text.Blank

/-!
# Line breaks

Captured output and files are read with every line break as one line feed, and the result of
a block is its output without the line breaks at the end.
-/

namespace DartBlock.Text

/-- Every carriage return, alone or before a line feed, becomes a line feed. -/
def unifyBreaks : List Char → List Char
  | [] => []
  | '\r' :: '\n' :: cs => '\n' :: unifyBreaks cs
  | c :: cs => (if c = '\r' then '\n' else c) :: unifyBreaks cs

def isBreak (c : Char) : Bool := c == '\r' || c == '\n'

end DartBlock.Text

namespace String

/-- The text with line feeds as its only line breaks. -/
def withLineFeeds (s : String) : String :=
  ofList (DartBlock.Text.unifyBreaks s.toList)

def withoutFinalBreaks (s : String) : String :=
  ofList (DartBlock.Text.dropTail DartBlock.Text.isBreak s.toList)

end String
