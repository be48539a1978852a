/-!
# Quoted shell words

A word as it is written in a command: as it is where every character is plain, otherwise
between single quotes, a single quote inside it standing between double quotes of its own.
-/

namespace DartBlock.Shell

def isPlain (c : Char) : Bool :=
  c.isAlphanum || ['_', '@', '%', '+', '=', ':', ',', '.', '/', '-'].contains c

/-- One character of a quoted word: a single quote closes the quotes, stands between double
ones, and opens them again. -/
def quotedChar (c : Char) : List Char :=
  if c = '\'' then ['\'', '"', '\'', '"', '\''] else [c]

def quote (word : List Char) : List Char :=
  if word ≠ [] ∧ word.all isPlain then word
  else '\'' :: word.flatMap quotedChar ++ ['\'']

/-- The command whose words are the given ones. -/
def join (words : List String) : String :=
  " ".intercalate (words.map fun w => String.ofList (quote w.toList))

end DartBlock.Shell
