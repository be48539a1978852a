/-!
# Shell words

A command is written as one text and cut into words by the rules of the POSIX shell: words are
separated by spaces, tabs and line breaks; between single quotes every character stands for
itself; between double quotes a backslash escapes only a double quote and a backslash;
elsewhere a backslash escapes any character. There are no comments, variables or operators.
-/

namespace DartBlock.Shell

inductive SplitFault
  | openQuote
  | openEscape
  deriving DecidableEq, Repr

def SplitFault.message : SplitFault → String
  | .openQuote => "No closing quotation"
  | .openEscape => "No escaped character"

def isSeparator (c : Char) : Bool :=
  c == ' ' || c == '\t' || c == '\r' || c == '\n'

inductive Place
  | between
  | word
  | single
  | double
  | escape
  | doubleEscape
  deriving DecidableEq, Repr

/-- Puts characters in front of the first of the words. -/
def extend (cs : List Char) : List (List Char) → List (List Char)
  | [] => [cs]
  | w :: ws => (cs ++ w) :: ws

/-- The words of the rest of a command. Inside a word the first of them is what remains of that
word, which may be empty. -/
def split : Place → List Char → Except SplitFault (List (List Char))
  | .between, [] => .ok []
  | .word, [] => .ok [[]]
  | .single, [] | .double, [] => .error .openQuote
  | .escape, [] | .doubleEscape, [] => .error .openEscape
  | .between, c :: cs =>
    if isSeparator c then split .between cs
    else if c = '\\' then split .escape cs
    else if c = '\'' then split .single cs
    else if c = '"' then split .double cs
    else (split .word cs).map (extend [c])
  | .word, c :: cs =>
    if isSeparator c then (split .between cs).map ([] :: ·)
    else if c = '\\' then split .escape cs
    else if c = '\'' then split .single cs
    else if c = '"' then split .double cs
    else (split .word cs).map (extend [c])
  | .single, c :: cs =>
    if c = '\'' then split .word cs else (split .single cs).map (extend [c])
  | .double, c :: cs =>
    if c = '"' then split .word cs
    else if c = '\\' then split .doubleEscape cs
    else (split .double cs).map (extend [c])
  | .escape, c :: cs => (split .word cs).map (extend [c])
  | .doubleEscape, c :: cs =>
    (split .double cs).map (extend (if c = '"' ∨ c = '\\' then [c] else ['\\', c]))

def words (command : String) : Except SplitFault (List String) :=
  (split .between command.toList).map (·.map String.ofList)

end DartBlock.Shell
