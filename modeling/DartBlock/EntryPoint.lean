import DartBlock.Text.Blank

/-!
# Entry points

Whether a snippet declares a `main` of its own. The check is textual: it looks at the start of
every line for an optional return type, the name, a parameter list and the start of a body, and
it does not know about comments and string literals. White space is free between the parts and
may run over line ends.
-/

namespace DartBlock

namespace EntryPoint

def isIndent (c : Char) : Bool := c == ' ' || c == '\t'

def afterSpace? : List Char → Option (List Char)
  | [] => none
  | c :: cs => if Text.isBlank c then some (cs.dropWhile Text.isBlank) else none

/-- What follows a type argument, or the text itself if none is complete on its line. The
argument ends at the first closing bracket. -/
def afterTypeArgument (cs : List Char) : List Char :=
  match cs.dropWhile Text.isBlank with
  | '<' :: rest =>
    match rest.dropWhile fun c => c != '>' && c != '\n' with
    | '>' :: rest => rest
    | _ => cs
  | _ => cs

/-- What follows the optional return type: nothing, `void`, or a future with or without a type
argument. A type is set off by white space. -/
def afterReturnType? (cs : List Char) : Option (List Char) :=
  match ['v', 'o', 'i', 'd'].isPrefixOf? cs with
  | some rest => afterSpace? rest
  | none =>
    match ['F', 'u', 't', 'u', 'r', 'e'].isPrefixOf? cs with
    | some rest => afterSpace? (afterTypeArgument ((['O', 'r'].isPrefixOf? rest).getD rest))
    | none => some cs

/-- What follows a parameter list, which ends at the first closing parenthesis. -/
def afterParameters? : List Char → Option (List Char)
  | '(' :: cs =>
    match cs.dropWhile (· != ')') with
    | ')' :: rest => some rest
    | _ => none
  | _ => none

def afterMarker (cs : List Char) : List Char :=
  match ['a', 's', 'y', 'n', 'c'].isPrefixOf? cs with
  | some ('*' :: rest) => rest.dropWhile Text.isBlank
  | some rest => rest.dropWhile Text.isBlank
  | none => cs

def opensBody : List Char → Bool
  | '{' :: _ => true
  | '=' :: '>' :: _ => true
  | _ => false

def startsWith (cs : List Char) : Bool :=
  match afterReturnType? (cs.dropWhile isIndent) with
  | none => false
  | some cs =>
    match ['m', 'a', 'i', 'n'].isPrefixOf? cs with
    | none => false
    | some cs =>
      match afterParameters? (cs.dropWhile Text.isBlank) with
      | none => false
      | some cs => opensBody (afterMarker (cs.dropWhile Text.isBlank))

def followsLineFeed : List Char → Bool
  | [] => false
  | c :: cs => (c == '\n' && startsWith cs) || followsLineFeed cs

end EntryPoint

/-- Whether a snippet declares an entry point at the start of one of its lines. -/
def hasEntryPoint (snippet : String) : Bool :=
  EntryPoint.startsWith snippet.toList || EntryPoint.followsLineFeed snippet.toList

end DartBlock
