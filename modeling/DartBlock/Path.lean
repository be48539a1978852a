/-!
# Paths

The names of files. Slashes in a row count as one and points alone as nothing; two points, which
lead to the directory above, are kept.
-/

namespace DartBlock

/-- A path: the slashes it begins with and its parts. -/
structure Path where
  root : String := ""
  parts : List String
  deriving DecidableEq, Repr

namespace Path

def slashParts : List Char → List (List Char)
  | [] => [[]]
  | c :: cs =>
    if c = '/' then [] :: slashParts cs
    else match slashParts cs with
      | [] => [[c]]
      | p :: ps => (c :: p) :: ps

/-- What a path begins with: exactly two slashes are not the same as one. -/
def rootOf (cs : List Char) : String :=
  match (cs.takeWhile (· == '/')).length with
  | 0 => ""
  | 2 => "//"
  | _ => "/"

def ofString (s : String) : Path where
  root := rootOf s.toList
  parts := ((slashParts s.toList).filter fun p => p ≠ [] ∧ p ≠ ['.']).map String.ofList

/-- The shortest text that names a path. -/
def text (p : Path) : String :=
  if p.root = "" ∧ p.parts = [] then "." else p.root ++ "/".intercalate p.parts

end Path

end DartBlock
