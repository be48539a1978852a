/-!
# White space

Two sets of white-space characters and what the library does with them: texts are stripped
and cut into words at *blanks*; between the parts of a printed table only *gaps* are skipped.
The information separators U+001C to U+001F are blanks and no gaps.
-/

namespace DartBlock.Text

/-- The white space allowed between the parts of a printed table. -/
def isGap (c : Char) : Bool :=
  let n := c.toNat
  (9 ≤ n && n ≤ 13) || n == 0x20 || n == 0x85 || n == 0xA0 || n == 0x1680
    || (0x2000 ≤ n && n ≤ 0x200A) || n == 0x2028 || n == 0x2029 || n == 0x202F
    || n == 0x205F || n == 0x3000

/-- The Unicode white space: the gaps and the four information separators. -/
def isBlank (c : Char) : Bool :=
  isGap c || (0x1C ≤ c.toNat && c.toNat ≤ 0x1F)

theorem isBlank_of_isGap {c : Char} (h : isGap c) : isBlank c := by
  simp [isBlank, h]

/-- Drops the longest tail whose characters all satisfy `p`. -/
def dropTail (p : Char → Bool) (cs : List Char) : List Char :=
  (cs.reverse.dropWhile p).reverse

def strip (cs : List Char) : List Char :=
  dropTail isBlank (cs.dropWhile isBlank)

/-- The maximal runs of characters that are no blanks. -/
def words : List Char → List (List Char)
  | [] => []
  | c :: cs =>
    if isBlank c then words cs
    else match cs with
      | [] => [[c]]
      | d :: _ =>
        if isBlank d then [c] :: words cs
        else match words cs with
          | [] => [[c]]
          | w :: ws => (c :: w) :: ws

end DartBlock.Text

namespace String

def stripped (s : String) : String :=
  ofList (DartBlock.Text.strip s.toList)

def blankWords (s : String) : List String :=
  (DartBlock.Text.words s.toList).map ofList

end String
