import DartBlock.Text.Lowercase.Table

/-!
# Lower case

Full Unicode lower-casing. Two rules go beyond the table: the capital I with a dot becomes two
characters, and a capital sigma at the end of a word takes its final form.
-/

namespace DartBlock.Text

def inRanges (ranges : List (Nat × Nat)) (n : Nat) : Bool :=
  ranges.any fun (low, high) => low ≤ n && n ≤ high

def lowerChar (c : Char) : Char :=
  match caseRuns.find? fun r =>
      r.first ≤ c.toNat && c.toNat ≤ r.last && (c.toNat - r.first) % r.stride == 0 with
  | some r => Char.ofNat (c.toNat + r.offset).toNat
  | none => c

/-- Whether the nearest character that is not passed over is a cased one. -/
def meetsCased (cs : List Char) : Bool :=
  match cs.find? fun c => !inRanges caseIgnorableRanges c.toNat with
  | some c => inRanges casedRanges c.toNat
  | none => false

/-- The lower-case form of one character, given the text before it (last character first) and
the text after it. -/
def lowerAt (before : List Char) (c : Char) (after : List Char) : List Char :=
  if c = '\u0130' then ['i', '\u0307']
  else if c = '\u03A3' then
    if meetsCased before && !meetsCased after then ['\u03C2'] else ['\u03C3']
  else [lowerChar c]

def lowerFrom (before : List Char) : List Char → List Char
  | [] => []
  | c :: cs => lowerAt before c cs ++ lowerFrom (c :: before) cs

def lower (cs : List Char) : List Char := lowerFrom [] cs

end DartBlock.Text

namespace String

def lowercased (s : String) : String :=
  ofList (DartBlock.Text.lower s.toList)

end String
