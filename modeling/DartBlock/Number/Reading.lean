import DartBlock.Number.Binary64

/-!
# Reading numbers

Decimal numbers as they are written in data files: digits, an optional fraction and an optional
exponent.
-/

namespace DartBlock

/-- The value of a digit in any base up to 36. -/
def digitValue? (c : Char) : Option Nat :=
  if '0' ≤ c ∧ c ≤ '9' then some (c.toNat - 0x30)
  else if 'a' ≤ c ∧ c ≤ 'z' then some (c.toNat - 0x57)
  else if 'A' ≤ c ∧ c ≤ 'Z' then some (c.toNat - 0x37)
  else none

/-- The number that digits of a base stand for; `none` for no digits and for other characters. -/
def natOfDigits? (base : Nat) (cs : List Char) : Option Nat :=
  if cs.isEmpty then none
  else cs.foldl (fun n c => do
    let n ← n
    let d ← digitValue? c
    if d < base then some (n * base + d) else none) (some 0)

/-- The greatest number of decimal digits of a whole number that is read or written. -/
def digitLimit : Nat := 4300

/-- Cuts off a leading sign and tells whether it is a minus. -/
def cutSign : List Char → Bool × List Char
  | '-' :: cs => (true, cs)
  | '+' :: cs => (false, cs)
  | cs => (false, cs)

/-- A decimal exponent after its letter; the empty text stands for zero. -/
def exponentOf? : List Char → Option Int
  | [] => some 0
  | c :: cs =>
    if c = 'e' ∨ c = 'E' then
      let (negative, ds) := cutSign cs
      (natOfDigits? 10 ds).map fun n => if negative then -(n : Int) else n
    else none

def Binary64.ofUnsigned? (negative : Bool) (cs : List Char) : Option Binary64 := do
  let whole := cs.takeWhile Char.isDigit
  let rest := cs.dropWhile Char.isDigit
  let (fraction, rest) := match rest with
    | '.' :: rest => (rest.takeWhile Char.isDigit, rest.dropWhile Char.isDigit)
    | _ => ([], rest)
  let digits ← natOfDigits? 10 (whole ++ fraction)
  let exponent ← exponentOf? rest
  return .ofDecimal negative digits (exponent - fraction.length)

def Binary64.read? (cs : List Char) : Option Binary64 :=
  let (negative, rest) := cutSign cs
  Binary64.ofUnsigned? negative rest

end DartBlock
