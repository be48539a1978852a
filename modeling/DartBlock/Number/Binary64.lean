/-!
# Binary floating point

Numbers with 53 significant bits, kept as sign, significand and exponent. Every finite result
is rounded once from the exact quotient, to the nearest number, ties to the even significand.
-/

namespace DartBlock

/-- A floating-point number. A finite one stands for `significand * 2 ^ exponent`; `round`
yields significands below `2 ^ 53`, and below `2 ^ 52` only with the least exponent. -/
inductive Binary64
  | nan
  | infinite (negative : Bool)
  | finite (negative : Bool) (significand : Nat) (exponent : Int)
  deriving DecidableEq, Repr

namespace Binary64

/-- The exponent of the least positive number. -/
def minExponent : Int := -1074

/-- The exponent of the greatest numbers. -/
def maxExponent : Int := 971

/-- The quotient rounded to a whole number, ties to the even one. -/
def roundDiv (num den : Nat) : Nat :=
  let q := num / den
  let r := num % den
  if 2 * r < den ∨ (2 * r = den ∧ q % 2 = 0) then q else q + 1

def scaled (num den : Nat) (e : Int) : Nat × Nat :=
  if e ≥ 0 then (num, den * Nat.pow 2 e.toNat) else (num * Nat.pow 2 (-e).toNat, den)

def round (negative : Bool) (num den : Nat) : Binary64 :=
  if num = 0 ∨ den = 0 then .finite negative 0 minExponent
  else
    let guess := (num.log2 : Int) - den.log2 - 53
    let (n, d) := scaled num den guess
    let e := max minExponent (if n / d < Nat.pow 2 53 then guess else guess + 1)
    let (n, d) := scaled num den e
    let m := roundDiv n d
    let (m, e) := if m = Nat.pow 2 53 then (Nat.pow 2 52, e + 1) else (m, e)
    if e > maxExponent then .infinite negative else .finite negative m e

/-- The number nearest to `digits * 10 ^ exponent`. -/
def ofDecimal (negative : Bool) (digits : Nat) (exponent : Int) : Binary64 :=
  let magnitude := (Nat.toDigits 10 digits).length + exponent
  if digits = 0 ∨ magnitude < -400 then .finite negative 0 minExponent
  else if magnitude > 400 then .infinite negative
  else if exponent ≥ 0 then round negative (digits * Nat.pow 10 exponent.toNat) 1
  else round negative digits (Nat.pow 10 (-exponent).toNat)

/-- A finite number as sign, numerator and denominator. -/
def fraction? : Binary64 → Option (Bool × Nat × Nat)
  | .finite negative m e => some (negative, scaled m 1 (-e))
  | _ => none

def isNegative : Binary64 → Bool
  | .nan => false
  | .infinite negative | .finite negative _ _ => negative

def isZero : Binary64 → Bool
  | .finite _ m _ => m == 0
  | _ => false

def neg : Binary64 → Binary64
  | .nan => .nan
  | .infinite negative => .infinite !negative
  | .finite negative m e => .finite (!negative) m e

def mul (x y : Binary64) : Binary64 :=
  let negative := x.isNegative != y.isNegative
  match x.fraction?, y.fraction? with
  | some (_, a, b), some (_, c, d) => round negative (a * c) (b * d)
  | _, _ =>
    if x = .nan ∨ y = .nan ∨ x.isZero ∨ y.isZero then .nan else .infinite negative

/-- The sum of two numbers. A zero is negative only if both numbers are. -/
def add (x y : Binary64) : Binary64 :=
  match x.fraction?, y.fraction? with
  | some (p, a, b), some (q, c, d) =>
    let signed (negative : Bool) (n : Nat) : Int := if negative then -n else n
    let sum := signed p (a * d) + signed q (c * b)
    let negative := if sum = 0 then p && q else sum < 0
    round negative sum.natAbs (b * d)
  | some _, none => y
  | none, some _ => x
  | none, none => if x = y then x else .nan

def equalsInt (x : Binary64) (n : Int) : Bool :=
  match x.fraction? with
  | some (negative, a, b) =>
    (if negative then -(a : Int) else a) == n * b
  | none => false

end Binary64

end DartBlock
