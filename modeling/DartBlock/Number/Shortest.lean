import DartBlock.Number.Binary64

/-!
# Shortest decimal text

A finite number is written with the fewest digits that read back as the same number, and among
those with the digits nearest to it. The digits are found by exact arithmetic: the numbers that
round to the given one form an interval, and ever finer decimal grids are tried until one of
the two grid points around the number lies inside it.
-/

namespace DartBlock.Binary64

/-- The interval of the numbers that round to `significand * 2 ^ exponent`, in quarters of its
last place: lower end, the number itself, upper end. -/
def quarters (m : Nat) (e : Int) : Nat × Nat × Nat :=
  let low := if m = Nat.pow 2 52 ∧ e > minExponent then 4 * m - 1 else 4 * m - 2
  (low, 4 * m, 4 * m + 2)

/-- The grid point with the step `10 ^ p` that reads back, of two the nearer one or, if they are
equally near, the even one. All ends are
given in units of `unitNum / unitDen`; they belong to the interval if `closed`. -/
def gridPoint? (closed : Bool) (low value high unitNum unitDen : Nat) (p : Int) : Option Nat :=
  let (num, den) :=
    if p ≥ 0 then (unitNum, unitDen * Nat.pow 10 p.toNat)
    else (unitNum * Nat.pow 10 (-p).toNat, unitDen)
  let below := value * num / den
  let inside (k : Nat) : Bool :=
    if closed then low * num ≤ k * den && k * den ≤ high * num
    else low * num < k * den && k * den < high * num
  let above := below + 1
  match inside below, inside above with
  | true, true =>
    let down := value * num - below * den
    let up := above * den - value * num
    some (if down < up ∨ (down = up ∧ below % 2 = 0) then below else above)
  | true, false => some below
  | false, true => some above
  | false, false => none

/-- The first grid point found from the step `10 ^ p` downward, with its step. -/
def search (closed : Bool) (low value high unitNum unitDen : Nat) : Nat → Int → Nat × Int
  | 0, p => (0, p)
  | fuel + 1, p =>
    match gridPoint? closed low value high unitNum unitDen p with
    | some k => (k, p)
    | none => search closed low value high unitNum unitDen fuel (p - 1)

/-- The shortest digits of `m * 2 ^ e`, for a positive `m`, and the power of ten of the last
one. -/
def shortest (m : Nat) (e : Int) : Nat × Int :=
  let (low, value, high) := quarters m e
  let (num, den) := scaled 1 1 (2 - e)
  let top := ((m.log2 : Int) + e + 1) * 30103 / 100000 + 2
  search (m % 2 == 0) low value high num den 24 top

/-- Places a decimal point. Numbers from `10 ^ -4` up to below `10 ^ 16` are written without an
exponent and always show a point; others show one digit before it and a signed exponent of at
least two digits. -/
def layout (digits : Nat) (power : Int) : String :=
  let ds := Nat.toDigits 10 digits
  let point : Int := ds.length + power
  String.ofList <|
    if -4 < point ∧ point ≤ 16 then
      if point ≤ 0 then '0' :: '.' :: List.replicate (-point).toNat '0' ++ ds
      else if power ≥ 0 then ds ++ List.replicate power.toNat '0' ++ ['.', '0']
      else ds.take point.toNat ++ '.' :: ds.drop point.toNat
    else
      let exponent := point - 1
      let es := Nat.toDigits 10 exponent.natAbs
      ds.take 1 ++ (if ds.length > 1 then '.' :: ds.drop 1 else [])
        ++ 'e' :: (if exponent < 0 then '-' else '+')
        :: (if es.length < 2 then '0' :: es else es)

def text : Binary64 → String
  | .nan => "nan"
  | .infinite negative => if negative then "-inf" else "inf"
  | .finite negative m e =>
    let body := if m = 0 then "0.0" else let (digits, power) := shortest m e; layout digits power
    if negative then "-" ++ body else body

end DartBlock.Binary64
