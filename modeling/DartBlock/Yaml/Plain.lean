import DartBlock.Datum.Moment
import DartBlock.Number.Reading

/-!
# Plain scalars

What a scalar without quotation marks stands for. Most texts stand for themselves; some are
nothing, truth values, numbers or dates, and two have a meaning as keys of a mapping.
-/

namespace DartBlock.Yaml

inductive PlainKind
  | text
  | null
  | bool
  | int
  | float
  | timestamp
  | merge
  | value
  deriving DecidableEq, Repr

namespace Plain

def isBinary (c : Char) : Bool := c == '0' || c == '1' || c == '_'

def isOctal (c : Char) : Bool := ('0' ≤ c && c ≤ '7') || c == '_'

def isDecimal (c : Char) : Bool := c.isDigit || c == '_'

def isHex (c : Char) : Bool :=
  c.isDigit || ('a' ≤ c && c ≤ 'f') || ('A' ≤ c && c ≤ 'F') || c == '_'

/-- Decimal digits and underscores that begin with a digit. -/
def isNumeral : List Char → Bool
  | [] => false
  | c :: cs => c.isDigit && cs.all isDecimal

def colonParts : List Char → List (List Char)
  | [] => [[]]
  | c :: cs =>
    if c = ':' then [] :: colonParts cs
    else match colonParts cs with
      | [] => [[c]]
      | p :: ps => (c :: p) :: ps

/-- A place of a number to the base sixty: one or two digits below sixty. -/
def isSixtieth : List Char → Bool
  | [d] => d.isDigit
  | [t, d] => '0' ≤ t && t ≤ '5' && d.isDigit
  | _ => false

/-- Whole numbers: binary, octal, decimal, hexadecimal, or decimal to the base sixty. -/
def isInt (cs : List Char) : Bool :=
  match (cutSign cs).2 with
  | ['0'] => true
  | '0' :: 'b' :: ds => !ds.isEmpty && ds.all isBinary
  | '0' :: 'x' :: ds => !ds.isEmpty && ds.all isHex
  | '0' :: ds => ds.all isOctal
  | ds =>
    match colonParts ds with
    | p :: ps => isNumeral p && ps.all isSixtieth
    | [] => false

/-- The exponent of a number: a letter, a sign and digits; or nothing. -/
def isExponent : List Char → Bool
  | [] => true
  | e :: s :: ds =>
    (e == 'e' || e == 'E') && (s == '-' || s == '+') && !ds.isEmpty && ds.all Char.isDigit
  | _ => false

def isFraction (cs : List Char) : Bool :=
  isExponent (cs.dropWhile isDecimal)

/-- A number to the base sixty whose last place has a point. -/
def isSixtiethFraction (cs : List Char) : Bool :=
  let whole := cs.takeWhile (· != '.')
  match cs.dropWhile (· != '.'), colonParts whole with
  | '.' :: rest, p :: q :: ps => isNumeral p && (q :: ps).all isSixtieth && rest.all isDecimal
  | _, _ => false

def isFloat (cs : List Char) : Bool :=
  match cs with
  | ['.', 'n', 'a', 'n'] | ['.', 'N', 'a', 'N'] | ['.', 'N', 'A', 'N'] => true
  | '.' :: d :: rest => if d.isDigit then isFraction rest else isInfinity cs
  | _ =>
    let body := (cutSign cs).2
    isInfinity body || isSixtiethFraction body
      || match body.takeWhile isDecimal, body.dropWhile isDecimal with
        | whole, '.' :: rest => isNumeral whole && isFraction rest
        | _, _ => false
where
  /-- The three spellings of infinity. -/
  isInfinity (cs : List Char) : Bool :=
    cs == ['.', 'i', 'n', 'f'] || cs == ['.', 'I', 'n', 'f'] || cs == ['.', 'I', 'N', 'F']

def boolWords : List String :=
  ["yes", "Yes", "YES", "no", "No", "NO", "true", "True", "TRUE", "false", "False", "FALSE",
    "on", "On", "ON", "off", "Off", "OFF"]

def nullWords : List String := ["", "~", "null", "Null", "NULL"]

def cutDigits (most : Nat) (cs : List Char) : List Char × List Char :=
  let ds := (cs.take most).takeWhile Char.isDigit
  (ds, cs.drop ds.length)

def number? (least most : Nat) (cs : List Char) : Option (Nat × List Char) :=
  let (ds, rest) := cutDigits most cs
  if ds.length < least then none else (natOfDigits? 10 ds).map fun n => (n, rest)

def after? (c : Char) : List Char → Option (List Char)
  | [] => none
  | d :: cs => if d = c then some cs else none

/-- An offset from universal time in minutes; a text without one has none. -/
def offset? (cs : List Char) : Option (Option Int) :=
  match cs, cs.dropWhile fun c => c == ' ' || c == '\t' with
  | [], _ => some none
  | _, ['Z'] => some (some 0)
  | _, s :: rest =>
    if s = '+' ∨ s = '-' then do
      let (hours, rest) ← number? 1 2 rest
      let minutes ← match rest with
        | [] => some 0
        | ':' :: rest => do
          let (minutes, rest) ← number? 2 2 rest
          if rest.isEmpty then some minutes else none
        | _ => none
      let total : Int := hours * 60 + minutes
      return some (if s = '-' then -total else total)
    else none
  | _, [] => none

/-- The millionths of a second that the digits after a point stand for; further digits are
dropped. -/
def microseconds (ds : List Char) : Nat :=
  let ds := ds.take 6
  (natOfDigits? 10 (ds ++ List.replicate (6 - ds.length) '0')).getD 0

def clock? (cs : List Char) : Option Clock := do
  let (hour, rest) ← number? 1 2 cs
  let (minute, rest) ← number? 2 2 (← after? ':' rest)
  let (second, rest) ← number? 2 2 (← after? ':' rest)
  let (fraction, rest) := match rest with
    | '.' :: rest => (rest.takeWhile Char.isDigit, rest.dropWhile Char.isDigit)
    | rest => ([], rest)
  let offset ← offset? rest
  return { hour, minute, second, microsecond := microseconds fraction, offset }

/-- The moment a text names: a day, alone or with a time after the letter T or white space. The
calendar is not asked whether it has this day. -/
def moment? (cs : List Char) : Option Moment := do
  let (year, rest) ← number? 4 4 cs
  let (month, rest) ← number? 1 2 (← after? '-' rest)
  let (day, rest) ← number? 1 2 (← after? '-' rest)
  let date : Day := { year, month, day }
  match rest with
  | [] => return { date }
  | c :: rest =>
    if c = 'T' ∨ c = 't' then return { date, clock := some (← clock? rest) }
    else if c = ' ' ∨ c = '\t' then
      let rest := rest.dropWhile fun c => c == ' ' || c == '\t'
      return { date, clock := some (← clock? rest) }
    else none

/-- Whether a plain scalar is a moment: a day alone is written with ten characters. -/
def isTimestamp (cs : List Char) : Bool :=
  match moment? cs with
  | some m => m.clock.isSome || cs.length == 10
  | none => false

def kind (cs : List Char) : PlainKind :=
  let s := String.ofList cs
  if nullWords.contains s then .null
  else if boolWords.contains s then .bool
  else if cs = ['=']  then .value
  else if cs = ['<', '<'] then .merge
  else if isFloat cs then .float
  else if isInt cs then .int
  else if isTimestamp cs then .timestamp
  else .text

end Plain

end DartBlock.Yaml
