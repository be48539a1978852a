import DartBlock.Datum.Basic
import DartBlock.Text.Base64
import DartBlock.Text.Blank
import DartBlock.Text.Digit
import DartBlock.Text.Lowercase
import DartBlock.Yaml.Plain
import DartBlock.Yaml.Trouble

/-!
# Scalars as values

The value of a text that is tagged as a truth value, a number, bytes or a moment. A tag can be
put on any text, so more texts are read here than stand for such values without a tag: numbers
may have white space around them and digits of any script.
-/

namespace DartBlock.Yaml.Literal

def truths : List (String × Bool) :=
  [("yes", true), ("no", false), ("true", true), ("false", false), ("on", true), ("off", false)]

def truth (cs : List Char) : Except Trouble Bool :=
  let word := (String.ofList cs).lowercased
  match truths.lookup word with
  | some b => .ok b
  | none => .error (.noTruth word)

/-- The text of a number: digits of any script as western ones, without the white space around
them. -/
def numeral (cs : List Char) : List Char :=
  Text.dropTail Text.isGap (cs.dropWhile Text.isGap) |>.map Text.westernDigit

/-- The digits after the letter that names their base, if there is one. -/
def cutBase (base : Nat) : List Char → List Char
  | '0' :: c :: ds =>
    if base = 2 ∧ (c = 'b' ∨ c = 'B') ∨ base = 8 ∧ (c = 'o' ∨ c = 'O')
        ∨ base = 16 ∧ (c = 'x' ∨ c = 'X') then ds
    else '0' :: c :: ds
  | ds => ds

def signedInt (base : Nat) (cs : List Char) : Except Trouble Int :=
  let (negative, ds) := cutSign (numeral cs)
  if base = 10 ∧ ds.length > digitLimit then .error .noNumber
  else
    match natOfDigits? base (cutBase base ds) with
    | some n => .ok (if negative then -n else n)
    | none => .error .noNumber

/-- A whole number after its sign: decimal, binary, hexadecimal, octal, or with places to the
base sixty between colons. -/
def unsignedInt : List Char → Except Trouble Int
  | [] => .error .noDigits
  | ['0'] => .ok 0
  | '0' :: 'b' :: ds => signedInt 2 ds
  | '0' :: 'x' :: ds => signedInt 16 ds
  | '0' :: ds => signedInt 8 ('0' :: ds)
  | ds => do
    let places ← (Plain.colonParts ds).mapM (signedInt 10)
    return places.foldl (fun n d => n * 60 + d) 0

/-- A whole number. Underscores do not count. -/
def int (cs : List Char) : Except Trouble Int :=
  let (negative, ds) := cutSign (cs.filter (· != '_'))
  (unsignedInt ds).map fun n => if negative then -n else n

def signedFloat (cs : List Char) : Except Trouble Binary64 :=
  let cs := numeral cs
  let (negative, body) := cutSign cs
  let word := String.ofList body
  if word = "inf" ∨ word = "infinity" then .ok (.infinite negative)
  else if word = "nan" then .ok .nan
  else
    match Binary64.read? cs with
    | some x => .ok x
    | none => .error .noNumber

/-- The number whose places to the base sixty are given, the lowest first, `scale` being what the
first is worth. -/
def sumPlaces (scale : Nat) (sum : Binary64) : List Binary64 → Except Trouble Binary64
  | [] => .ok sum
  | d :: ds =>
    match Binary64.round false scale 1 with
    | .infinite _ => .error .tooLong
    | s => sumPlaces (scale * 60) (sum.add (d.mul s)) ds

def unsignedFloat (cs : List Char) : Except Trouble Binary64 :=
  if cs = ['.', 'i', 'n', 'f'] then .ok (.infinite false)
  else if cs = ['.', 'n', 'a', 'n'] then .ok .nan
  else if cs.contains ':' then do
    let places ← (Plain.colonParts cs).mapM signedFloat
    sumPlaces 1 (.finite false 0 Binary64.minExponent) places.reverse
  else signedFloat cs

/-- A floating-point number. Underscores and the case of letters do not count. -/
def float (cs : List Char) : Except Trouble Binary64 :=
  let cs := (String.ofList (cs.filter (· != '_'))).lowercased.toList
  if cs.isEmpty then .error .noDigits
  else
    let (negative, body) := cutSign cs
    (unsignedFloat body).map fun x => if negative then x.neg else x

def bytes (cs : List Char) : Except Trouble (List UInt8) :=
  if cs.all fun c => c.toNat < 0x80 then
    match Text.Base64.decode? cs with
    | some bs => .ok bs
    | none => .error .invalid
  else .error .invalid

/-- A day or a time of a day. A line feed at the end does not count. -/
def moment (cs : List Char) : Except Trouble Moment :=
  match Plain.moment? (if cs.getLast? = some '\n' then cs.dropLast else cs) with
  | none => .error .noMoment
  | some m =>
    if m.date.isValid && m.clock.all Clock.isValid then .ok m else .error .noSuchMoment

end DartBlock.Yaml.Literal
