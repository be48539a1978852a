/-!
# UTF-8

Reading bytes as text. A sequence that is cut short or followed by a byte that cannot continue
it counts as one fault, and reading goes on at the byte that did not fit; so each fault covers
the longest start of a well-formed sequence. `decode?` refuses faults, `decodeLossy` puts the
replacement character in their place, and `arrivals` tells when each character and the first
fault are known.
-/

namespace DartBlock.Text.Utf8

/-- A sequence under way: how many bytes are missing, the bounds of the next one and the value
of the bits read so far. -/
structure Pending where
  missing : Nat
  low : UInt8 := 0x80
  high : UInt8 := 0xBF
  value : Nat

inductive Lead
  | whole (c : Char)
  | opens (p : Pending)
  | fault

/-- The role of a first byte. The narrowed bounds of the second byte keep out overlong forms,
surrogates and values above U+10FFFF. -/
def lead (b : UInt8) : Lead :=
  if b < 0x80 then .whole (Char.ofNat b.toNat)
  else if b < 0xC2 then .fault
  else if b < 0xE0 then .opens { missing := 1, value := b.toNat - 0xC0 }
  else if b = 0xE0 then .opens { missing := 2, low := 0xA0, value := 0 }
  else if b = 0xED then .opens { missing := 2, high := 0x9F, value := 0xD }
  else if b < 0xF0 then .opens { missing := 2, value := b.toNat - 0xE0 }
  else if b = 0xF0 then .opens { missing := 3, low := 0x90, value := 0 }
  else if b < 0xF4 then .opens { missing := 3, value := b.toNat - 0xF0 }
  else if b = 0xF4 then .opens { missing := 3, high := 0x8F, value := 4 }
  else .fault

/-- The characters of a byte list, `none` standing for a fault; the first argument is the
sequence the list goes on with. -/
def scan : Option Pending → List UInt8 → List (Option Char)
  | none, [] => []
  | some _, [] => [none]
  | none, b :: bs =>
    match lead b with
    | .whole c => some c :: scan none bs
    | .opens p => scan (some p) bs
    | .fault => none :: scan none bs
  | some p, b :: bs =>
    if p.low ≤ b ∧ b ≤ p.high then
      let value := p.value * 64 + (b.toNat - 0x80)
      if p.missing ≤ 1 then some (Char.ofNat value) :: scan none bs
      else scan (some { missing := p.missing - 1, value }) bs
    else
      match lead b with
      | .whole c => none :: some c :: scan none bs
      | .opens q => none :: scan (some q) bs
      | .fault => none :: none :: scan none bs

def decode? (bytes : ByteArray) : Option String :=
  ((scan none bytes.data.toList).mapM id).map String.ofList

/-- The text of any bytes, with U+FFFD for each fault. -/
def decodeLossy (bytes : ByteArray) : String :=
  String.ofList ((scan none bytes.data.toList).map (·.getD '\uFFFD'))

/-- How many bytes from the one that does not fit on show a fault. The form of a surrogate is
looked at as a whole. -/
def Pending.shownBy (p : Pending) (b : UInt8) : Nat :=
  if p.high = 0x9F ∧ 0xA0 ≤ b ∧ b ≤ 0xBF then 2 else 1

/-- The characters before the first fault and the fault, each with the number of bytes that show
it; a sequence that is cut short takes the end of the bytes as well. The second argument is how
many bytes have been read. -/
def arrivals : Option Pending → Nat → List UInt8 → List (Char × Nat) × Option Nat
  | none, _, [] => ([], none)
  | some _, n, [] => ([], some (n + 1))
  | none, n, b :: bs =>
    match lead b with
    | .whole c => let (cs, fault) := arrivals none (n + 1) bs; ((c, n + 1) :: cs, fault)
    | .opens p => arrivals (some p) (n + 1) bs
    | .fault => ([], some (n + 1))
  | some p, n, b :: bs =>
    if p.low ≤ b ∧ b ≤ p.high then
      let value := p.value * 64 + (b.toNat - 0x80)
      if p.missing ≤ 1 then
        let (cs, fault) := arrivals none (n + 1) bs
        ((Char.ofNat value, n + 1) :: cs, fault)
      else arrivals (some { missing := p.missing - 1, value }) (n + 1) bs
    else ([], some (n + p.shownBy b))

end DartBlock.Text.Utf8
