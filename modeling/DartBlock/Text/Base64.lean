/-!
# Base 64

Reading bytes written with 64 characters, four for three bytes. Characters that are none of them
are skipped. Equals signs that fill up a group of four end the text.
-/

namespace DartBlock.Text.Base64

def sextet? (c : Char) : Option Nat :=
  if 'A' ≤ c ∧ c ≤ 'Z' then some (c.toNat - 0x41)
  else if 'a' ≤ c ∧ c ≤ 'z' then some (c.toNat - 0x61 + 26)
  else if '0' ≤ c ∧ c ≤ '9' then some (c.toNat - 0x30 + 52)
  else if c = '+' then some 62
  else if c = '/' then some 63
  else none

/-- The whole bytes of up to four numbers of six bits. -/
def groupBytes : List Nat → List UInt8
  | [a, b] => [UInt8.ofNat (a * 4 + b / 16)]
  | [a, b, c] => groupBytes [a, b] ++ [UInt8.ofNat (b % 16 * 16 + c / 4)]
  | [a, b, c, d] => groupBytes [a, b, c] ++ [UInt8.ofNat (c % 4 * 64 + d)]
  | _ => []

/-- The bytes of a text after the first numbers of a group and some equals signs; `none` if the
last group is not full. -/
def read (group : List Nat) (signs : Nat) : List Char → Option (List UInt8)
  | [] => if group.isEmpty then some [] else none
  | c :: cs =>
    if c = '=' then
      if group.length < 2 then read group signs cs
      else if group.length + signs + 1 ≥ 4 then some (groupBytes group)
      else read group (signs + 1) cs
    else
      match sextet? c with
      | none => read group signs cs
      | some n =>
        if group.length = 3 then (read [] 0 cs).map (groupBytes (group ++ [n]) ++ ·)
        else read (group ++ [n]) 0 cs

def decode? (cs : List Char) : Option (List UInt8) := read [] 0 cs

end DartBlock.Text.Base64
