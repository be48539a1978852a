import DartBlock.Number.Reading
import DartBlock.Text.Quoted
import Mathlib.Algebra.Ring.Nat
import Mathlib.Data.List.Induction
import Mathlib.Tactic.IntervalCases
import Mathlib.Tactic.SplitIfs

/-!
# Numerals

Digits of a base with the number they stand for, put together from the first digit on: a further
digit counts once, and the digits in front of it as often as the base says. Main statement:
`natOfDigits?_eq_some_iff`. Hexadecimal digits that are written are such digits again
(`isNumeral_hexDigits`).
-/

namespace DartBlock

/-- Digits of a base, at least one, with the number they stand for. -/
inductive IsNumeral (base : Nat) : List Char → Nat → Prop
  | /-- A single digit. -/
    digit {c : Char} {d : Nat} : digitValue? c = some d → d < base → IsNumeral base [c] d
  | /-- A digit behind others. -/
    concat {ds : List Char} {c : Char} {n d : Nat} : IsNumeral base ds n →
      digitValue? c = some d → d < base → IsNumeral base (ds ++ [c]) (n * base + d)

variable {base n : Nat} {ds : List Char}

private def addDigit? (base : Nat) (n : Option Nat) (c : Char) : Option Nat := do
  let n ← n
  let d ← digitValue? c
  if d < base then some (n * base + d) else none

private theorem natOfDigits?_eq :
    natOfDigits? base ds = if ds = [] then none else ds.foldl (addDigit? base) (some 0) := by
  simp only [natOfDigits?, List.isEmpty_iff]
  rfl

private theorem foldl_addDigit?_concat {c : Char} :
    (ds ++ [c]).foldl (addDigit? base) (some 0) = some n ↔
      ∃ m d, ds.foldl (addDigit? base) (some 0) = some m ∧ digitValue? c = some d ∧ d < base ∧
        m * base + d = n := by
  rw [List.foldl_append]
  simp [addDigit?, Option.bind_eq_some_iff]

theorem natOfDigits?_eq_some_iff : natOfDigits? base ds = some n ↔ IsNumeral base ds n := by
  rw [natOfDigits?_eq]
  constructor
  · intro h
    -- A digit is added at the end, so the induction takes the last one off.
    induction ds using List.reverseRecOn generalizing n with
    | nil => cases h
    | append_singleton ds c ih =>
      rw [if_neg (by simp), foldl_addDigit?_concat] at h
      obtain ⟨m, d, front, hd, small, rfl⟩ := h
      rcases eq_or_ne ds [] with rfl | ne
      · cases front
        simpa using IsNumeral.digit hd small
      · exact .concat (ih (by rwa [if_neg ne])) hd small
  · intro h
    induction h with
    | digit hd small => simp [addDigit?, hd, small]
    | concat _ hd small ih =>
      split_ifs at ih
      rw [if_neg (by simp), foldl_addDigit?_concat]
      exact ⟨_, _, ih, hd, small, rfl⟩

namespace IsNumeral

theorem exists_digitValue? (h : IsNumeral base ds n) :
    ∀ c ∈ ds, ∃ d < base, digitValue? c = some d := by
  induction h with
  | digit hd small => exact fun c hc ↦ ⟨_, small, List.mem_singleton.mp hc ▸ hd⟩
  | concat _ hd small ih =>
    intro c hc
    rcases List.mem_append.mp hc with hc | hc
    · exact ih c hc
    · exact ⟨_, small, List.mem_singleton.mp hc ▸ hd⟩

/-- A number is below the power of the base that has one digit more. -/
theorem lt_pow (h : IsNumeral base ds n) : n < base ^ ds.length := by
  induction h with
  | digit _ small => simpa using small
  | @concat ds c n d _ _ small ih =>
    rw [List.length_append, List.length_singleton, Nat.pow_succ]
    calc n * base + d < n * base + base := by omega
      _ = (n + 1) * base := by rw [Nat.succ_mul]
      _ ≤ base ^ ds.length * base := Nat.mul_le_mul_right base ih

end IsNumeral

theorem isDigit_of_digitValue? {c : Char} {d : Nat} (h : digitValue? c = some d) (small : d < 10) :
    c.isDigit = true := by
  have bounds (a b : Char) : (a ≤ c ∧ c ≤ b) ↔ a.toNat ≤ c.toNat ∧ c.toNat ≤ b.toNat := by
    simp only [Char.le_def, UInt32.le_iff_toNat_le, Char.toNat]
  have western : c.isDigit = true ↔ '0' ≤ c ∧ c ≤ '9' := by
    simp [Char.isDigit, Char.le_def]
  unfold digitValue? at h
  split_ifs at h with zero lower upper
  · exact western.mpr zero
  · rw [bounds] at lower
    have := Option.some.inj h
    simp at lower
    omega
  · rw [bounds] at upper
    have := Option.some.inj h
    simp at upper
    omega

theorem IsNumeral.isDigit (h : IsNumeral 10 ds n) : ∀ c ∈ ds, c.isDigit = true := by
  intro c hc
  obtain ⟨d, small, hd⟩ := h.exists_digitValue? c hc
  exact isDigit_of_digitValue? hd small

theorem digitValue?_hexDigit {d : Nat} (h : d < 16) : digitValue? (Text.hexDigit d) = some d := by
  interval_cases d <;> rfl

/-- The last hexadecimal digits of a number stand for what they leave of it. -/
theorem isNumeral_hexDigits (width n : Nat) :
    IsNumeral 16 (Text.hexDigits (width + 1) n) (n % 16 ^ (width + 1)) := by
  induction width generalizing n with
  | zero =>
    have small : n % 16 < 16 := Nat.mod_lt n (by decide)
    exact .digit (digitValue?_hexDigit small) small
  | succ width ih =>
    have small : n % 16 < 16 := Nat.mod_lt n (by decide)
    have value : n % 16 ^ (width + 2) = n / 16 % 16 ^ (width + 1) * 16 + n % 16 := by
      rw [Nat.pow_succ', Nat.mod_mul, Nat.mul_comm, Nat.add_comm]
    rw [value]
    exact .concat (ih (n / 16)) (digitValue?_hexDigit small) small

end DartBlock
