import DartBlock.Text.Utf8
import Mathlib.Tactic.IntervalCases
import Mathlib.Tactic.SplitIfs

/-!
# Reading encoded text

What was encoded is read again: the bytes of a character are read as that character, whatever
follows them (`scan_utf8EncodeChar`), so the bytes of a text are read as that text. The narrowed
bounds of a second byte never stand in the way, since no character is encoded longer than need be,
none is a surrogate and none lies above U+10FFFF. Such bytes also arrive one character after the
other, with no fault behind them (`arrivals_of_scan`).
-/

namespace DartBlock.Text.Utf8

/-! ## First bytes

The first byte of a longer sequence carries the highest bits of the character. -/

theorem lead_of_two {n : Nat} (low : 2 ≤ n) (high : n < 0x20) :
    lead (UInt8.ofNat (n + 0xC0)) = .opens { missing := 1, value := n } := by
  interval_cases n <;> rfl

theorem lead_of_three {n : Nat} (high : n < 0x10) :
    lead (UInt8.ofNat (n + 0xE0)) = .opens {
      missing := 2
      low := if n = 0 then 0xA0 else 0x80
      high := if n = 0xD then 0x9F else 0xBF
      value := n } := by
  interval_cases n <;> rfl

theorem lead_of_four {n : Nat} (high : n ≤ 4) :
    lead (UInt8.ofNat (n + 0xF0)) = .opens {
      missing := 3
      low := if n = 0 then 0x90 else 0x80
      high := if n = 4 then 0x8F else 0xBF
      value := n } := by
  interval_cases n <;> rfl

/-- A byte that opens a sequence leaves all else to the bytes after it. -/
theorem scan_of_opens {b : UInt8} {p : Pending} (h : lead b = .opens p) (bs : List UInt8) :
    scan none (b :: bs) = scan (some p) bs := by
  rw [scan, h]

/-! ## Further bytes -/

/-- A byte within the bounds adds its six bits to the sequence. -/
theorem scan_of_fits {p : Pending} {n : Nat} (low : p.low.toNat ≤ n + 0x80)
    (high : n + 0x80 ≤ p.high.toNat) (bs : List UInt8) :
    scan (some p) (UInt8.ofNat (n + 0x80) :: bs) =
      if p.missing ≤ 1 then some (Char.ofNat (p.value * 64 + n)) :: scan none bs
      else scan (some { missing := p.missing - 1, value := p.value * 64 + n }) bs := by
  have small : n + 0x80 < 256 := high.trans_lt p.high.toNat_lt
  have byte : (UInt8.ofNat (n + 0x80)).toNat = n + 0x80 := by
    rw [UInt8.toNat_ofNat', Nat.mod_eq_of_lt small]
  have fits : p.low ≤ UInt8.ofNat (n + 0x80) ∧ UInt8.ofNat (n + 0x80) ≤ p.high := by
    simp only [UInt8.le_iff_toNat_le, byte]
    exact ⟨low, high⟩
  rw [scan, if_pos fits, byte, Nat.add_sub_cancel]

theorem scan_last {value n : Nat} (h : n < 64) (bs : List UInt8) :
    scan (some { missing := 1, value }) (UInt8.ofNat (n + 0x80) :: bs) =
      some (Char.ofNat (value * 64 + n)) :: scan none bs :=
  scan_of_fits (Nat.le_add_left _ _) (Nat.add_le_add_right (Nat.le_of_lt_succ h) _) bs

theorem scan_more {k value n : Nat} {low high : UInt8} (hlow : low.toNat ≤ n + 0x80)
    (hhigh : n + 0x80 ≤ high.toNat) (bs : List UInt8) :
    scan (some { missing := k + 2, low, high, value }) (UInt8.ofNat (n + 0x80) :: bs) =
      scan (some { missing := k + 1, value := value * 64 + n }) bs :=
  (scan_of_fits hlow hhigh bs).trans (if_neg (by simp))

/-! ## Characters and texts -/

/-- The bytes of a character are read as that character, whatever follows them. -/
theorem scan_utf8EncodeChar (c : Char) (bs : List UInt8) :
    scan none (String.utf8EncodeChar c ++ bs) = some c :: scan none bs := by
  have valid : c.val.toNat < 0xD800 ∨ 0xDFFF < c.val.toNat ∧ c.val.toNat < 0x110000 := c.valid
  have whole (n : Nat) (h : n = c.val.toNat) : Char.ofNat n = c := by
    rw [h]
    exact Char.ofNat_toNat c
  unfold String.utf8EncodeChar
  generalize c.val.toNat = v at valid whole
  have tail (n : Nat) : n % 64 < 64 := Nat.mod_lt _ (by decide)
  dsimp only
  split_ifs with one two three
  · have byte : (UInt8.ofNat v).toNat = v := by
      rw [UInt8.toNat_ofNat', Nat.mod_eq_of_lt (by omega)]
    have ascii : UInt8.ofNat v < 0x80 := by
      rw [UInt8.lt_iff_toNat_lt, byte]
      exact Nat.lt_succ_of_le one
    rw [List.singleton_append, scan, lead, if_pos ascii, byte, whole v rfl]
  · have opens := lead_of_two (n := v / 64 % 0x20) (by omega) (by omega)
    rw [List.cons_append, List.singleton_append, scan_of_opens opens, scan_last (tail _),
      whole _ (by omega)]
  · have opens := lead_of_three (n := v / 4096 % 0x10) (Nat.mod_lt _ (by decide))
    have low : (if v / 4096 % 0x10 = 0 then 0xA0 else 0x80 : UInt8).toNat ≤
        v / 64 % 64 + 0x80 := by
      split_ifs
      · change 0xA0 ≤ _
        omega
      · exact Nat.le_add_left _ _
    have high : v / 64 % 64 + 0x80 ≤
        (if v / 4096 % 0x10 = 0xD then 0x9F else 0xBF : UInt8).toNat := by
      split_ifs
      · change _ ≤ 0x9F
        omega
      · change _ ≤ 0xBF
        omega
    rw [List.cons_append, List.cons_append, List.singleton_append, scan_of_opens opens,
      scan_more low high, scan_last (tail _), whole _ (by omega)]
  · have opens := lead_of_four (n := v / 262144 % 8) (by omega)
    have low : (if v / 262144 % 8 = 0 then 0x90 else 0x80 : UInt8).toNat ≤
        v / 4096 % 64 + 0x80 := by
      split_ifs
      · change 0x90 ≤ _
        omega
      · exact Nat.le_add_left _ _
    have high : v / 4096 % 64 + 0x80 ≤
        (if v / 262144 % 8 = 4 then 0x8F else 0xBF : UInt8).toNat := by
      split_ifs
      · change _ ≤ 0x8F
        omega
      · change _ ≤ 0xBF
        omega
    rw [List.cons_append, List.cons_append, List.cons_append, List.singleton_append,
      scan_of_opens opens, scan_more low high, scan_more, scan_last (tail _), whole _ (by omega)]
    · exact Nat.le_add_left _ _
    · exact Nat.add_le_add_right (Nat.le_of_lt_succ (tail _)) _

theorem scan_toUTF8 (s : String) : scan none s.toUTF8.data.toList = s.toList.map some := by
  have bytes : s.toUTF8.data.toList = s.toList.flatMap String.utf8EncodeChar := by
    rw [String.toUTF8, ← String.utf8Encode_toList, List.utf8Encode, List.toList_data_toByteArray]
  rw [bytes]
  generalize s.toList = cs
  induction cs with
  | nil => rfl
  | cons c cs ih => rw [List.flatMap_cons, scan_utf8EncodeChar, ih, List.map_cons]

/-- Decoding undoes encoding, and finds nothing to replace. -/
theorem decodeLossy_toUTF8 (s : String) : decodeLossy s.toUTF8 = s := by
  rw [decodeLossy, scan_toUTF8, List.map_map]
  exact (congrArg _ (List.map_id _)).trans String.ofList_toList

theorem decode?_toUTF8 (s : String) : decode? s.toUTF8 = some s := by
  have all (cs : List Char) : (cs.map some).mapM id = some cs := by
    induction cs with
    | nil => rfl
    | cons c cs ih =>
      rw [List.map_cons, List.mapM_cons, ih]
      rfl
  rw [decode?, scan_toUTF8, all, Option.map_some, String.ofList_toList]

/-- Bytes without a fault arrive as the characters they are read as. -/
theorem arrivals_of_scan {p : Option Pending} {bs : List UInt8} {cs : List Char}
    (h : scan p bs = cs.map some) (n : Nat) :
    (arrivals p n bs).1.map (·.1) = cs ∧ (arrivals p n bs).2 = none := by
  -- All ways to a replacement are closed, so only bytes that fit are left.
  have sound : none ∉ scan p bs := by simp [h]
  fun_induction scan p bs generalizing cs n with
  | case1 =>
    obtain rfl := List.map_eq_nil_iff.mp h.symm
    exact ⟨rfl, rfl⟩
  | case2 => exact absurd List.mem_cons_self sound
  | case3 b bs c hlead ih =>
    obtain ⟨d, cs, rfl, hd, hcs⟩ := List.map_eq_cons_iff.mp h.symm
    obtain ⟨chars, fault⟩ := ih hcs.symm (n + 1) fun mem ↦ sound (List.mem_cons_of_mem _ mem)
    rw [arrivals, hlead]
    exact ⟨congrArg₂ List.cons (Option.some.inj hd).symm chars, fault⟩
  | case4 b bs q hlead ih =>
    rw [arrivals, hlead]
    exact ih h (n + 1) sound
  | case5 => exact absurd List.mem_cons_self sound
  | case6 q b bs fits value last =>
    rename_i ih
    obtain ⟨d, cs, rfl, hd, hcs⟩ := List.map_eq_cons_iff.mp h.symm
    obtain ⟨chars, fault⟩ := ih hcs.symm (n + 1) fun mem ↦ sound (List.mem_cons_of_mem _ mem)
    rw [arrivals, if_pos fits]
    dsimp only
    rw [if_pos last, List.map_cons, chars]
    refine ⟨?_, fault⟩
    rw [Option.some.inj hd]
  | case7 q b bs fits value more =>
    rename_i ih
    rw [arrivals, if_pos fits]
    dsimp only
    rw [if_neg more]
    exact ih h (n + 1) sound
  | case8 | case9 | case10 => exact absurd List.mem_cons_self sound

end DartBlock.Text.Utf8
