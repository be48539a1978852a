import DartBlock.Directives
import DartBlock.Proofs.Text.Blank
import Mathlib.Data.List.Basic
import Mathlib.Data.Nat.Digits.Defs
import Mathlib.Tactic.IntervalCases

/-!
# Long values

A whole number is long if it has more digits than are written. Its digits are a part of the text
that any value around it would have, so the text of a long value would be longer than the limit
(`lt_length_display`). Nor would it be a word: it begins with a digit, a sign or a bracket, also
when it is stripped and in lower case (`exists_head?_folded`).
-/

namespace DartBlock.Datum

theorem isLong_int_iff {n : Int} : (int n).isLong = true ↔ 10 ^ digitLimit ≤ n.natAbs := by
  have written : (Nat.toDigits 10 n.natAbs).length ≤ digitLimit ↔ n.natAbs < 10 ^ digitLimit :=
    Nat.length_toDigits_le_iff (by decide) (by decide)
  rw [isLong, decide_eq_true_iff, gt_iff_lt, ← not_le, written, not_lt]

theorem isLong_ten_pow : (int (10 ^ digitLimit : Nat)).isLong = true := isLong_int_iff.mpr le_rfl

/-! ## Lengths of texts -/

theorem length_le_intercalate {sep s : List Char} {parts : List (List Char)} (h : s ∈ parts) :
    s.length ≤ (sep.intercalate parts).length := by
  induction parts with
  | nil => cases h
  | cons part parts ih =>
    by_cases last : parts = []
    · obtain rfl : s = part := by simpa [last] using h
      simp [last]
    · rw [List.intercalate_cons_of_ne_nil last, List.length_append, List.length_append]
      rcases List.mem_cons.mp h with rfl | h
      · omega
      · have := ih h
        omega

/-- The texts of the parts of a value stand in the text around them. -/
theorem lt_length_around {ss : List String} {n : Nat} (h : ∃ s ∈ ss, n < s.toList.length)
    (opening sep closing : String) :
    n < (opening ++ sep.intercalate ss ++ closing).toList.length := by
  obtain ⟨s, mem, long⟩ := h
  have part : s.toList.length ≤ (sep.toList.intercalate (ss.map String.toList)).length :=
    length_le_intercalate (List.mem_map_of_mem mem)
  simp only [String.toList_append, String.toList_intercalate, List.length_append]
  omega

theorem length_toDigits_le (n : Int) :
    (Nat.toDigits 10 n.natAbs).length ≤ (toString n).toList.length := by
  rw [Int.toString_eq_repr]
  cases n with
  | ofNat n => simp [Int.repr]
  | negSucc n => simp [Int.repr]

mutual

theorem lt_length_quoted : ∀ x : Datum, x.isLong = true → digitLimit < x.quoted.toList.length
  | .int n, h => by
    rw [isLong, decide_eq_true_iff] at h
    exact h.trans_le (length_toDigits_le n)
  | .list items, h => by
    rw [isLong] at h
    exact lt_length_around (exists_quotedItems items h) _ _ _
  | .set items, h => by
    rw [isLong] at h
    cases items with
    | nil => cases h
    | cons x xs => exact lt_length_around (exists_quotedItems (x :: xs) h) _ _ _
  | .mapping entries, h => by
    rw [isLong] at h
    exact lt_length_around (exists_quotedEntries entries h) _ _ _

theorem exists_quotedItems :
    ∀ xs : List Datum, anyLong xs = true → ∃ s ∈ quotedItems xs, digitLimit < s.toList.length
  | x :: xs, h => by
    rw [anyLong, Bool.or_eq_true] at h
    rcases h with h | h
    · exact ⟨_, .head _, lt_length_quoted x h⟩
    · obtain ⟨s, mem, long⟩ := exists_quotedItems xs h
      exact ⟨s, .tail _ mem, long⟩

theorem lt_length_quotedEntry :
    ∀ e : Datum × Datum, isLongEntry e = true → digitLimit < (quotedEntry e).toList.length
  | (k, v), h => by
    rw [isLongEntry, Bool.or_eq_true] at h
    rw [quotedEntry, String.toList_append, String.toList_append, List.length_append,
      List.length_append]
    rcases h with h | h
    · have := lt_length_quoted k h
      omega
    · have := lt_length_quoted v h
      omega

theorem exists_quotedEntries :
    ∀ es : Entries, anyLongEntry es = true → ∃ s ∈ quotedEntries es, digitLimit < s.toList.length
  | e :: es, h => by
    rw [anyLongEntry, Bool.or_eq_true] at h
    rcases h with h | h
    · exact ⟨_, .head _, lt_length_quotedEntry e h⟩
    · obtain ⟨s, mem, long⟩ := exists_quotedEntries es h
      exact ⟨s, .tail _ mem, long⟩

end

/-- The text of a long value would be too long for a number to be written. -/
theorem lt_length_display {x : Datum} (h : x.isLong = true) :
    digitLimit < x.display.toList.length := by
  cases x with
  | text | mode => cases h
  | null | bool | int | float | bytes | moment | list | set | mapping | recurring =>
    exact lt_length_quoted _ h

/-! ## Beginnings of texts -/

/-- The characters that the text of a long value can begin with. -/
def IsOpening (c : Char) : Prop := c.isDigit = true ∨ c ∈ ['-', '[', '\x7b']

theorem IsOpening.fixed {c : Char} (h : IsOpening c) :
    Text.isBlank c = false ∧ c.isAlpha = false ∧
      c ≠ '\u0130' ∧ c ≠ '\u03A3' ∧ Text.lowerChar c = c := by
  rcases h with digit | mark
  · obtain ⟨low, high⟩ : 48 ≤ c.toNat ∧ c.toNat ≤ 57 := by
      simpa [Char.isDigit, UInt32.le_iff_toNat_le] using digit
    rw [← Char.ofNat_toNat c]
    interval_cases c.toNat <;> decide
  · simp only [List.mem_cons, List.not_mem_nil, or_false] at mark
    rcases mark with rfl | rfl | rfl <;> decide

theorem exists_display_eq_cons {x : Datum} (h : x.isLong = true) :
    ∃ c cs, x.display.toList = c :: cs ∧ IsOpening c := by
  cases x with
  | int n =>
    cases n with
    | ofNat n =>
      have written : (int (Int.ofNat n)).display.toList = Nat.toDigits 10 n := by
        simp [display, quoted, Int.toString_eq_repr, Int.repr]
      rcases digits : Nat.toDigits 10 n with _ | ⟨c, cs⟩
      · cases Nat.toDigits_ne_nil digits
      · have mem : c ∈ Nat.toDigits 10 n := digits ▸ List.mem_cons_self
        have digit := Nat.isDigit_of_mem_toDigits (by decide) (by decide) mem
        exact ⟨c, cs, written.trans digits, .inl digit⟩
    | negSucc n =>
      refine ⟨'-', (n + 1).repr.toList, ?_, .inr (.head _)⟩
      simp [display, quoted, Int.toString_eq_repr, Int.repr]
  | list items =>
    exact ⟨'[', _, by simp only [display, quoted, String.toList_append]; rfl, .inr (by decide)⟩
  | set items =>
    cases items with
    | nil => cases h
    | cons x xs =>
      exact ⟨'\x7b', _, by simp only [display, quoted, String.toList_append]; rfl, .inr (by decide)⟩
  | mapping entries =>
    exact ⟨'\x7b', _, by simp only [display, quoted, String.toList_append]; rfl, .inr (by decide)⟩
  | null | bool | float | text | mode | bytes | moment | recurring => cases h

/-- Stripping and lower-casing keep a first character that is no blank and has no other case. -/
theorem head?_lower_strip {c : Char} (h : IsOpening c) (cs : List Char) :
    (Text.lower (Text.strip (c :: cs))).head? = some c := by
  obtain ⟨blank, -, alone⟩ := h.fixed
  have front : (c :: cs).dropWhile Text.isBlank = c :: cs :=
    List.dropWhile_cons_of_neg (by simp [blank])
  rw [Text.strip_eq, front]
  rcases kept : (c :: cs).rdropWhile Text.isBlank with _ | ⟨d, ds⟩
  · have blanks := List.rdropWhile_eq_nil_iff.mp kept c (.head _)
    rw [blank] at blanks
    cases blanks
  · obtain ⟨rest, split⟩ := List.rdropWhile_prefix Text.isBlank (c :: cs)
    rw [kept] at split
    obtain ⟨rfl, -⟩ := List.cons.inj split
    simp [Text.lower, Text.lowerFrom, Text.lowerAt, alone]

/-- The text of a long value would not begin with a letter. -/
theorem exists_head?_folded {x : Datum} (h : x.isLong = true) :
    ∃ c, x.folded.toList.head? = some c ∧ c.isAlpha = false := by
  obtain ⟨c, cs, written, opening⟩ := exists_display_eq_cons h
  refine ⟨c, ?_, opening.fixed.2.1⟩
  rw [folded, String.lowercased, String.stripped, written, String.toList_ofList,
    String.toList_ofList, head?_lower_strip opening]

end DartBlock.Datum
