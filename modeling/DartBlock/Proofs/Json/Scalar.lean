import DartBlock.Proofs.Json.Grammar
import DartBlock.Proofs.Text.Run
import Mathlib.Data.List.TakeWhile
import Mathlib.Tactic.SplitIfs

/-!
# Reading strings and numbers

The readers of strings and of numbers agree with the grammar.

* A string is read a character at a time. What one step reads is a character as the grammar writes
  it (`readString_none_cases`), and each way to write one is read in a step (`IsSymbol.readString`),
  so whole strings are what is read up to the mark at their end.
* A number is cut after its digits, and each part is read on its own (`number?_eq_some_iff`).
-/

namespace DartBlock.Json

variable {cs s rest : List Char} {c : Char} {n : Nat}

/-! ## Characters -/

/-- No character has the number of a surrogate. -/
theorem toNat_lt_or_le (c : Char) : c.toNat < 0xD800 ∨ 0xE000 ≤ c.toNat := by
  rcases c.valid with low | high
  · exact .inl low
  · exact .inr high.1

theorem toNat_ofNat (h : n.isValidChar) : (Char.ofNat n).toNat = n := by
  rw [Char.ofNat, dif_pos h]
  rfl

theorem isUnit_iff {ds : List Char} :
    IsUnit ds n ↔ ∃ p q r s, ds = [p, q, r, s] ∧ unit? p q r s = some n := by
  simp only [unit?, natOfDigits?_eq_some_iff]
  constructor
  · intro ⟨numeral, len⟩
    match ds, len with
    | [p, q, r, s], _ => exact ⟨p, q, r, s, rfl, numeral⟩
  · rintro ⟨p, q, r, s, rfl, numeral⟩
    exact ⟨numeral, rfl⟩

theorem IsSymbol.ne_nil {symbol : List Char} (h : IsSymbol symbol c) : symbol ≠ [] := by
  cases h <;> simp

theorem IsUnit.lt {ds : List Char} (h : IsUnit ds n) : n < 0x10000 := by
  have bound := h.1.lt_pow
  rwa [h.2] at bound

/-! ## One step of the reader of strings -/

theorem readString_plain (visible : 0x20 ≤ c.toNat) (mark : c ≠ '"') (slash : c ≠ '\\')
    (cs : List Char) :
    readString none (c :: cs) = (readString none cs).map fun (s, rest) ↦ (c :: s, rest) := by
  rw [readString]
  · rw [if_neg (by simp [slash, visible])]
    cases readString none cs <;> rfl
  · exact mark
  · exact fun _ _ _ _ _ eq _ ↦ slash eq
  · exact fun _ _ eq _ ↦ slash eq

theorem readString_short {e : Char} (h : simpleEscape? e = some c) (cs : List Char) :
    readString none ('\\' :: e :: cs) =
      (readString none cs).map fun (s, rest) ↦ (c :: s, rest) := by
  rw [readString]
  · rw [h]
    cases readString none cs <;> rfl
  · rintro _ _ _ _ _ rfl _
    cases h

theorem readString_unit {p q r s : Char} (h : unit? p q r s = some c.toNat) (cs : List Char) :
    readString none ('\\' :: 'u' :: p :: q :: r :: s :: cs) =
      (readString none cs).map fun (s, rest) ↦ (c :: s, rest) := by
  have valid := toNat_lt_or_le c
  rw [readString, h]
  simp only [Option.bind_eq_bind, Option.bind_some]
  rw [if_neg (by omega), if_neg (by omega), Char.ofNat_toNat]
  cases readString none cs <;> rfl

/-- A high surrogate is kept until the low one is read. -/
theorem readString_high {p q r s : Char} (h : unit? p q r s = some n) (low : 0xD800 ≤ n)
    (high : n < 0xDC00) (cs : List Char) :
    readString none ('\\' :: 'u' :: p :: q :: r :: s :: cs) = readString (some n) cs := by
  rw [readString, h]
  simp only [Option.bind_eq_bind, Option.bind_some]
  rw [if_neg (by omega), if_pos ⟨low, high⟩]

theorem readString_low {p q r s : Char} {high : Nat} (h : unit? p q r s = some n)
    (lower : 0xDC00 ≤ n) (upper : n < 0xE000) (cs : List Char) :
    readString (some high) ('\\' :: 'u' :: p :: q :: r :: s :: cs) =
      (readString none cs).map fun (s, rest) ↦
        (Char.ofNat (0x10000 + (high - 0xD800) * 0x400 + (n - 0xDC00)) :: s, rest) := by
  rw [readString, h]
  simp only [Option.bind_eq_bind, Option.bind_some]
  rw [if_pos ⟨lower, upper⟩]
  cases readString none cs <;> rfl

theorem readString_some_cases {high : Nat} (h : readString (some high) cs = some (s, rest)) :
    ∃ es n behind t, IsUnit es n ∧ 0xDC00 ≤ n ∧ n < 0xE000 ∧ cs = '\\' :: 'u' :: es ++ behind ∧
      readString none behind = some (t, rest) ∧
      s = Char.ofNat (0x10000 + (high - 0xD800) * 0x400 + (n - 0xDC00)) :: t := by
  generalize hpending : some high = pending at h
  cases pending, cs using readString.fun_cases with
  | case2 pending p q r s' behind =>
    subst hpending
    simp only [readString, Option.bind_eq_bind, Option.bind_eq_some_iff] at h
    obtain ⟨n, hn, h⟩ := h
    split_ifs at h with low
    obtain ⟨⟨t, _⟩, read, eq⟩ := Option.bind_eq_some_iff.mp h
    cases eq
    exact ⟨_, n, behind, t, isUnit_iff.mpr ⟨p, q, r, s', rfl, hn⟩, low.1, low.2, rfl, read, rfl⟩
  | case6 =>
    rw [readString] at h
    · cases h
    all_goals assumption
  | _ => cases hpending

/-- What is read at the front of a string: the mark at its end, or a character. -/
theorem readString_none_cases (h : readString none cs = some (s, rest)) :
    (cs = '"' :: rest ∧ s = []) ∨
      ∃ symbol c behind t, IsSymbol symbol c ∧ cs = symbol ++ behind ∧
        readString none behind = some (t, rest) ∧ s = c :: t := by
  generalize hpending : none = pending at h
  cases pending, cs using readString.fun_cases with
  | case1 cs =>
    rw [readString] at h
    cases h
    exact .inl ⟨rfl, rfl⟩
  | case2 pending p q r s' behind =>
    subst hpending
    simp only [readString, Option.bind_eq_bind, Option.bind_eq_some_iff] at h
    obtain ⟨n, hn, h⟩ := h
    have unit := isUnit_iff.mpr ⟨p, q, r, s', rfl, hn⟩
    have bound := unit.lt
    split_ifs at h with low high
    · -- A high surrogate is no character yet: the step takes the low one along.
      obtain ⟨es, m, behind, t, hm, lower, upper, rfl, read, rfl⟩ := readString_some_cases h
      have valid : (0x10000 + (n - 0xD800) * 0x400 + (m - 0xDC00)).isValidChar := by
        unfold Nat.isValidChar
        omega
      exact .inr ⟨_, _, behind, t, .pair unit high.1 high.2 hm lower upper (toNat_ofNat valid),
        by simp, read, rfl⟩
    · obtain ⟨⟨t, _⟩, read, eq⟩ := Option.bind_eq_some_iff.mp h
      cases eq
      have valid : n.isValidChar := by
        unfold Nat.isValidChar
        omega
      rw [← toNat_ofNat valid] at unit
      exact .inr ⟨_, _, behind, t, .unit unit, by simp, read, rfl⟩
  | case3 e behind other =>
    rw [readString] at h
    · simp only [Option.bind_eq_bind, Option.bind_eq_some_iff] at h
      obtain ⟨c, hc, ⟨t, _⟩, read, eq⟩ := h
      cases eq
      exact .inr ⟨_, c, behind, t, .short hc, rfl, read, rfl⟩
    · assumption
  | case4 c behind mark _ _ hidden =>
    rw [readString] at h
    · rw [if_pos hidden] at h
      cases h
    all_goals assumption
  | case5 c behind mark _ _ visible =>
    rw [readString] at h
    · rw [if_neg visible] at h
      simp only [Option.bind_eq_bind, Option.bind_eq_some_iff] at h
      obtain ⟨⟨t, _⟩, read, eq⟩ := h
      cases eq
      rw [not_or, Nat.not_lt] at visible
      exact .inr ⟨_, c, behind, t, .plain visible.1 mark visible.2, rfl, read, rfl⟩
    all_goals assumption
  | case6 =>
    rw [readString] at h
    · cases h
    all_goals assumption

/-! ## Strings -/

theorem IsSymbol.readString {symbol : List Char} (h : IsSymbol symbol c) (cs : List Char) :
    readString none (symbol ++ cs) =
      (readString none cs).map fun (s, rest) ↦ (c :: s, rest) := by
  cases h with
  | plain visible mark slash => exact readString_plain visible mark slash cs
  | short escape => exact readString_short escape cs
  | unit unit =>
    obtain ⟨p, q, r, s, rfl, hn⟩ := isUnit_iff.mp unit
    exact readString_unit hn cs
  | @pair _ _ high low _ unit lower upper unit' lower' upper' value =>
    obtain ⟨p, q, r, s, rfl, hn⟩ := isUnit_iff.mp unit
    obtain ⟨p', q', r', s', rfl, hn'⟩ := isUnit_iff.mp unit'
    rw [← Char.ofNat_toNat c, value, List.append_assoc]
    exact (readString_high hn lower upper _).trans (readString_low hn' lower' upper' cs)

theorem IsString.readString (h : IsString cs s) (rest : List Char) :
    readString none (cs ++ '"' :: rest) = some (s, rest) := by
  induction h with
  | nil => rfl
  | cons symbol _ ih => rw [List.append_assoc, symbol.readString, ih, Option.map_some]

/-- What is read up to a mark is a string. -/
theorem readString_sound {cs s rest : List Char} (h : readString none cs = some (s, rest)) :
    ∃ text, cs = text ++ '"' :: rest ∧ IsString text s := by
  obtain ⟨rfl, rfl⟩ | ⟨symbol, c, behind, t, hc, rfl, read, rfl⟩ := readString_none_cases h
  · exact ⟨[], rfl, .nil⟩
  · have shorter : behind.length < (symbol ++ behind).length := by
      simpa [List.length_pos_iff] using hc.ne_nil
    obtain ⟨text, rfl, string⟩ := readString_sound read
    exact ⟨symbol ++ text, by simp, .cons hc string⟩
termination_by cs.length

/-! ## Numbers -/

theorem exists_cutSign (cs : List Char) :
    ∃ sign ∈ [[], ['+'], ['-']], ∃ rest, cs = sign ++ rest ∧
      cutSign cs = (decide (sign = ['-']), rest) := by
  unfold cutSign
  split
  · exact ⟨['-'], by simp, _, rfl, rfl⟩
  · exact ⟨['+'], by simp, _, rfl, rfl⟩
  · exact ⟨[], by simp, _, rfl, rfl⟩

theorem cutSign_append {sign ds : List Char} (hsign : sign ∈ [[], ['+'], ['-']])
    (h : ∀ d ∈ ds, d.isDigit = true) : cutSign (sign ++ ds) = (decide (sign = ['-']), ds) := by
  simp only [List.mem_cons, List.not_mem_nil, or_false] at hsign
  obtain rfl | rfl | rfl := hsign
  · cases ds with
    | nil => rfl
    | cons d ds =>
      have digit := h d List.mem_cons_self
      rw [List.nil_append, cutSign]
      · rfl
      · rintro _ ⟨⟩
        cases digit
      · rintro _ ⟨⟩
        cases digit
  · rfl
  · rfl

theorem exponentOf?_eq_some_iff {es : List Char} {e : Int} :
    exponentOf? es = some e ↔ IsExponent es e := by
  constructor
  · intro h
    cases es with
    | nil =>
      cases h
      exact .absent
    | cons mark es =>
      obtain ⟨sign, hsign, ds, rfl, cuts⟩ := exists_cutSign es
      simp only [exponentOf?, cuts] at h
      split at h
      case isTrue hmark =>
        simp only [Option.map_eq_some_iff, Option.bind_eq_bind, Option.bind_eq_some_iff] at h
        obtain ⟨_, ⟨n, hn, eq⟩, rfl⟩ := h
        cases eq
        simpa using IsExponent.given hmark hsign (natOfDigits?_eq_some_iff.mp hn)
      case isFalse => cases h
  · intro h
    cases h with
    | absent => rfl
    | given hmark hsign numeral =>
      have read := natOfDigits?_eq_some_iff.mpr numeral
      simp [exponentOf?, hmark, cutSign_append hsign numeral.isDigit, read]

/-- An exponent begins with neither a digit nor a point. -/
theorem IsExponent.head {es : List Char} {e : Int} (h : IsExponent es e) :
    ∀ c ∈ es.head?, c.isDigit = false ∧ c ≠ '.' := by
  cases h with
  | absent => simp
  | given hmark _ _ =>
    rintro c ⟨⟩
    rcases hmark with rfl | rfl <;> decide

/-- A number is read in parts: the digits before the point, those behind it and an exponent. -/
theorem ofUnsigned?_eq_some_iff (negative : Bool) {ds fs es : List Char} {x : Binary64}
    (hds : ∀ d ∈ ds, d.isDigit = true) (hfs : ∀ f ∈ fs, f.isDigit = true)
    (hes : ∀ c ∈ es.head?, c.isDigit = false) (point : fs = [] → es.head? ≠ some '.') :
    Binary64.ofUnsigned? negative (ds ++ (fractionOf fs ++ es)) = some x ↔
      ∃ n e, IsNumeral 10 (ds ++ fs) n ∧ IsExponent es e ∧
        x = .ofDecimal negative n (e - fs.length) := by
  unfold Binary64.ofUnsigned? fractionOf
  split_ifs with none
  · subst none
    rw [List.nil_append, Text.takeWhile_append_of_stop hds hes,
      Text.dropWhile_append_of_stop hds hes]
    dsimp only
    split
    case h_1 => exact absurd rfl (point rfl)
    case h_2 =>
      simp [Option.bind_eq_some_iff, natOfDigits?_eq_some_iff, exponentOf?_eq_some_iff,
        @eq_comm _ x]
  · have stop : ∀ c ∈ ('.' :: fs ++ es).head?, c.isDigit = false := by
      rintro c ⟨⟩
      rfl
    rw [Text.takeWhile_append_of_stop hds stop, Text.dropWhile_append_of_stop hds stop]
    simp [Option.bind_eq_some_iff, natOfDigits?_eq_some_iff, exponentOf?_eq_some_iff, @eq_comm _ x,
      Text.takeWhile_append_of_stop hfs hes, Text.dropWhile_append_of_stop hfs hes]

private def unsigned? (negative : Bool) (cs : List Char) : Option Value :=
  let whole := cs.takeWhile Char.isDigit
  if !plainDigits whole then none
  else match cs.dropWhile Char.isDigit with
    | [] => (natOfDigits? 10 whole).map fun n => .int (if negative then -n else n)
    | '.' :: rest =>
      if (rest.takeWhile Char.isDigit).isEmpty then none
      else (Binary64.ofUnsigned? negative cs).map .float
    | _ => (Binary64.ofUnsigned? negative cs).map .float

private theorem number?_minus (cs : List Char) : number? ('-' :: cs) = unsigned? true cs := rfl

private theorem number?_of_ne (h : ∀ rest, cs ≠ '-' :: rest) : number? cs = unsigned? false cs := by
  unfold number?
  split
  next negative body eq =>
    split at eq
    case h_1 => exact absurd rfl (h _)
    case h_2 =>
      cases eq
      rfl

theorem plainDigits_iff {ds : List Char} : plainDigits ds = true ↔ IsUnpadded ds := by
  unfold IsUnpadded
  fun_cases plainDigits ds with
  | case1 => simp
  | case2 ds other => simpa using fun eq ↦ other (by rw [eq])
  | case3 ds alone zero =>
    have head : ds.head? ≠ some '0' := fun h ↦ by
      obtain ⟨rest, rfl⟩ := List.head?_eq_some_iff.mp h
      exact zero _ rfl
    simp [head]

private theorem exists_digits (cs : List Char) :
    ∃ ds rest, cs = ds ++ rest ∧ (∀ d ∈ ds, d.isDigit = true) ∧
      (∀ c ∈ rest.head?, c.isDigit = false) ∧ cs.takeWhile Char.isDigit = ds ∧
      cs.dropWhile Char.isDigit = rest := by
  refine ⟨_, _, List.takeWhile_append_dropWhile.symm,
    fun d hd ↦ List.all_eq_true.mp List.all_takeWhile d hd, fun c hc ↦ ?_, rfl, rfl⟩
  have stop := List.head?_dropWhile_not Char.isDigit cs
  rw [show List.head? _ = some c from hc] at stop
  exact stop

private theorem unsigned?_sound {negative : Bool} {v : Value} (h : unsigned? negative cs = some v) :
    IsUnsigned negative cs v := by
  obtain ⟨ds, rest, rfl, hds, stop, hwhole, hrest⟩ := exists_digits cs
  unfold unsigned? at h
  simp only [hwhole, hrest] at h
  split at h
  case isTrue => cases h
  case isFalse padded =>
    simp only [Bool.not_eq_true, Bool.not_eq_false', plainDigits_iff] at padded
    split at h
    case h_1 =>
      simp only [Option.map_eq_some_iff, Option.bind_eq_bind, Option.bind_eq_some_iff] at h
      obtain ⟨_, ⟨n, hn, eq⟩, rfl⟩ := h
      cases eq
      rw [List.append_nil]
      exact .whole padded (natOfDigits?_eq_some_iff.mp hn)
    case h_2 behind =>
      obtain ⟨fs, es, rfl, hfs, hes, hfraction, -⟩ := exists_digits behind
      rw [hfraction] at h
      split at h
      case isTrue => cases h
      case isFalse ne =>
        rw [List.isEmpty_iff] at ne
        obtain ⟨x, hx, rfl⟩ := Option.map_eq_some_iff.mp h
        have split : '.' :: (fs ++ es) = fractionOf fs ++ es := by simp [fractionOf, ne]
        rw [split, ofUnsigned?_eq_some_iff negative hds hfs hes (absurd · ne)] at hx
        obtain ⟨n, e, numeral, exponent, rfl⟩ := hx
        rw [split]
        exact .float padded numeral exponent (by simp [fractionOf, ne])
    case h_3 ne other =>
      obtain ⟨x, hx, rfl⟩ := Option.map_eq_some_iff.mp h
      have point : rest.head? ≠ some '.' := fun first ↦ by
        obtain ⟨behind, rfl⟩ := List.head?_eq_some_iff.mp first
        exact other behind rfl
      have split : rest = fractionOf [] ++ rest := rfl
      rw [split, ofUnsigned?_eq_some_iff negative hds (List.forall_mem_nil _) stop
        fun _ ↦ point] at hx
      obtain ⟨n, e, numeral, exponent, rfl⟩ := hx
      rw [split]
      exact .float padded numeral exponent ne

private theorem unsigned?_complete {negative : Bool} {v : Value} (h : IsUnsigned negative cs v) :
    unsigned? negative cs = some v := by
  unfold unsigned?
  cases h with
  | @whole ds n unpadded numeral =>
    have read := natOfDigits?_eq_some_iff.mpr numeral
    rw [List.takeWhile_eq_self_iff.mpr numeral.isDigit,
      List.dropWhile_eq_nil_iff.mpr numeral.isDigit]
    simp [plainDigits_iff.mpr unpadded, read]
  | @float ds fs es n e unpadded numeral exponent ne =>
    obtain ⟨hds, hfs⟩ := List.forall_mem_append.mp numeral.isDigit
    have hes : ∀ c ∈ es.head?, c.isDigit = false := fun c hc ↦ (exponent.head c hc).1
    have point : es.head? ≠ some '.' := fun first ↦ (exponent.head '.' first).2 rfl
    have read := (ofUnsigned?_eq_some_iff negative hds hfs hes fun _ ↦ point).mpr
      ⟨n, e, numeral, exponent, rfl⟩
    have stop : ∀ c ∈ (fractionOf fs ++ es).head?, c.isDigit = false := by
      unfold fractionOf
      split
      · exact hes
      · rintro c ⟨⟩
        rfl
    rw [Text.takeWhile_append_of_stop hds stop, Text.dropWhile_append_of_stop hds stop, read]
    dsimp only
    rw [plainDigits_iff.mpr unpadded, Bool.not_true, if_neg Bool.false_ne_true]
    split
    case h_1 none => exact absurd none ne
    case h_2 behind eq =>
      unfold fractionOf at eq
      split_ifs at eq with none
      · exact absurd (by rw [show es = _ from eq]; rfl) point
      · cases eq
        obtain ⟨f, fs, rfl⟩ := List.exists_cons_of_ne_nil none
        simp [hfs f List.mem_cons_self]
    case h_3 => rfl

/-- Behind its sign a number begins with a digit. -/
theorem IsUnsigned.exists_digit {negative : Bool} {v : Value} (h : IsUnsigned negative cs v) :
    ∃ d rest, cs = d :: rest ∧ d.isDigit = true := by
  cases h with
  | whole unpadded numeral =>
    obtain ⟨d, ds, rfl⟩ := List.exists_cons_of_ne_nil unpadded.1
    exact ⟨d, ds, rfl, numeral.isDigit d List.mem_cons_self⟩
  | float unpadded numeral _ _ =>
    obtain ⟨d, ds, rfl⟩ := List.exists_cons_of_ne_nil unpadded.1
    exact ⟨d, _, rfl, numeral.isDigit d List.mem_cons_self⟩

theorem number?_eq_some_iff {v : Value} : number? cs = some v ↔ IsNumber cs v := by
  constructor
  · intro h
    by_cases minus : ∃ rest, cs = '-' :: rest
    · obtain ⟨rest, rfl⟩ := minus
      rw [number?_minus] at h
      exact .negative (unsigned?_sound h)
    · rw [not_exists] at minus
      rw [number?_of_ne minus] at h
      exact .positive (unsigned?_sound h)
  · intro h
    cases h with
    | negative unsigned =>
      rw [number?_minus]
      exact unsigned?_complete unsigned
    | positive unsigned =>
      obtain ⟨d, rest, rfl, digit⟩ := unsigned.exists_digit
      rw [number?_of_ne, unsigned?_complete unsigned]
      rintro _ ⟨⟩
      cases digit

theorem isNumberChar_of_isDigit (h : ∀ c ∈ cs, c.isDigit = true) :
    ∀ c ∈ cs, isNumberChar c = true := fun c hc ↦ by
  simp [isNumberChar, h c hc]

theorem IsExponent.isNumberChar {e : Int} (h : IsExponent cs e) :
    ∀ c ∈ cs, isNumberChar c = true := by
  cases h with
  | absent => exact List.forall_mem_nil _
  | given hmark hsign numeral =>
    refine List.forall_mem_cons.mpr ⟨by rcases hmark with rfl | rfl <;> rfl,
      List.forall_mem_append.mpr ⟨?_, isNumberChar_of_isDigit numeral.isDigit⟩⟩
    simp only [List.mem_cons, List.not_mem_nil, or_false] at hsign
    rcases hsign with rfl | rfl | rfl <;> simp [Json.isNumberChar]

theorem IsUnsigned.isNumberChar {negative : Bool} {v : Value} (h : IsUnsigned negative cs v) :
    ∀ c ∈ cs, isNumberChar c = true := by
  cases h with
  | whole _ numeral => exact isNumberChar_of_isDigit numeral.isDigit
  | @float ds fs es _ _ _ numeral exponent _ =>
    obtain ⟨hds, hfs⟩ := List.forall_mem_append.mp (isNumberChar_of_isDigit numeral.isDigit)
    refine List.forall_mem_append.mpr ⟨hds, List.forall_mem_append.mpr ⟨?_, exponent.isNumberChar⟩⟩
    unfold fractionOf
    split
    · exact List.forall_mem_nil _
    · exact List.forall_mem_cons.mpr ⟨rfl, hfs⟩

theorem IsNumber.isNumberChar {v : Value} (h : IsNumber cs v) :
    ∀ c ∈ cs, isNumberChar c = true := by
  cases h with
  | positive unsigned => exact unsigned.isNumberChar
  | negative unsigned => exact List.forall_mem_cons.mpr ⟨rfl, unsigned.isNumberChar⟩

theorem IsNumber.ne_nil {v : Value} (h : IsNumber cs v) : cs ≠ [] := by
  cases h with
  | positive unsigned =>
    obtain ⟨d, rest, rfl, -⟩ := unsigned.exists_digit
    exact List.cons_ne_nil _ _
  | negative _ => exact List.cons_ne_nil _ _

end DartBlock.Json
