import DartBlock.Proofs.Text.Blank
import DartBlock.Shell.Quote
import DartBlock.Shell.Words

/-!
# Quoted words read back

Cutting a command undoes joining quoted words, whatever characters the words are made of
(`words_join`). A quoted word comes out whole wherever a word may begin (`split_quote`): the place
inside the command follows the quotes, and a separator is only met behind the last of them. A joined
command neither begins nor ends with white space, so nothing of it is lost by stripping
(`stripped_join`).
-/

namespace DartBlock.Shell

/-! ## Plain characters -/

theorem ne_of_isPlain {c d : Char} (h : isPlain c = true) (hd : isPlain d = false) : c ≠ d := by
  rintro rfl
  rw [h] at hd
  cases hd

theorem toNat_of_isPlain {c : Char} (h : isPlain c = true) : 0x20 < c.toNat ∧ c.toNat < 0x7F := by
  rw [isPlain, Bool.or_eq_true] at h
  rcases h with h | h
  · unfold Char.isAlphanum Char.isAlpha Char.isUpper Char.isLower Char.isDigit at h
    simp only [Bool.or_eq_true, Bool.and_eq_true, decide_eq_true_eq, ge_iff_le,
      UInt32.le_iff_toNat_le] at h
    have alphanum : (65 ≤ c.toNat ∧ c.toNat ≤ 90 ∨ 97 ≤ c.toNat ∧ c.toNat ≤ 122) ∨
        48 ≤ c.toNat ∧ c.toNat ≤ 57 := h
    omega
  · have visible : ∀ d ∈ ['_', '@', '%', '+', '=', ':', ',', '.', '/', '-'],
        0x20 < d.toNat ∧ d.toNat < 0x7F := by simp
    exact visible c (List.contains_iff_mem.mp h)

theorem isBlank_of_isPlain {c : Char} (h : isPlain c = true) : Text.isBlank c = false := by
  obtain ⟨low, high⟩ := toNat_of_isPlain h
  simp [Text.isBlank, Text.isGap]
  omega

theorem isSeparator_of_isPlain {c : Char} (h : isPlain c = true) : isSeparator c = false := by
  have space := ne_of_isPlain h (d := ' ') rfl
  have tab := ne_of_isPlain h (d := '\t') rfl
  have carriage := ne_of_isPlain h (d := '\r') rfl
  have feed := ne_of_isPlain h (d := '\n') rfl
  simp [isSeparator, space, tab, carriage, feed]

/-- A plain character stands for itself inside a word, and begins one. -/
theorem split_isPlain {c : Char} (h : isPlain c = true) (cs : List Char) :
    split .word (c :: cs) = (split .word cs).map (extend [c]) ∧
      split .between (c :: cs) = (split .word cs).map (extend [c]) := by
  have separator := isSeparator_of_isPlain h
  have escape := ne_of_isPlain h (d := '\\') rfl
  have single := ne_of_isPlain h (d := '\'') rfl
  have double := ne_of_isPlain h (d := '"') rfl
  simp [split, separator, escape, single, double]

/-! ## Quoted words -/

variable {w rest v : List Char} {vs : List (List Char)}

theorem split_word_append (h : ∀ c ∈ w, isPlain c = true)
    (hrest : split .word rest = .ok (v :: vs)) :
    split .word (w ++ rest) = .ok ((w ++ v) :: vs) := by
  induction w with
  | nil => exact hrest
  | cons c w ih =>
    obtain ⟨hc, hw⟩ := List.forall_mem_cons.mp h
    rw [List.cons_append, (split_isPlain hc _).1, ih hw]
    rfl

theorem split_single_quote (cs : List Char) :
    split .single ('\'' :: '"' :: '\'' :: '"' :: '\'' :: cs) =
      (split .single cs).map (extend ['\'']) := by
  simp [split, isSeparator]

theorem split_single_append (hrest : split .word rest = .ok (v :: vs)) :
    split .single (w.flatMap quotedChar ++ '\'' :: rest) = .ok ((w ++ v) :: vs) := by
  induction w with
  | nil => exact hrest
  | cons c w ih =>
    rw [List.flatMap_cons, List.append_assoc]
    by_cases hc : c = '\''
    · subst hc
      calc split .single (quotedChar '\'' ++ (w.flatMap quotedChar ++ '\'' :: rest))
        _ = (split .single (w.flatMap quotedChar ++ '\'' :: rest)).map (extend ['\'']) :=
          split_single_quote _
        _ = .ok (('\'' :: w ++ v) :: vs) := by rw [ih]; rfl
    · rw [quotedChar, if_neg hc, List.singleton_append, split, if_neg hc, ih]
      rfl

/-- A quoted word is one word of the command, if the next character is none of it. -/
theorem split_quote (hrest : split .word rest = .ok ([] :: vs)) :
    split .between (quote w ++ rest) = .ok (w :: vs) := by
  unfold quote
  split_ifs with h
  · obtain ⟨ne, plain⟩ := h
    obtain ⟨c, w, rfl⟩ := List.exists_cons_of_ne_nil ne
    obtain ⟨hc, hw⟩ := List.forall_mem_cons.mp (List.all_eq_true.mp plain)
    rw [List.cons_append, (split_isPlain hc _).2, split_word_append hw hrest, List.append_nil]
    rfl
  · have opens (cs : List Char) : split .between ('\'' :: cs) = split .single cs := by
      simp [split, isSeparator]
    rw [List.append_assoc, List.cons_append, opens, List.singleton_append,
      split_single_append hrest, List.append_nil]

/-! ## Commands -/

theorem toList_join (ws : List String) :
    (join ws).toList = [' '].intercalate ((ws.map String.toList).map quote) := by
  simp [join, String.toList_intercalate, Function.comp_def]

theorem split_intercalate_quote (ws : List (List Char)) :
    split .between ([' '].intercalate (ws.map quote)) = .ok ws := by
  induction ws with
  | nil => rfl
  | cons w ws ih =>
    cases ws with
    | nil =>
      have alone : split .between (quote w ++ []) = .ok [w] := split_quote rfl
      simpa using alone
    | cons w' ws =>
      rw [List.map_cons, List.map_cons, List.intercalate_cons_cons, List.append_assoc]
      apply split_quote
      rw [← List.map_cons, List.singleton_append, split, ih]
      rfl

theorem words_join (ws : List String) : words (join ws) = .ok ws := by
  rw [words, toList_join, split_intercalate_quote]
  simp [Except.map, Function.comp_def]

/-! ## Stripped commands -/

/-- A text with characters that are no blanks at its ends. -/
structure IsSolid (cs : List Char) : Prop where
  ne_nil : cs ≠ []
  head : ∀ c ∈ cs.head?, Text.isBlank c = false
  last : ∀ c ∈ cs.getLast?, Text.isBlank c = false

theorem IsSolid.append {as cs : List Char} (ha : IsSolid as) (bs : List Char) (hc : IsSolid cs) :
    IsSolid (as ++ bs ++ cs) where
  ne_nil := by simp [ha.ne_nil]
  head := by
    rw [List.append_assoc, List.head?_append_of_ne_nil _ ha.ne_nil]
    exact ha.head
  last := by
    rw [List.getLast?_append_of_ne_nil _ hc.ne_nil]
    exact hc.last

theorem isSolid_quote (w : List Char) : IsSolid (quote w) := by
  unfold quote
  split_ifs with h
  · obtain ⟨ne, plain⟩ := h
    have visible : ∀ c ∈ w, Text.isBlank c = false := fun c hc ↦
      isBlank_of_isPlain (List.all_eq_true.mp plain c hc)
    exact ⟨ne, fun c hc ↦ visible c (List.mem_of_head? hc),
      fun c hc ↦ visible c (List.mem_of_getLast? hc)⟩
  · have sign : IsSolid ['\''] :=
      ⟨List.cons_ne_nil _ _, by rintro c ⟨⟩; rfl, by rintro c ⟨⟩; rfl⟩
    exact sign.append _ sign

theorem isSolid_intercalate_quote (w : List Char) (ws : List (List Char)) :
    IsSolid ([' '].intercalate ((w :: ws).map quote)) := by
  induction ws generalizing w with
  | nil => simpa using isSolid_quote w
  | cons w' ws ih =>
    rw [List.map_cons, List.map_cons, List.intercalate_cons_cons]
    exact (isSolid_quote w).append [' '] (ih w')

theorem isSolid_join (w : String) (ws : List String) : IsSolid (join (w :: ws)).toList := by
  rw [toList_join]
  exact isSolid_intercalate_quote _ _

theorem join_ne_empty (w : String) (ws : List String) : join (w :: ws) ≠ "" := fun h ↦
  (isSolid_join w ws).ne_nil (by rw [h]; rfl)

/-- A joined command is stripped already. -/
theorem stripped_join (w : String) (ws : List String) :
    (join (w :: ws)).stripped = join (w :: ws) := by
  have solid := isSolid_join w ws
  rw [String.stripped, Text.strip_eq_self solid.head solid.last, String.ofList_toList]

end DartBlock.Shell
