import DartBlock.Text.Blank
import Mathlib.Data.List.DropRight
import Mathlib.Data.List.TakeWhile

/-!
# Laws of stripping

A stripped text neither begins nor ends with a blank, and a text of that kind is stripped already.
-/

namespace DartBlock.Text

/-- The gaps are the blanks but for the four information separators. -/
theorem isGap_iff {c : Char} :
    isGap c ↔ isBlank c ∧ ¬(0x1C ≤ c.toNat ∧ c.toNat ≤ 0x1F) := by
  simp only [isBlank, isGap, Bool.or_eq_true, Bool.and_eq_true, decide_eq_true_eq, beq_iff_eq]
  omega

theorem strip_eq (cs : List Char) :
    strip cs = (cs.dropWhile isBlank).rdropWhile isBlank := rfl

/-- Stripping leaves no blank in front. -/
theorem isBlank_head_of_strip {t cs : List Char} {c : Char} (h : strip t = c :: cs) :
    isBlank c = false := by
  obtain ⟨rest, hrest⟩ : strip t <+: t.dropWhile isBlank := by
    rw [strip_eq]
    exact List.rdropWhile_prefix _ _
  have head := List.head?_dropWhile_not isBlank t
  rw [← hrest, h] at head
  exact head

theorem isBlank_last_of_strip {t cs : List Char} {c : Char} (h : strip t = cs ++ [c]) :
    isBlank c = false := by
  rw [strip_eq] at h
  have last := List.rdropWhile_last_not isBlank (t.dropWhile isBlank) (by simp [h])
  simpa [h] using last

theorem strip_eq_self {cs : List Char} (head : ∀ c ∈ cs.head?, isBlank c = false)
    (last : ∀ c ∈ cs.getLast?, isBlank c = false) : strip cs = cs := by
  have front : cs.dropWhile isBlank = cs := by
    cases cs with
    | nil => rfl
    | cons c cs => exact List.dropWhile_cons_of_neg (by simp [head c rfl])
  rw [strip_eq, front, List.rdropWhile_eq_self_iff]
  intro ne
  simp [last _ (List.getLast?_eq_some_getLast ne)]

theorem strip_strip (cs : List Char) : strip (strip cs) = strip cs := by
  apply strip_eq_self
  · intro c hc
    obtain ⟨rest, hrest⟩ := List.head?_eq_some_iff.mp hc
    exact isBlank_head_of_strip hrest
  · intro c hc
    obtain ⟨rest, hrest⟩ := List.getLast?_eq_some_iff.mp hc
    exact isBlank_last_of_strip hrest

theorem strip_subset (cs : List Char) : strip cs ⊆ cs := by
  intro c hc
  rw [strip_eq] at hc
  have hdrop : c ∈ cs.dropWhile isBlank := (List.rdropWhile_prefix _ _).subset hc
  exact (List.dropWhile_sublist _).subset hdrop

theorem strip_append_left {bs cs : List Char} (h : ∀ c ∈ bs, isBlank c) :
    strip (bs ++ cs) = strip cs := by
  rw [strip_eq, List.dropWhile_append_of_pos h, strip_eq]

theorem strip_append_right {bs cs : List Char} (h : ∀ c ∈ bs, isBlank c) :
    strip (cs ++ bs) = strip cs := by
  have behind (ds : List Char) : (ds ++ bs).rdropWhile isBlank = ds.rdropWhile isBlank := by
    rw [List.rdropWhile, List.reverse_append, List.dropWhile_append_of_pos (by simpa using h),
      ← List.rdropWhile]
  rw [strip_eq, strip_eq, List.dropWhile_append]
  split
  case isTrue blank =>
    rw [List.isEmpty_iff.mp blank, List.dropWhile_eq_nil_iff.mpr h]
  case isFalse => exact behind _

/-- A text is its stripped text with blanks around it. -/
theorem exists_strip (cs : List Char) :
    ∃ before after, (∀ c ∈ before, isBlank c) ∧ (∀ c ∈ after, isBlank c) ∧
      cs = before ++ strip cs ++ after := by
  refine ⟨cs.takeWhile isBlank, (cs.dropWhile isBlank).rtakeWhile isBlank,
    fun _ ↦ List.mem_takeWhile_imp, fun _ ↦ List.mem_rtakeWhile_imp, ?_⟩
  rw [strip_eq, List.append_assoc, List.rdropWhile_append_rtakeWhile,
    List.takeWhile_append_dropWhile]

end DartBlock.Text
