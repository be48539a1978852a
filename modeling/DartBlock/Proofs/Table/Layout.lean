import DartBlock.Table.Layout
import Mathlib.Algebra.Ring.Nat
import Mathlib.Data.List.Forall2
import Mathlib.Order.Bounds.Basic

/-!
# Lines of a table

The line of a row is made of fields between bars (`toList_line`): a field is the cell in the width
of its column, with a space on both sides. All rows have fields of the same widths, so dropping the
first fields of a line is dropping as many characters in every line (`drop_barred`), and the bars
stand below each other. Main theorem: `layout_aligned`.
-/

namespace DartBlock.Table

/-! ## Columns -/

/-- A maximum that is taken along a list is zero or the value of an element, and no element has a
larger one. -/
theorem foldl_max_spec {α : Type} (f : α → Nat) (xs : List α) :
    let n := xs.foldl (fun n x ↦ max n (f x)) 0
    (n = 0 ∨ ∃ x ∈ xs, f x = n) ∧ ∀ x ∈ xs, f x ≤ n := by
  intro n
  have largest : (0 :: xs.map f).max? = some n := by
    rw [List.max?_cons', List.foldl_map]
  obtain ⟨mem, le⟩ := List.max?_eq_some_iff.1 largest
  exact ⟨by simpa using mem, fun x hx ↦ le _ (List.mem_cons_of_mem _ (List.mem_map_of_mem hx))⟩

variable {rows : Table} {row : List String} {i : Nat}

theorem cellAt_of_lt (h : i < row.length) : cellAt row i = row[i] := by
  rw [cellAt, List.getD_eq_getElem?_getD, List.getElem?_eq_getElem h, Option.getD_some]

theorem cellAt_of_le (h : row.length ≤ i) : cellAt row i = "" := by
  rw [cellAt, List.getD_eq_getElem?_getD, List.getElem?_eq_none h, Option.getD_none]

theorem length_le_columns (h : row ∈ rows) : row.length ≤ columns rows :=
  (foldl_max_spec List.length rows).2 row h

theorem length_cellAt_le_width (h : row ∈ rows) (i : Nat) : (cellAt row i).length ≤ width rows i :=
  (foldl_max_spec (fun row ↦ (cellAt row i).length) rows).2 row h

theorem isGreatest_columns (ne : rows ≠ []) :
    IsGreatest {n | ∃ row ∈ rows, row.length = n} (columns rows) := by
  refine ⟨?_, ?_⟩
  · obtain zero | longest := (foldl_max_spec List.length rows).1
    · obtain ⟨row, rest, rfl⟩ := List.exists_cons_of_ne_nil ne
      have le := length_le_columns (List.mem_cons_self (a := row) (l := rest))
      refine ⟨row, List.mem_cons_self, le.antisymm ?_⟩
      rw [columns, zero]
      exact Nat.zero_le _
    · exact longest
  · rintro _ ⟨row, hrow, rfl⟩
    exact length_le_columns hrow

theorem isGreatest_width (h : i < columns rows) :
    IsGreatest {n | ∃ row ∈ rows, ∃ cell, row[i]? = some cell ∧ cell.length = n}
      (width rows i) := by
  have ne : rows ≠ [] := by
    rintro rfl
    cases h
  have le {row} (hrow : row ∈ rows) (long : i < row.length) : row[i].length ≤ width rows i :=
    cellAt_of_lt long ▸ length_cellAt_le_width hrow i
  -- A row that reaches the column has a cell of this width, be it only an empty one.
  have reached {row} (hrow : row ∈ rows) (long : i < row.length)
      (hcell : width rows i ≤ row[i].length) :
      ∃ row ∈ rows, ∃ cell, row[i]? = some cell ∧ cell.length = width rows i :=
    ⟨row, hrow, row[i], List.getElem?_eq_getElem long, (le hrow long).antisymm hcell⟩
  refine ⟨?_, ?_⟩
  · by_cases zero : width rows i = 0
    · obtain ⟨row, hrow, hlength⟩ := (isGreatest_columns ne).1
      exact reached hrow (hlength ▸ h) (zero ▸ Nat.zero_le _)
    · obtain none | ⟨row, hrow, hwidth⟩ := (foldl_max_spec (fun row ↦ (cellAt row i).length) rows).1
      · exact absurd none zero
      · have long : i < row.length := by
          by_contra short
          rw [cellAt_of_le (not_lt.1 short)] at hwidth
          exact zero hwidth.symm
        rw [cellAt_of_lt long] at hwidth
        exact reached hrow long hwidth.ge
  · rintro _ ⟨row, hrow, cell, hcell, rfl⟩
    obtain ⟨long, rfl⟩ := List.getElem?_eq_some_iff.1 hcell
    exact le hrow long

/-! ## Fields between bars -/

/-- Fields with a bar in front of each and one at the end. -/
def barred (fields : List (List Char)) : List Char := fields.flatMap ('|' :: ·) ++ ['|']

@[simp] theorem barred_nil : barred [] = ['|'] := rfl

@[simp] theorem barred_cons (field : List Char) (fields : List (List Char)) :
    barred (field :: fields) = '|' :: (field ++ barred fields) := by
  simp [barred]

theorem length_barred (fields : List (List Char)) :
    (barred fields).length = 1 + (fields.map fun field ↦ field.length + 1).sum := by
  induction fields with
  | nil => rfl
  | cons field fields ih =>
    simp only [barred_cons, List.length_cons, List.length_append, ih, List.map_cons, List.sum_cons]
    omega

/-- Behind some of the fields stand the others, between bars as well. -/
theorem drop_barred (fields : List (List Char)) (i : Nat) :
    (barred fields).drop ((fields.take i).map fun field ↦ field.length + 1).sum =
      barred (fields.drop i) := by
  induction fields generalizing i with
  | nil => simp
  | cons field fields ih =>
    cases i with
    | zero => rfl
    | succ i =>
      rw [List.take_succ_cons, List.map_cons, List.sum_cons, ← List.drop_drop, List.drop_succ_cons,
        ← ih, barred_cons, List.drop_succ_cons, List.drop_left]

theorem barred_spaced {texts : List (List Char)} (ne : texts ≠ []) :
    ['|', ' '] ++ [' ', '|', ' '].intercalate texts ++ [' ', '|'] =
      barred (texts.map fun text ↦ ' ' :: (text ++ [' '])) := by
  induction texts with
  | nil => exact absurd rfl ne
  | cons text texts ih =>
    cases texts with
    | nil => simp
    | cons next texts =>
      rw [List.map_cons, barred_cons, ← ih (List.cons_ne_nil _ _), List.intercalate_cons_cons]
      simp

/-! ## Lines -/

def field (width : Nat) (cell : String) : List Char :=
  ' ' :: ((padCell width cell).toList ++ [' '])

def fields (rows : Table) (row : List String) : List (List Char) :=
  (List.range (columns rows)).map fun i ↦ field (width rows i) (cellAt row i)

theorem toList_padCell (width : Nat) (cell : String) :
    (padCell width cell).toList = cell.toList ++ List.replicate (width - cell.length) ' ' := by
  simp [padCell]

theorem field_eq {width : Nat} {cell : String} (h : cell.length ≤ width) :
    field width cell =
      ' ' :: (cell.toList ++ List.replicate (width + 1 - cell.length) ' ') := by
  rw [field, toList_padCell, List.append_assoc, ← List.replicate_succ', Nat.succ_sub h]

theorem length_spaced {width : Nat} {cell : String} (h : cell.length ≤ width) :
    (cell.toList ++ List.replicate (width + 1 - cell.length) ' ').length = width + 1 := by
  rw [List.length_append, List.length_replicate, String.length_toList]
  omega

theorem toList_line (pos : 0 < columns rows) (row : List String) :
    (line (widths rows) row).toList = barred (fields rows row) := by
  have cells : (widths rows).mapIdx (fun i w ↦ padCell w (cellAt row i)) =
      (List.range (columns rows)).map fun i ↦ padCell (width rows i) (cellAt row i) := by
    apply List.ext_getElem <;> simp [widths]
  have some : (List.range (columns rows)).map
      (fun i ↦ (padCell (width rows i) (cellAt row i)).toList) ≠ [] := by
    simpa using pos.ne'
  have spaced := barred_spaced some
  rw [List.map_map] at spaced
  rw [line, cells, String.toList_append, String.toList_append, String.toList_intercalate,
    List.map_map]
  exact spaced

/-! ## Aligned lines -/

/-- The offset of the bar in front of a column, if the columns have these sizes. -/
def barAt (size : Nat → Nat) (i : Nat) : Nat := ((List.range i).map fun j ↦ size j + 3).sum

/-- A line shows a row in columns of these sizes: the bars stand where they do in every line, and
each column holds the cell of the row, or nothing where the row is too short, and spaces. -/
structure IsAligned (count : Nat) (size : Nat → Nat) (row : List String) (piece : String) :
    Prop where
  length : piece.length = 1 + barAt size count
  bar : ∀ i ≤ count, piece.toList[barAt size i]? = some '|'
  fits : ∀ i < count, (row.getD i "").length ≤ size i
  cell : ∀ i < count, (piece.toList.drop (barAt size i + 2)).take (size i + 1) =
    (row.getD i "").toList ++ List.replicate (size i + 1 - (row.getD i "").length) ' '
  margin : ∀ i < count, piece.toList[barAt size i + 1]? = some ' '

/-- The first fields of a line take the same place in every row. -/
theorem sum_take_fields (hrow : row ∈ rows) (h : i ≤ columns rows) :
    (((fields rows row).take i).map fun field ↦ field.length + 1).sum = barAt (width rows) i := by
  rw [fields, ← List.map_take, List.take_range, Nat.min_eq_left h, List.map_map, barAt]
  congr 1
  apply List.map_congr_left
  intro j _
  have fits := length_cellAt_le_width hrow j
  rw [Function.comp_apply, field_eq fits, List.length_cons, length_spaced fits]

theorem drop_line (hrow : row ∈ rows) (h : i ≤ columns rows) (pos : 0 < columns rows) :
    (line (widths rows) row).toList.drop (barAt (width rows) i) =
      barred ((fields rows row).drop i) := by
  rw [toList_line pos, ← sum_take_fields hrow h, drop_barred]

theorem drop_line_eq (hrow : row ∈ rows) (h : i < columns rows) :
    (line (widths rows) row).toList.drop (barAt (width rows) i) =
      '|' :: ' ' :: ((cellAt row i).toList ++
        List.replicate (width rows i + 1 - (cellAt row i).length) ' ' ++
          barred ((fields rows row).drop (i + 1))) := by
  have first : (fields rows row).drop i =
      field (width rows i) (cellAt row i) :: (fields rows row).drop (i + 1) := by
    rw [List.drop_eq_getElem_cons (by simpa [fields] using h)]
    simp [fields]
  rw [drop_line hrow h.le (Nat.zero_lt_of_lt h), first, barred_cons,
    field_eq (length_cellAt_le_width hrow i), List.cons_append]

theorem isAligned_line (hrow : row ∈ rows) (pos : 0 < columns rows) :
    IsAligned (columns rows) (width rows) row (line (widths rows) row) where
  length := by
    have all := sum_take_fields hrow le_rfl
    rw [List.take_of_length_le (by simp [fields])] at all
    rw [← String.length_toList, toList_line pos, length_barred, all]
  bar i h := by
    rw [← List.head?_drop, drop_line hrow h pos]
    cases (fields rows row).drop i <;> rfl
  fits i _ := length_cellAt_le_width hrow i
  cell i h := by
    rw [← List.drop_drop, drop_line_eq hrow h]
    exact List.take_left' (length_spaced (length_cellAt_le_width hrow i))
  margin i h := by
    rw [← List.head?_drop, ← List.drop_drop, drop_line_eq hrow h]
    rfl

/-- **Tables are aligned.**  A table with a cell is as wide as its longest row, and a column as its
longest cell. It is printed as one piece for each row, with a line feed between them, and all pieces
are aligned in these columns. -/
theorem layout_aligned (h : ∃ row ∈ rows, row ≠ []) :
    IsGreatest {n | ∃ row ∈ rows, row.length = n} (columns rows) ∧
    (∀ i < columns rows,
      IsGreatest {n | ∃ row ∈ rows, ∃ cell, row[i]? = some cell ∧ cell.length = n}
        (width rows i)) ∧
    ∃ pieces, layout rows = "\n".intercalate pieces ∧
      List.Forall₂ (IsAligned (columns rows) (width rows)) rows pieces := by
  obtain ⟨row, hrow, ne⟩ := h
  have pos : 0 < columns rows := (List.length_pos_iff.2 ne).trans_le (length_le_columns hrow)
  refine ⟨isGreatest_columns (List.ne_nil_of_mem hrow), fun i ↦ isGreatest_width,
    rows.map (line (widths rows)), rfl, ?_⟩
  rw [List.forall₂_map_right_iff, List.forall₂_same]
  exact fun row hrow ↦ isAligned_line hrow pos

/-- A short row is filled up with blanks. -/
theorem layout_aligned_ragged :
    (∃ row ∈ [["a", "bb"], ["ccc"]], row ≠ []) ∧
      ∃ pieces, "| a   | bb |\n| ccc |    |" = "\n".intercalate pieces ∧
        List.Forall₂ (IsAligned 2 (width [["a", "bb"], ["ccc"]])) [["a", "bb"], ["ccc"]] pieces := by
  have some : ∃ row ∈ [["a", "bb"], ["ccc"]], row ≠ [] := ⟨_, List.mem_cons_self, by decide⟩
  obtain ⟨-, -, pieces, joined, aligned⟩ := layout_aligned some
  have printed : layout [["a", "bb"], ["ccc"]] = "| a   | bb |\n| ccc |    |" := by decide +kernel
  exact ⟨some, pieces, printed ▸ joined, aligned⟩

end DartBlock.Table
