import DartBlock.Proofs.Table.Reading
import Mathlib.Data.List.Forall2

/-!
# Which texts are tables

A text is read as a table if and only if it shows that table once it is stripped:
`read?_iff_shows`. What is left to say after the readers is which lists of items make up a table
(`ofItems?_eq_some_iff`), and that a stripped text has no gaps around its group.
-/

namespace DartBlock.Table

/-! ## Items of a table -/

theorem cell?_eq_some_iff {node : Node} {cell : String} :
    node.cell? = some cell ↔ node = cellNode cell := by
  constructor
  · intro h
    cases node with
    | cell text =>
      cases h
      rw [cellNode, String.toList_ofList]
    | group items => cases h
  · rintro rfl
    rw [cellNode, Node.cell?, String.ofList_toList]

theorem mapM_eq_some_iff_forall₂ {α β : Type} {f : α → Option β} {as : List α} {bs : List β} :
    as.mapM f = some bs ↔ List.Forall₂ (fun a b ↦ f a = some b) as bs := by
  induction as generalizing bs with
  | nil => simp [eq_comm]
  | cons a as ih =>
    rw [List.mapM_cons, List.forall₂_cons_left_iff]
    constructor
    · intro h
      obtain ⟨b, hb, h⟩ := Option.bind_eq_some_iff.1 h
      obtain ⟨bs, hbs, h⟩ := Option.bind_eq_some_iff.1 h
      cases h
      exact ⟨b, bs, hb, ih.1 hbs, rfl⟩
    · rintro ⟨b, bs, hb, hbs, rfl⟩
      rw [hb, ih.2 hbs]
      rfl

/-- Where each success of `f` is known by its result, so is the success of a list. -/
private theorem mapM_eq_some_iff {α β : Type} {f : α → Option β} {g : β → α} {p : β → Prop}
    (hf : ∀ a b, f a = some b ↔ p b ∧ a = g b) {as : List α} {bs : List β} :
    as.mapM f = some bs ↔ (∀ b ∈ bs, p b) ∧ as = bs.map g := by
  have flip : List.Forall₂ (fun a b ↦ p b ∧ a = g b) as bs ↔
      List.Forall₂ (fun b a ↦ p b ∧ g b = a) bs as := by
    simp only [eq_comm]
    exact ⟨.flip, .flip⟩
  simp only [mapM_eq_some_iff_forall₂, hf]
  rw [flip, List.forall₂_and_left, ← List.forall₂_map_left_iff, List.forall₂_eq_eq_eq, eq_comm]

theorem mapM_cell?_eq_some_iff {items : List Node} {row : List String} :
    items.mapM Node.cell? = some row ↔ items = row.map cellNode := by
  rw [mapM_eq_some_iff (g := cellNode) (p := fun _ ↦ True) (by simp [cell?_eq_some_iff])]
  simp

theorem row?_eq_some_iff {node : Node} {row : List String} :
    node.row? = some row ↔ row ≠ [] ∧ node = rowNode row := by
  constructor
  · intro h
    unfold Node.row? at h
    split at h
    case h_1 item items =>
      have eq := mapM_cell?_eq_some_iff.1 h
      refine ⟨?_, by rw [rowNode, ← eq]⟩
      rintro rfl
      cases eq
    · cases h
  · rintro ⟨ne, rfl⟩
    obtain ⟨cell, row, rfl⟩ := List.exists_cons_of_ne_nil ne
    exact mapM_cell?_eq_some_iff.2 rfl

theorem isRectangle_iff {rows : Table} :
    isRectangle rows ↔ ∃ width, ∀ row ∈ rows, row.length = width := by
  cases rows with
  | nil => simp [isRectangle]
  | cons row rows =>
    simp only [isRectangle, List.all_eq_true, beq_iff_eq, List.forall_mem_cons]
    constructor
    · exact fun h ↦ ⟨row.length, rfl, h⟩
    · rintro ⟨_, rfl, h⟩
      exact h

/-- Items make up a table of one row if they are cells, and one of many rows if they are rows of
one width. -/
theorem ofItems?_eq_some_iff {items : List Node} {rows : Table} :
    ofItems? items = some rows ↔
      (∃ row, row ≠ [] ∧ items = row.map cellNode ∧ rows = [row]) ∨
        rows ≠ [] ∧ items = rows.map rowNode ∧ (∀ row ∈ rows, row ≠ []) ∧
          ∃ width, ∀ row ∈ rows, row.length = width := by
  have cells (row : List String) (h : items = row.map cellNode) (ne : items ≠ []) :
      ¬(rows ≠ [] ∧ items = rows.map rowNode) := by
    rintro ⟨-, h'⟩
    rw [h] at h' ne
    cases row with
    | nil => exact ne rfl
    | cons cell row =>
      cases rows with
      | nil => cases h'
      | cons row' rows => cases (List.cons.inj h').1
  unfold ofItems?
  split_ifs with empty
  · rw [List.isEmpty_iff] at empty
    subst empty
    simp only [List.nil_eq, List.map_eq_nil_iff, false_iff]
    rintro (⟨row, ne, rfl, -⟩ | ⟨ne, rfl, -⟩) <;> exact ne rfl
  rw [List.isEmpty_iff] at empty
  cases h : items.mapM Node.cell? with
  | some row =>
    have eq := mapM_cell?_eq_some_iff.1 h
    rw [Option.some.injEq]
    constructor
    · rintro rfl
      refine .inl ⟨row, ?_, eq, rfl⟩
      rintro rfl
      exact empty eq
    · rintro (⟨row', -, eq', rfl⟩ | ⟨ne, eq', -⟩)
      · rw [mapM_cell?_eq_some_iff.2 eq', Option.some.injEq] at h
        rw [h]
      · exact absurd ⟨ne, eq'⟩ (cells row eq empty)
  | none =>
    rw [Option.filter_eq_some_iff, mapM_eq_some_iff (fun _ _ ↦ row?_eq_some_iff), isRectangle_iff]
    constructor
    · rintro ⟨⟨nes, eq⟩, width⟩
      refine .inr ⟨?_, eq, nes, width⟩
      rintro rfl
      exact empty eq
    · rintro (⟨row, -, eq, -⟩ | ⟨-, eq, nes, width⟩)
      · rw [mapM_cell?_eq_some_iff.2 eq] at h
        cases h
      · exact ⟨⟨nes, eq⟩, width⟩

/-! ## Tables of a text -/

theorem shows_iff {text : List Char} {rows : Table} :
    Shows text rows ↔ ∃ items, IsGroup text items ∧ ofItems? items = some rows := by
  constructor
  · intro h
    cases h with
    | @row row group ne =>
      exact ⟨_, group, ofItems?_eq_some_iff.2 (.inl ⟨row, ne, rfl, rfl⟩)⟩
    | grid group ne nes width =>
      exact ⟨_, group, ofItems?_eq_some_iff.2 (.inr ⟨ne, rfl, nes, _, width⟩)⟩
  · rintro ⟨items, group, h⟩
    obtain ⟨row, ne, rfl, rfl⟩ | ⟨ne, rfl, nes, width, hw⟩ := ofItems?_eq_some_iff.1 h
    · exact .row group ne
    · exact .grid group ne nes hw

/-- A stripped text has no gaps around its group. -/
theorem isSegment_strip_iff {t : List Char} {items : List Node} :
    IsSegment (Text.strip t) (.group items) ↔ IsGroup (Text.strip t) items := by
  constructor
  · intro h
    generalize htext : Text.strip t = text at h
    cases h with
    | @group before text after _ hbefore group hafter =>
      have front : before = [] := by
        cases before with
        | nil => rfl
        | cons c before =>
          have blank := (hbefore c List.mem_cons_self).1
          rw [Text.isBlank_head_of_strip htext] at blank
          cases blank
      have back : after = [] := by
        cases after using List.reverseRecOn with
        | nil => rfl
        | append_singleton after c =>
          have blank := (hafter c (by simp)).1
          rw [← List.append_assoc] at htext
          rw [Text.isBlank_last_of_strip htext] at blank
          cases blank
      subst front back
      simpa using group
  · exact IsGroup.isSegment

theorem ofChars?_eq_some_iff {cs : List Char} {rows : Table} :
    ofChars? cs = some rows ↔
      ∃ items, IsSegment cs (.group items) ∧ ofItems? items = some rows := by
  simp only [← readItem_eq_some_iff]
  unfold ofChars?
  constructor
  · intro h
    split at h
    case h_1 items read => exact ⟨items, read, h⟩
    · cases h
  · rintro ⟨items, read, h⟩
    rw [read]
    exact h

theorem read?_eq_some_iff {t : String} {rows : Table} :
    read? t = some rows ↔
      ∃ items, IsGroup (Text.strip t.toList) items ∧ ofItems? items = some rows := by
  simp only [read?, ofChars?_eq_some_iff, isSegment_strip_iff]

/-- **Tables by bracket depth.**  A text is read as a table exactly if, stripped, it is a group of
cells or a group of non-empty groups of cells, all of one width; the table holds these cells.
Every other text is read as no table. -/
theorem read?_iff_shows (t : String) :
    (∀ rows, read? t = some rows ↔ Shows (Text.strip t.toList) rows) ∧
      (read? t = none ↔ ∀ rows, ¬Shows (Text.strip t.toList) rows) := by
  have reads (rows : Table) : read? t = some rows ↔ Shows (Text.strip t.toList) rows := by
    rw [read?_eq_some_iff, shows_iff]
  refine ⟨reads, ?_⟩
  simp only [← reads, Option.eq_none_iff_forall_ne_some]

/-- A blank cell counts after a comma only. -/
example : read? "[1, ]" = some [["1", ""]] ∧ read? "[ , 1]" = none := by decide +kernel

end DartBlock.Table
