import DartBlock.Format
import DartBlock.Proofs.Shape
import DartBlock.Proofs.Table.Layout

/-!
# Reading pipe rows

A printed table is read back line by line: a line is cut at its bars, and the texts between them are
stripped. Nothing is escaped, so no text at all can be read as a table with a bar or a line feed in
a cell (`IsUnbroken.of_pipeRows?`). Every other table that a text shows is read back. Main theorem:
`pipeRows?_print`.
-/

namespace DartBlock.Table

/-- The cells of a line that begins and ends with a bar: the texts between the bars, stripped. -/
def pipeRow? (line : List Char) : Option (List String) :=
  match line.splitOn '|' with
  | [] :: rest =>
    if rest.getLast? = some [] then
      some (rest.dropLast.map fun field => String.ofList (Text.strip field))
    else none
  | _ => none

def pipeRows? (text : String) : Option Table := (text.toList.splitOn '\n').mapM pipeRow?

/-- No cell has a bar or a line feed. -/
def IsUnbroken (rows : Table) : Prop :=
  ∀ row ∈ rows, ∀ cell ∈ row, '|' ∉ cell.toList ∧ '\n' ∉ cell.toList

/-! ## Cutting -/

/-- The pieces of a text have no characters but those of the text that it is not cut at. -/
theorem mem_of_mem_splitOn {a c : Char} {cs piece : List Char} (h : piece ∈ cs.splitOn a)
    (hc : c ∈ piece) : c ∈ cs ∧ c ≠ a := by
  induction cs generalizing piece with
  | nil =>
    rw [List.splitOn_nil, List.mem_singleton] at h
    rw [h] at hc
    cases hc
  | cons d cs ih =>
    have tail {piece} (h : piece ∈ cs.splitOn a) (hc : c ∈ piece) : c ∈ d :: cs ∧ c ≠ a :=
      (ih h hc).imp_left (List.mem_cons_of_mem d)
    obtain ⟨first, others, pieces⟩ := List.exists_cons_of_ne_nil (cs.splitOn_ne_nil a)
    rw [List.splitOn_cons_eq_if_modifyHead, pieces, List.modifyHead_cons] at h
    rw [pieces] at tail
    split_ifs at h with hd
    · obtain rfl | h := List.mem_cons.1 h
      · cases hc
      · exact tail h hc
    · obtain rfl | h := List.mem_cons.1 h
      · obtain rfl | hc := List.mem_cons.1 hc
        · exact ⟨List.mem_cons_self, by simpa using hd⟩
        · exact tail List.mem_cons_self hc
      · exact tail (List.mem_cons_of_mem _ h) hc

theorem barred_eq_intercalate (fields : List (List Char)) :
    barred fields = ['|'].intercalate ([] :: (fields ++ [[]])) := by
  induction fields with
  | nil => rfl
  | cons field fields ih =>
    have ne : fields ++ [[]] ≠ [] := List.append_ne_nil_of_right_ne_nil _ (List.cons_ne_nil _ _)
    rw [barred_cons, ih, List.cons_append, List.intercalate_cons_of_ne_nil ne,
      List.intercalate_cons_cons, List.intercalate_cons_of_ne_nil ne]
    simp

/-! ## Reading lines -/

theorem pipeRow?_barred {fields : List (List Char)} (h : ∀ field ∈ fields, '|' ∉ field) :
    pipeRow? (barred fields) = some (fields.map fun field ↦ String.ofList (Text.strip field)) := by
  have cuts : (barred fields).splitOn '|' = [] :: (fields ++ [[]]) := by
    rw [barred_eq_intercalate]
    apply List.splitOn_intercalate
    · simpa [List.mem_append, or_imp, forall_and] using h
    · exact List.cons_ne_nil _ _
  rw [pipeRow?, cuts]
  simp

/-- No cell that is read has a bar or a character that the line has not. -/
theorem of_pipeRow? {line : List Char} {row : List String} (h : pipeRow? line = some row)
    {cell : String} (hcell : cell ∈ row) {c : Char} (hc : c ∈ cell.toList) :
    c ∈ line ∧ c ≠ '|' := by
  unfold pipeRow? at h
  split at h
  case h_1 rest pieces =>
    split_ifs at h
    cases h
    obtain ⟨field, hfield, rfl⟩ := List.mem_map.1 hcell
    rw [String.toList_ofList] at hc
    have mem : field ∈ line.splitOn '|' :=
      pieces ▸ List.mem_cons_of_mem _ ((List.dropLast_subset _) hfield)
    exact mem_of_mem_splitOn mem (Text.strip_subset _ hc)
  · cases h

theorem isUnbroken_of_forall₂ {lines : List (List Char)} {rows : Table}
    (h : List.Forall₂ (fun line row ↦ pipeRow? line = some row) lines rows)
    (whole : ∀ line ∈ lines, '\n' ∉ line) : rows.IsUnbroken := by
  induction h with
  | nil => simp [IsUnbroken]
  | cons read _ ih =>
    obtain ⟨first, others⟩ := List.forall_mem_cons.1 whole
    refine List.forall_mem_cons.2 ⟨fun cell hcell ↦ ⟨fun bar ↦ ?_, fun feed ↦ ?_⟩, ih others⟩
    · exact (of_pipeRow? read hcell bar).2 rfl
    · exact first (of_pipeRow? read hcell feed).1

/-- No text is read as a table with a bar or a line feed in a cell. -/
theorem IsUnbroken.of_pipeRows? {text : String} {rows : Table} (h : pipeRows? text = some rows) :
    rows.IsUnbroken :=
  isUnbroken_of_forall₂ (mapM_eq_some_iff_forall₂.1 h)
    fun _ hline feed ↦ (mem_of_mem_splitOn hline feed).2 rfl

/-! ## Printed rows -/

variable {rows : Table} {row : List String} {i : Nat}

theorem strip_field (width : Nat) {cell : String} (h : IsCell cell) :
    Text.strip (field width cell) = cell.toList := by
  have space : ∀ c ∈ [' '], Text.isBlank c := fun c hc ↦ List.mem_singleton.1 hc ▸ rfl
  have spaces : ∀ c ∈ List.replicate (width - cell.length) ' ', Text.isBlank c := fun c hc ↦
    List.eq_of_mem_replicate hc ▸ rfl
  rw [field, toList_padCell, ← List.singleton_append, Text.strip_append_left space,
    Text.strip_append_right space, Text.strip_append_right spaces, h.1]

theorem mem_field {width : Nat} {cell : String} {c : Char} (h : c ∈ field width cell) :
    c = ' ' ∨ c ∈ cell.toList := by
  simp only [field, toList_padCell, List.mem_cons, List.mem_append, List.mem_replicate,
    List.not_mem_nil, or_false] at h
  tauto

theorem mem_barred {fields : List (List Char)} {c : Char} (h : c ∈ barred fields) :
    c = '|' ∨ ∃ field ∈ fields, c ∈ field := by
  induction fields with
  | nil => exact .inl (List.mem_singleton.1 h)
  | cons field fields ih =>
    rw [barred_cons, List.mem_cons, List.mem_append] at h
    obtain rfl | h | h := h
    · exact .inl rfl
    · exact .inr ⟨field, List.mem_cons_self, h⟩
    · exact (ih h).imp_right fun ⟨field, hfield, hc⟩ ↦ ⟨field, List.mem_cons_of_mem _ hfield, hc⟩

/-- A row of a proper table has a cell in each column. -/
theorem IsProper.length_eq (proper : rows.IsProper) (hrow : row ∈ rows) :
    row.length = columns rows := by
  obtain ⟨width, -, hwidth⟩ := proper.width
  obtain ⟨longest, hlongest, columns⟩ := (isGreatest_columns proper.ne_nil).1
  rw [← columns, hwidth row hrow, hwidth longest hlongest]

theorem IsProper.exists_cell (proper : rows.IsProper) (hrow : row ∈ rows) {f : List Char}
    (hf : f ∈ fields rows row) : ∃ cell ∈ row, ∃ width, f = field width cell := by
  obtain ⟨i, hi, rfl⟩ := List.mem_map.1 hf
  rw [List.mem_range, ← proper.length_eq hrow] at hi
  exact ⟨row[i], List.getElem_mem hi, rows.width i, by rw [cellAt_of_lt hi]⟩

theorem IsProper.map_strip_fields (proper : rows.IsProper) (hrow : row ∈ rows) :
    (fields rows row).map (fun field ↦ String.ofList (Text.strip field)) = row := by
  apply List.ext_getElem
  · simp [fields, proper.length_eq hrow]
  · intro i _ hi
    have cell := proper.cells row hrow row[i] (List.getElem_mem hi)
    simp [fields, cellAt_of_lt hi, strip_field _ cell]

theorem IsProper.columns_pos (proper : rows.IsProper) : 0 < columns rows := by
  obtain ⟨row, rest, rfl⟩ := List.exists_cons_of_ne_nil proper.ne_nil
  obtain ⟨width, pos, hwidth⟩ := proper.width
  rwa [← proper.length_eq List.mem_cons_self, hwidth row List.mem_cons_self]

theorem IsProper.pipeRow?_line (proper : rows.IsProper) (hrow : row ∈ rows)
    (unbroken : ∀ cell ∈ row, '|' ∉ cell.toList) :
    pipeRow? (line (widths rows) row).toList = some row := by
  rw [toList_line proper.columns_pos, pipeRow?_barred, proper.map_strip_fields hrow]
  intro f hf bar
  obtain ⟨cell, hcell, width, rfl⟩ := proper.exists_cell hrow hf
  exact unbroken cell hcell ((mem_field bar).resolve_left (by decide))

theorem IsProper.not_mem_line (proper : rows.IsProper) (hrow : row ∈ rows)
    (unbroken : ∀ cell ∈ row, '\n' ∉ cell.toList) :
    '\n' ∉ (line (widths rows) row).toList := by
  rw [toList_line proper.columns_pos]
  intro feed
  obtain bar | ⟨f, hf, feed⟩ := mem_barred feed
  · cases bar
  · obtain ⟨cell, hcell, width, rfl⟩ := proper.exists_cell hrow hf
    exact unbroken cell hcell ((mem_field feed).resolve_left (by decide))

/-- A proper table without bars and line feeds is read back. -/
theorem IsProper.pipeRows?_layout (proper : rows.IsProper) (unbroken : rows.IsUnbroken) :
    pipeRows? (layout rows) = some rows := by
  have lines : (layout rows).toList.splitOn '\n' =
      rows.map fun row ↦ (line (widths rows) row).toList := by
    rw [layout, String.toList_intercalate, List.map_map]
    refine List.splitOn_intercalate '\n' (List.forall_mem_map.2 fun row hrow ↦ ?_) ?_
    · exact proper.not_mem_line hrow fun cell hcell ↦ (unbroken row hrow cell hcell).2
    · exact mt List.map_eq_nil_iff.1 proper.ne_nil
  rw [pipeRows?, lines, mapM_eq_some_iff_forall₂, List.forall₂_map_left_iff, List.forall₂_same]
  exact fun row hrow ↦
    proper.pipeRow?_line hrow fun cell hcell ↦ (unbroken row hrow cell hcell).1

/-- **Reading pipe rows.** No text is read as a table with a bar or a line feed in a cell. Any
other table that a text shows is read back from what is printed, so two of them are never
printed alike. -/
theorem pipeRows?_print {t : String} (h : read? t = some rows) :
    (∀ text, pipeRows? text = some rows → rows.IsUnbroken) ∧
    (rows.IsUnbroken → pipeRows? (Format.text.print (.table rows)) = some rows) ∧
    ∀ t' rows', read? t' = some rows' → rows.IsUnbroken → rows'.IsUnbroken →
      Format.text.print (.table rows) = Format.text.print (.table rows') → rows = rows' := by
  refine ⟨fun text ↦ .of_pipeRows?, (isProper_of_read? h).pipeRows?_layout, ?_⟩
  intro t' rows' h' unbroken unbroken' same
  have read := (isProper_of_read? h).pipeRows?_layout unbroken
  have read' := (isProper_of_read? h').pipeRows?_layout unbroken'
  rw [show layout rows = layout rows' from same, read'] at read
  exact (Option.some.inj read).symm

/-- Blanks inside a cell are kept, and an empty cell is read back. -/
theorem pipeRows?_print_blank :
    let rows := [["a b", ""], ["1", "2"]]
    read? "[[a b, ], [1, 2]]" = some rows ∧ IsUnbroken rows ∧
      Format.text.print (.table rows) = "| a b |   |\n| 1   | 2 |" ∧
      pipeRows? (Format.text.print (.table rows)) = some rows := by
  intro rows
  have shown : read? "[[a b, ], [1, 2]]" = some rows := by decide +kernel
  have unbroken : IsUnbroken rows := by
    unfold IsUnbroken
    decide
  exact ⟨shown, unbroken, by decide +kernel, (pipeRows?_print shown).2.1 unbroken⟩

/-- A bar in a cell makes two cells of it, so that two tables are printed alike, and a line feed
makes two lines of a row. -/
theorem pipeRows?_print_bar :
    read? "[a | b]" = some [["a | b"]] ∧ read? "[a, b]" = some [["a", "b"]] ∧
      Format.text.print (.table [["a | b"]]) = Format.text.print (.table [["a", "b"]]) ∧
      pipeRows? (Format.text.print (.table [["a | b"]])) = some [["a", "b"]] ∧
      read? "[a\nb]" = some [["a\nb"]] ∧
      pipeRows? (Format.text.print (.table [["a\nb"]])) = none := by
  decide +kernel

end DartBlock.Table
