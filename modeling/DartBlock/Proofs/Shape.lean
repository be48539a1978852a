import DartBlock.Proofs.Table.Printed
import DartBlock.Shape

/-!
# What results are shaped into

A result is the printed text itself or a proper table (`Table.IsProper`): it has rows, all of one
width, and every cell is stripped and free of brackets and commas. This is carried from the texts of
single items to groups and from there to tables. Which of the two it is depends on a few words among
the flags only. Main theorem: `shape_text_or_table`.
-/

namespace DartBlock

namespace Table

/-- A table as results are: rows of one width, which is not zero, and cells without blanks at their
ends, brackets and commas. -/
structure IsProper (rows : Table) : Prop where
  ne_nil : rows ≠ []
  width : ∃ width, 0 < width ∧ ∀ row ∈ rows, row.length = width
  cells : ∀ row ∈ rows, ∀ cell ∈ row, IsCell cell

/-! ## Cells of a text -/

theorem IsSegment.isCell {seg : List Char} {cell : String}
    (h : IsSegment seg (cellNode cell)) : IsCell cell := by
  generalize hnode : cellNode cell = node at h
  cases h with
  | cell _ plain =>
    have text : cell.toList = Text.strip seg := (Node.cell.inj hnode)
    rw [IsCell, text]
    exact ⟨Text.strip_strip seg, fun c hc ↦ plain c (Text.strip_subset seg hc)⟩
  | group => cases hnode

/-- What is around a nested group does not matter. -/
theorem IsSegment.exists_isGroup {seg : List Char} {items : List Node}
    (h : IsSegment seg (.group items)) : ∃ text, IsGroup text items := by
  cases h with
  | group _ group _ => exact ⟨_, group⟩

theorem AreSegments.exists_isSegment {segs : List (List Char)} {items : List Node}
    (h : AreSegments segs items) : ∀ item ∈ items, ∃ seg, IsSegment seg item := by
  induction items generalizing segs with
  | nil => simp
  | cons item items ih =>
    cases h with
    | cons first others => exact List.forall_mem_cons.mpr ⟨⟨_, first⟩, ih others⟩

theorem IsGroup.exists_isSegment {text : List Char} {items : List Node} (h : IsGroup text items) :
    ∀ item ∈ items, ∃ seg, IsSegment seg item := by
  cases h with
  | empty => simp
  | filled _ parts => exact parts.exists_isSegment

theorem IsGroup.isCell {text : List Char} {row : List String}
    (h : IsGroup text (row.map cellNode)) : ∀ cell ∈ row, IsCell cell := by
  intro cell hcell
  obtain ⟨seg, hseg⟩ := h.exists_isSegment _ (List.mem_map_of_mem hcell)
  exact hseg.isCell

theorem Shows.isProper {text : List Char} {rows : Table} (h : Shows text rows) :
    rows.IsProper := by
  cases h with
  | @row row group ne =>
    exact {
      ne_nil := List.cons_ne_nil _ _
      width := ⟨row.length, List.length_pos_iff.mpr ne, List.forall_mem_singleton.mpr rfl⟩
      cells := List.forall_mem_singleton.mpr group.isCell }
  | @grid rows width group ne nes widths =>
    refine { ne_nil := ne, width := ⟨width, ?_, widths⟩, cells := fun row hrow ↦ ?_ }
    · obtain ⟨row, rows, rfl⟩ := List.exists_cons_of_ne_nil ne
      rw [← widths row List.mem_cons_self]
      exact List.length_pos_iff.mpr (nes row List.mem_cons_self)
    · obtain ⟨seg, hseg⟩ := group.exists_isSegment _ (List.mem_map_of_mem hrow)
      obtain ⟨inner, hinner⟩ := hseg.exists_isGroup
      exact hinner.isCell

theorem isProper_of_read? {t : String} {rows : Table} (h : read? t = some rows) :
    rows.IsProper :=
  (shows_iff.mpr (read?_eq_some_iff.mp h)).isProper

end Table

/-! ## Flags -/

/-- A flag is the word, whatever the case of its letters. -/
def AsksFor (flags : List String) (word : String) : Prop := ∃ flag ∈ flags, flag.lowercased = word

instance (flags : List String) (word : String) : Decidable (AsksFor flags word) :=
  inferInstanceAs (Decidable (∃ flag ∈ flags, flag.lowercased = word))

/-- The flags ask for the text: always by some words, and by others unless a table is asked for as
well. -/
def AsksForText (flags : List String) : Prop :=
  (∃ word ∈ ["scalar", "verbatim", "html", "code", "pp", "file"], AsksFor flags word) ∨
    (∃ word ∈ ["raw", "org", "drawer"], AsksFor flags word) ∧
      ¬∃ word ∈ ["table", "vector"], AsksFor flags word

def flagWords : List String := scalarFlags ++ textFlags ++ tableFlags

theorem any_lowercased_iff {flags words : List String} :
    (flags.map String.lowercased).any words.contains = true ↔
      ∃ word ∈ words, AsksFor flags word := by
  simp only [List.any_map, List.any_eq_true, Function.comp_apply, List.contains_iff_mem, AsksFor]
  constructor
  · rintro ⟨flag, hflag, hword⟩
    exact ⟨_, hword, flag, hflag, rfl⟩
  · rintro ⟨_, hword, flag, hflag, rfl⟩
    exact ⟨flag, hflag, hword⟩

theorem wantsScalar_iff {flags : List String} : wantsScalar flags = true ↔ AsksForText flags := by
  rw [wantsScalar, Bool.or_eq_true, Bool.and_eq_true, Bool.not_eq_true', ← Bool.not_eq_true,
    any_lowercased_iff, any_lowercased_iff, any_lowercased_iff]
  rfl

/-- Flags with the same words that count ask for the same. -/
theorem asksForText_congr {flags flags' : List String}
    (h : ∀ word ∈ flagWords, AsksFor flags word ↔ AsksFor flags' word) :
    AsksForText flags ↔ AsksForText flags' := by
  have among {words : List String} (sub : words ⊆ flagWords) :
      (∃ word ∈ words, AsksFor flags word) ↔ ∃ word ∈ words, AsksFor flags' word :=
    exists_congr fun word ↦ and_congr_right fun hword ↦ h word (sub hword)
  exact or_congr (among (by decide)) (and_congr (among (by decide)) (not_congr (among (by decide))))

/-! ## Results -/

theorem shape_of_wantsScalar {flags : List String} (h : wantsScalar flags = true)
    (text : String) : shape flags text = .text text :=
  if_pos h

theorem eq_of_shape_eq_text {flags : List String} {text value : String}
    (h : shape flags text = .text value) : text = value := by
  unfold shape at h
  split_ifs at h
  · exact Shaped.text.inj h
  · split at h
    · cases h
    · exact Shaped.text.inj h

theorem shape_of_asksForText {flags : List String} (h : AsksForText flags) (text : String) :
    shape flags text = .text text :=
  shape_of_wantsScalar (wantsScalar_iff.mpr h) text

/-- Without flags that ask for the text, flags make no difference. -/
theorem shape_of_not_asksForText {flags : List String} (h : ¬AsksForText flags) (text : String) :
    shape flags text = shape [] text := by
  have none : wantsScalar [] = false := rfl
  rw [shape, shape, if_neg (mt wantsScalar_iff.mp h), none, if_neg Bool.false_ne_true]

theorem shape_congr {flags flags' : List String}
    (h : ∀ word ∈ flagWords, AsksFor flags word ↔ AsksFor flags' word) (text : String) :
    shape flags text = shape flags' text := by
  by_cases asks : AsksForText flags
  · rw [shape_of_asksForText asks, shape_of_asksForText ((asksForText_congr h).mp asks)]
  · rw [shape_of_not_asksForText asks,
      shape_of_not_asksForText (mt (asksForText_congr h).mpr asks)]

/-- **A result is the text or a proper table.** Whatever the text and the flags are, the result is
the text as it was or a proper table, the first row of which can be asked for its width. It is the
text if the flags ask for it and else what it is without flags; so it depends on nothing but which
of the words that count are among the flags. -/
theorem shape_text_or_table (flags : List String) (text : String) :
    (shape flags text = .text text ∨ ∃ rows row, shape flags text = .table rows ∧
      rows.IsProper ∧ rows.head? = some row ∧
      (shape flags text).note? = some (.table rows.length row.length)) ∧
    (AsksForText flags → shape flags text = .text text) ∧
    (¬AsksForText flags → shape flags text = shape [] text) ∧
    ∀ flags', (∀ word ∈ flagWords, AsksFor flags word ↔ AsksFor flags' word) →
      shape flags text = shape flags' text := by
  refine ⟨?_, fun h ↦ shape_of_asksForText h text, fun h ↦ shape_of_not_asksForText h text,
    fun flags' h ↦ shape_congr h text⟩
  unfold shape
  split_ifs
  · exact .inl rfl
  · split
    · rename_i rows read
      have proper := Table.isProper_of_read? read
      obtain ⟨row, rest, rfl⟩ := List.exists_cons_of_ne_nil proper.ne_nil
      exact .inr ⟨_, row, rfl, proper, rfl, rfl⟩
    · exact .inl rfl

/-- A word for the text beside one for a table, an unknown one, and one that is given twice. -/
theorem shape_text_or_table_drawer :
    ¬AsksForText ["Drawer", "TABLE", "x", "table"] ∧
      (∀ word ∈ flagWords, AsksFor ["Drawer", "TABLE", "x", "table"] word ↔
        AsksFor ["table", "DRAWER"] word) ∧
      shape ["Drawer", "TABLE", "x", "table"] "[[a, ], (b, c)]" =
        .table [["a", ""], ["b", "c"]] ∧
      shape ["table", "DRAWER"] "[[a, ], (b, c)]" = .table [["a", ""], ["b", "c"]] ∧
      shape ["verbatim", "table"] "[[a, ], (b, c)]" = .text "[[a, ], (b, c)]" := by
  have asks : ¬AsksForText ["Drawer", "TABLE", "x", "table"] := by
    rw [← wantsScalar_iff]
    decide +kernel
  have same : ∀ word ∈ flagWords, AsksFor ["Drawer", "TABLE", "x", "table"] word ↔
      AsksFor ["table", "DRAWER"] word := by
    decide +kernel
  have table : shape [] "[[a, ], (b, c)]" = .table [["a", ""], ["b", "c"]] := by decide +kernel
  have keeps : AsksForText ["verbatim", "table"] := by
    rw [← wantsScalar_iff]
    decide +kernel
  obtain ⟨-, -, plain, congr⟩ :=
    shape_text_or_table ["Drawer", "TABLE", "x", "table"] "[[a, ], (b, c)]"
  refine ⟨asks, same, (plain asks).trans table, ?_, (shape_text_or_table _ _).2.1 keeps⟩
  rw [← congr _ same, plain asks, table]

end DartBlock
