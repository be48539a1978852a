import DartBlock.Proofs.Table.Shown

/-!
# Reading printed tables back

A list is printed between brackets of any kind, with a comma and a space between its elements,
and a table is printed as the list of its printed rows. The space keeps a blank cell readable
where a comma comes before it; at the start of a row nothing does. So a printed table is read
back exactly if the first cell of every row has text: `read?_print`.
-/

namespace DartBlock.Table

/-! ## Printing -/

/-- A list of texts, printed between brackets. -/
def print (b : Bracket) (texts : List String) : String :=
  String.singleton b.opening ++ ", ".intercalate texts ++ String.singleton b.closing

def printRow (row : Bracket × List String) : String := print row.1 row.2

/-- The text of a cell: stripped, and without brackets and commas. -/
def IsCell (cell : String) : Prop :=
  Text.strip cell.toList = cell.toList ∧ IsPlain cell.toList

instance (cell : String) : Decidable (IsCell cell) :=
  decidable_of_iff
    (Text.strip cell.toList = cell.toList ∧ cell.toList.all fun c ↦ !isDelimiter c)
    (by simp [IsCell, IsPlain])

/-- The segments of texts that are put together with commas and spaces. -/
def spaced : List (List Char) → List (List Char)
  | [] => []
  | text :: texts => text :: texts.map (' ' :: ·)

theorem intercalate_spaced (texts : List (List Char)) :
    [',', ' '].intercalate texts = [','].intercalate (spaced texts) := by
  induction texts with
  | nil => rfl
  | cons text texts ih =>
    cases texts with
    | nil => simp [spaced]
    | cons text' texts =>
      rw [List.intercalate_cons_cons, ih]
      simp [spaced]

theorem toList_print (b : Bracket) (texts : List String) :
    (print b texts).toList = b.enclose ([','].intercalate (spaced (texts.map String.toList))) := by
  simp [print, Bracket.enclose, ← intercalate_spaced, String.toList_intercalate]

theorem strip_print (b : Bracket) (texts : List String) :
    Text.strip (print b texts).toList = (print b texts).toList := by
  rw [toList_print, b.strip_enclose]

/-! ## Cells and rows that are read back -/

theorem isGaps_space : IsGaps [' '] := by simp [isGaps_iff, Text.isGap]

theorem IsSegment.space_cons {seg : List Char} {item : Node} (h : IsSegment seg item) :
    IsSegment (' ' :: seg) item := h.gaps_append isGaps_space

/-- After a space, every cell is an item. -/
theorem IsCell.isSegment_space {cell : String} (h : IsCell cell) :
    IsSegment (' ' :: cell.toList) (cellNode cell) := by
  have stripped : Text.strip (' ' :: cell.toList) = cell.toList := by
    rw [← List.singleton_append, Text.strip_append_left fun c hc ↦ (isGaps_space c hc).1, h.1]
  have plain : IsPlain (' ' :: cell.toList) := List.forall_mem_cons.2 ⟨rfl, h.2⟩
  have := IsSegment.cell (List.cons_ne_nil ' ' cell.toList) plain
  rwa [stripped] at this

theorem IsCell.isSegment {cell : String} (h : IsCell cell) (ne : cell ≠ "") :
    IsSegment cell.toList (cellNode cell) := by
  have := IsSegment.cell (by simpa using ne) h.2
  rwa [h.1] at this

theorem IsCell.not_isGaps {cell : String} (h : IsCell cell) (ne : cell ≠ "") :
    ¬IsGaps cell.toList := by
  intro gaps
  have blank : Text.strip (cell.toList ++ []) = Text.strip [] :=
    Text.strip_append_left fun c hc ↦ (gaps c hc).1
  rw [List.append_nil, h.1] at blank
  exact ne (String.toList_eq_nil_iff.1 blank)

theorem AreSegments.map {α : Type} {text : α → List Char} {node : α → Node} {xs : List α}
    (h : ∀ x ∈ xs, IsSegment (text x) (node x)) : AreSegments (xs.map text) (xs.map node) := by
  induction xs with
  | nil => exact .nil
  | cons x xs ih =>
    obtain ⟨hx, hxs⟩ := List.forall_mem_cons.1 h
    exact .cons hx (ih hxs)

/-- A printed list is a group if its first text is an item that is no blank cell, and the others
are items after a space. -/
theorem isGroup_print {α : Type} (b : Bracket) (text : α → String) (node : α → Node) {x : α}
    {xs : List α} (first : IsSegment (text x).toList (node x))
    (visible : IsPlain (text x).toList → ¬IsGaps (text x).toList)
    (others : ∀ y ∈ xs, IsSegment (' ' :: (text y).toList) (node y)) :
    IsGroup (print b ((x :: xs).map text)).toList ((x :: xs).map node) := by
  have parts := AreSegments.cons first (AreSegments.map others)
  have cuts := segments_intercalate parts.uncut (List.cons_ne_nil _ _)
  have spaces : spaced (((x :: xs).map text).map String.toList) =
      (text x).toList :: xs.map fun y ↦ ' ' :: (text y).toList := by
    simp [spaced]
  rw [toList_print, spaces]
  refine .filled b (by rwa [cuts]) ?_
  rw [cuts]
  rintro _ ⟨⟩
  exact visible

theorem isGroup_print_row (b : Bracket) {row : List String} (cells : ∀ cell ∈ row, IsCell cell)
    (first : row.headD "" ≠ "") : IsGroup (print b row).toList (row.map cellNode) := by
  cases row with
  | nil => exact absurd rfl first
  | cons cell row =>
    obtain ⟨hcell, hrow⟩ := List.forall_mem_cons.1 cells
    have := isGroup_print b id cellNode (hcell.isSegment first)
      (fun _ ↦ hcell.not_isGaps first) fun y hy ↦ (hrow y hy).isSegment_space
    rwa [List.map_id] at this

/-! ## Rows that are not -/

/-- A printed row whose first cell is blank shows no cells. -/
theorem items_of_isGroup_print_row {b : Bracket} {row : List String} {items : List Node}
    (first : row.headD "" = "") (h : IsGroup (print b row).toList items) : items = [] := by
  rw [toList_print, isGroup_enclose_iff] at h
  obtain ⟨-, rfl⟩ | ⟨parts, -⟩ := h
  · rfl
  -- The content is empty or starts with a comma, so its first segment has no character.
  have cuts : ∃ segs, segments ([','].intercalate (spaced (row.map String.toList))) =
      [] :: segs := by
    rw [← intercalate_spaced]
    match row, first with
    | [], _ => exact ⟨[], rfl⟩
    | [_], rfl => exact ⟨[], rfl⟩
    | _ :: cell :: row, rfl => exact ⟨_, cut_comma _⟩
  obtain ⟨segs, hsegs⟩ := cuts
  rw [hsegs] at parts
  cases parts with
  | cons none _ => exact absurd rfl none.ne_nil

/-- Between gaps, a text in brackets is an item only if it is a group. -/
theorem IsSegment.of_enclose {gaps content : List Char} {b : Bracket} {item : Node}
    (hgaps : IsGaps gaps) (h : IsSegment (gaps ++ b.enclose content) item) :
    ∃ items, item = .group items ∧ IsGroup (b.enclose content) items := by
  generalize htext : gaps ++ b.enclose content = text at h
  cases h with
  | cell _ plain =>
    exact absurd (by simp [← htext, Bracket.enclose]) (plain.opening_not_mem b)
  | @group before text after items hbefore group hafter =>
    refine ⟨items, rfl, ?_⟩
    obtain ⟨b', content', rfl⟩ := group.exists_enclose
    have same : b.enclose content = b'.enclose content' ++ after := by
      have front := hgaps.dropWhile_enclose b content []
      rw [List.append_nil, htext, List.append_assoc, hbefore.dropWhile_enclose] at front
      exact front.symm
    -- The bracket that closes the text is no gap, so nothing stands behind the group.
    cases after using List.reverseRecOn with
    | nil => rwa [same, List.append_nil]
    | append_singleton after c =>
      rw [Bracket.enclose, ← List.cons_append, ← List.append_assoc] at same
      have closes := List.cons.inj (List.append_inj' same rfl).2
      have gap := isGaps_iff.1 hafter c (by simp)
      rw [← closes.1, b.isGap_closing] at gap
      cases gap

theorem AreSegments.exists_mem {segs : List (List Char)} {items : List Node}
    (h : AreSegments segs items) : ∀ seg ∈ segs, ∃ item ∈ items, IsSegment seg item := by
  induction segs generalizing items with
  | nil => simp
  | cons seg segs ih =>
    cases h with
    | cons first others =>
      refine List.forall_mem_cons.2 ⟨⟨_, List.mem_cons_self, first⟩, fun seg' hseg' ↦ ?_⟩
      obtain ⟨item, hitem, h⟩ := ih others seg' hseg'
      exact ⟨item, List.mem_cons_of_mem _ hitem, h⟩

/-- Texts that stay in one piece do so after a space. -/
theorem uncut_spaced {texts : List (List Char)} (h : ∀ text ∈ texts, Uncut text) :
    ∀ seg ∈ spaced texts, Uncut seg := by
  cases texts with
  | nil => simp [spaced]
  | cons text texts =>
    obtain ⟨htext, htexts⟩ := List.forall_mem_cons.1 h
    refine List.forall_mem_cons.2 ⟨htext, List.forall_mem_map.2 fun text' hmem d ↦ ?_⟩
    exact (isGaps_space.isPlain.uncut d).append (htexts text' hmem d)

theorem exists_gaps_append_mem_spaced {texts : List (List Char)} {text : List Char}
    (h : text ∈ texts) : ∃ gaps, IsGaps gaps ∧ gaps ++ text ∈ spaced texts := by
  cases h with
  | head => exact ⟨[], isGaps_nil, List.mem_cons_self⟩
  | tail _ h => exact ⟨[' '], isGaps_space, List.mem_cons_of_mem _ (List.mem_map_of_mem h)⟩

theorem uncut_print_row (b : Bracket) {row : List String} (cells : ∀ cell ∈ row, IsCell cell) :
    Uncut (print b row).toList := by
  rw [toList_print]
  refine .enclose b (uncutAt_intercalate (uncut_spaced (List.forall_mem_map.2 ?_)))
  exact fun cell hcell ↦ (cells cell hcell).2.uncut

/-- Rows of which one has a blank cell in front make up no table. -/
theorem ofItems?_of_isGroup_print_rows {outer : Bracket} {rows : List (Bracket × List String)}
    {row : Bracket × List String} {items : List Node}
    (cells : ∀ row ∈ rows, ∀ cell ∈ row.2, IsCell cell) (hrow : row ∈ rows)
    (first : row.2.headD "" = "")
    (h : IsGroup (print outer (rows.map printRow)).toList items) :
    ofItems? items = none := by
  rw [toList_print, List.map_map, isGroup_enclose_iff] at h
  obtain ⟨-, rfl⟩ | ⟨parts, -⟩ := h
  · rfl
  obtain ⟨gaps, hgaps, mem⟩ := exists_gaps_append_mem_spaced
    (List.mem_map_of_mem (f := String.toList ∘ printRow) hrow)
  have uncut : ∀ seg ∈ spaced (rows.map (String.toList ∘ printRow)), Uncut seg :=
    uncut_spaced (List.forall_mem_map.2 fun row hrow ↦ uncut_print_row row.1 (cells row hrow))
  rw [segments_intercalate uncut (List.ne_nil_of_mem mem)] at parts
  obtain ⟨item, hitem, seg⟩ := parts.exists_mem _ mem
  rw [Function.comp_apply, printRow, toList_print] at seg
  obtain ⟨none, rfl, group⟩ := seg.of_enclose hgaps
  rw [← toList_print] at group
  cases items_of_isGroup_print_row first group
  -- Neither a row of cells nor a table of rows has an empty group.
  rw [Option.eq_none_iff_forall_ne_some]
  intro table h
  obtain ⟨cells, -, rfl, -⟩ | ⟨-, rfl, nes, -⟩ := ofItems?_eq_some_iff.1 h
  · obtain ⟨cell, -, eq⟩ := List.mem_map.1 hitem
    cases eq
  · obtain ⟨row, hmem, eq⟩ := List.mem_map.1 hitem
    exact nes row hmem (List.map_eq_nil_iff.1 (Node.group.inj eq))

theorem isGroup_print_rows (outer : Bracket) {rows : List (Bracket × List String)}
    (ne : rows ≠ []) (cells : ∀ row ∈ rows, ∀ cell ∈ row.2, IsCell cell)
    (first : ∀ row ∈ rows, row.2.headD "" ≠ "") :
    IsGroup (print outer (rows.map printRow)).toList
      (rows.map fun row ↦ rowNode row.2) := by
  have items (row) (hrow : row ∈ rows) :
      IsSegment (printRow row).toList (rowNode row.2) :=
    (isGroup_print_row row.1 (cells row hrow) (first row hrow)).isSegment
  obtain ⟨row, rest, rfl⟩ := List.exists_cons_of_ne_nil ne
  obtain ⟨hrow, hrest⟩ := List.forall_mem_cons.1 items
  refine isGroup_print outer printRow (fun row ↦ rowNode row.2) hrow ?_
    fun y hy ↦ (hrest y hy).space_cons
  intro plain
  rw [printRow, toList_print] at plain
  exact absurd List.mem_cons_self (plain.opening_not_mem row.1)

/-! ## Reading back -/

theorem read?_print_eq_some {b : Bracket} {texts : List String} {items : List Node}
    {rows : Table} (group : IsGroup (print b texts).toList items)
    (h : ofItems? items = some rows) : read? (print b texts) = some rows := by
  rw [read?_eq_some_iff, strip_print]
  exact ⟨items, group, h⟩

theorem read?_print_eq_none {b : Bracket} {texts : List String}
    (h : ∀ items, IsGroup (print b texts).toList items → ofItems? items = none) :
    read? (print b texts) = none := by
  rw [Option.eq_none_iff_forall_ne_some]
  intro rows read
  obtain ⟨items, group, some⟩ := read?_eq_some_iff.1 read
  rw [strip_print] at group
  rw [h items group] at some
  cases some

/-- **Reading back what was printed.**  A printed table of cells, with brackets of any kinds, is
read back if the first cell of every row has text, and is read as no table otherwise. So is a
single printed row. -/
theorem read?_print :
    (∀ (outer : Bracket) (rows : List (Bracket × List String)) (width : Nat), rows ≠ [] →
      (∀ row ∈ rows, row.2.length = width) → (∀ row ∈ rows, ∀ cell ∈ row.2, IsCell cell) →
      read? (print outer (rows.map printRow)) =
        if ∀ row ∈ rows, row.2.headD "" ≠ "" then some (rows.map Prod.snd) else none) ∧
    ∀ (b : Bracket) (row : List String), (∀ cell ∈ row, IsCell cell) →
      read? (print b row) = if row.headD "" ≠ "" then some [row] else none := by
  constructor
  · intro outer rows width ne rectangle cells
    split
    case isTrue first =>
      have items : (rows.map fun row ↦ rowNode row.2) = (rows.map Prod.snd).map rowNode := by
        rw [List.map_map]
        rfl
      refine read?_print_eq_some (isGroup_print_rows outer ne cells first)
        (ofItems?_eq_some_iff.2 (.inr ⟨?_, items, ?_, width, List.forall_mem_map.2 rectangle⟩))
      · exact fun nil ↦ ne (List.map_eq_nil_iff.1 nil)
      · refine List.forall_mem_map.2 fun row hrow nil ↦ first row hrow ?_
        rw [nil]
        rfl
    case isFalse first =>
      simp only [not_forall, not_not] at first
      obtain ⟨row, hrow, first⟩ := first
      exact read?_print_eq_none fun items ↦ ofItems?_of_isGroup_print_rows cells hrow first
  · intro b row cells
    split
    case isTrue first =>
      refine read?_print_eq_some (isGroup_print_row b cells first)
        (ofItems?_eq_some_iff.2 (.inl ⟨row, ?_, rfl, rfl⟩))
      rintro rfl
      exact first rfl
    case isFalse first =>
      refine read?_print_eq_none fun items group ↦ ?_
      rw [items_of_isGroup_print_row (not_not.1 first) group]
      rfl

/-- A blank cell and a line break inside a cell are read back, and brackets may be mixed; a blank
cell in front of a row is not read. -/
theorem read?_print_mixed :
    let rows := [(Bracket.square, ["a", ""]), (Bracket.round, ["b c", "1\n2"])]
    (∀ row ∈ rows, row.2.length = 2) ∧ (∀ row ∈ rows, ∀ cell ∈ row.2, IsCell cell) ∧
      read? (print .curly (rows.map printRow)) = some [["a", ""], ["b c", "1\n2"]] ∧
      (∀ cell ∈ ["", "x"], IsCell cell) ∧ read? (print .round ["", "x"]) = none := by
  have rectangle : ∀ row ∈ [(Bracket.square, ["a", ""]), (Bracket.round, ["b c", "1\n2"])],
      row.2.length = 2 := by decide
  have cells : ∀ row ∈ [(Bracket.square, ["a", ""]), (Bracket.round, ["b c", "1\n2"])],
      ∀ cell ∈ row.2, IsCell cell := by decide
  have blank : ∀ cell ∈ ["", "x"], IsCell cell := by decide
  refine ⟨rectangle, cells, ?_, blank, read?_print.2 .round ["", "x"] blank⟩
  exact read?_print.1 .curly _ 2 (List.cons_ne_nil _ _) rectangle cells

end DartBlock.Table
