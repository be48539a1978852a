import DartBlock.Proofs.Text.Blank
import DartBlock.Table.Reader
import Mathlib.Tactic.SplitIfs

/-!
# Groups by bracket depth

What a printed group is, said without reading it from left to right: brackets of one kind around
a content, which is cut at the commas that no nested group holds. Each piece is a cell or a
nested group with gaps around it.

* `segments` cuts a content by counting the brackets that are open.
* `IsGroup`, `IsSegment` and `AreSegments` are the texts of groups and of their pieces, with
  the nodes they stand for.
* `Shows` says which groups are tables, and of which cells.
-/

namespace DartBlock.Table

/-! ## Gaps and plain text -/

/-- White space, without the information separators, and nothing else. -/
def IsGaps (cs : List Char) : Prop :=
  ∀ c ∈ cs, Text.isBlank c ∧ ¬(0x1C ≤ c.toNat ∧ c.toNat ≤ 0x1F)

def IsPlain (cs : List Char) : Prop := ∀ c ∈ cs, isDelimiter c = false

theorem isGaps_iff {cs : List Char} : IsGaps cs ↔ ∀ c ∈ cs, Text.isGap c := by
  simp only [IsGaps, Text.isGap_iff]

theorem isGaps_nil : IsGaps [] := by simp [IsGaps]

theorem eq_of_isDelimiter {c : Char} (h : isDelimiter c) :
    c = ',' ∨ (∃ b : Bracket, c = b.opening) ∨ ∃ b : Bracket, c = b.closing := by
  simp only [isDelimiter, Bool.or_eq_true, beq_iff_eq] at h
  obtain (((((rfl | rfl) | rfl) | rfl) | rfl) | rfl) | rfl := h
  · exact .inl rfl
  · exact .inr (.inl ⟨.round, rfl⟩)
  · exact .inr (.inr ⟨.round, rfl⟩)
  · exact .inr (.inl ⟨.square, rfl⟩)
  · exact .inr (.inr ⟨.square, rfl⟩)
  · exact .inr (.inl ⟨.curly, rfl⟩)
  · exact .inr (.inr ⟨.curly, rfl⟩)

theorem isBlank_of_isDelimiter {c : Char} (h : isDelimiter c) : Text.isBlank c = false := by
  obtain rfl | ⟨b, rfl⟩ | ⟨b, rfl⟩ := eq_of_isDelimiter h
  · decide
  · cases b <;> decide
  · cases b <;> decide

theorem isGap_of_isDelimiter {c : Char} (h : isDelimiter c) : Text.isGap c = false := by
  by_contra hc
  rw [Bool.not_eq_false] at hc
  cases (isBlank_of_isDelimiter h).symm.trans (Text.isBlank_of_isGap hc)

theorem isPlain_of_isBlank {cs : List Char} (h : ∀ c ∈ cs, Text.isBlank c) : IsPlain cs := by
  intro c hc
  by_contra delimits
  rw [Bool.not_eq_false] at delimits
  cases (isBlank_of_isDelimiter delimits).symm.trans (h c hc)

theorem IsGaps.append {cs ds : List Char} (h : IsGaps cs) (h' : IsGaps ds) : IsGaps (cs ++ ds) :=
  List.forall_mem_append.2 ⟨h, h'⟩

theorem IsGaps.isPlain {cs : List Char} (h : IsGaps cs) : IsPlain cs :=
  isPlain_of_isBlank fun c hc ↦ (h c hc).1

namespace Bracket

theorem isDelimiter_opening (b : Bracket) : isDelimiter b.opening := by cases b <;> rfl

theorem isDelimiter_closing (b : Bracket) : isDelimiter b.closing := by cases b <;> rfl

theorem ofOpening?_closing (b : Bracket) : ofOpening? b.closing = none := by cases b <;> rfl

theorem opening_of_ofOpening? {b : Bracket} {c : Char} (h : ofOpening? c = some b) :
    c = b.opening := by
  unfold ofOpening? at h
  split_ifs at h <;> cases h <;> assumption

theorem ofOpening?_of_plain {c : Char} (h : isDelimiter c = false) : ofOpening? c = none := by
  cases hc : ofOpening? c with
  | none => rfl
  | some b =>
    rw [opening_of_ofOpening? hc, isDelimiter_opening] at h
    cases h

def enclose (b : Bracket) (content : List Char) : List Char :=
  b.opening :: (content ++ [b.closing])

theorem enclose_append (b : Bracket) (content cs : List Char) :
    b.enclose content ++ cs = b.opening :: (content ++ b.closing :: cs) := by
  simp [enclose]

theorem isGap_opening (b : Bracket) : Text.isGap b.opening = false :=
  isGap_of_isDelimiter b.isDelimiter_opening

theorem isGap_closing (b : Bracket) : Text.isGap b.closing = false :=
  isGap_of_isDelimiter b.isDelimiter_closing

/-- A text between brackets has no blanks at its ends. -/
theorem strip_enclose (b : Bracket) (content : List Char) :
    Text.strip (b.enclose content) = b.enclose content := by
  apply Text.strip_eq_self
  · rintro c ⟨⟩
    exact isBlank_of_isDelimiter b.isDelimiter_opening
  · intro c hc
    rw [enclose, ← List.cons_append, List.getLast?_append, List.getLast?_singleton] at hc
    cases hc
    exact isBlank_of_isDelimiter b.isDelimiter_closing

/-- The bracket in front and the content can be told from the text. -/
theorem enclose_inj {b b' : Bracket} {content content' : List Char}
    (h : b.enclose content = b'.enclose content') : b = b' ∧ content = content' := by
  rw [enclose, enclose, List.cons.injEq] at h
  obtain ⟨opens, h⟩ := h
  have same : some b = some b' := by
    rw [← ofOpening?_opening b, opens, ofOpening?_opening]
  exact ⟨Option.some.inj same, (List.append_inj' h rfl).1⟩

end Bracket

theorem IsPlain.opening_not_mem {cs : List Char} (h : IsPlain cs) (b : Bracket) :
    b.opening ∉ cs := by
  intro opens
  have plain := h b.opening opens
  rw [b.isDelimiter_opening] at plain
  cases plain

/-! ## Segments -/

/-- How many groups are open after a character, if `d` are open before it. -/
def depthAfter (d : Nat) (c : Char) : Nat :=
  if c = '(' ∨ c = '[' ∨ c = '{' then d + 1
  else if c = ')' ∨ c = ']' ∨ c = '}' then d - 1
  else d

/-- Cuts a text that begins inside `d` groups at the commas outside all of them. -/
def cut : Nat → List Char → List (List Char)
  | _, [] => [[]]
  | d, c :: cs =>
    if c = ',' ∧ d = 0 then [] :: cut d cs
    else (cut (depthAfter d c) cs).modifyHead (c :: ·)

/-- The pieces of a content between the commas that no nested group holds. -/
def segments (content : List Char) : List (List Char) := cut 0 content

mutual

/-- The texts of groups, with what the groups hold. -/
inductive IsGroup : List Char → List Node → Prop
  | /-- Gaps between brackets are an empty group. -/
    empty (b : Bracket) {content : List Char} : IsGaps content → IsGroup (b.enclose content) []
  | /-- Any other content is cut into segments; a cell in front is not blank. -/
    filled (b : Bracket) {content : List Char} {items : List Node} :
      AreSegments (segments content) items →
      (∀ seg ∈ (segments content).head?, IsPlain seg → ¬IsGaps seg) →
      IsGroup (b.enclose content) items

/-- The texts of single items. -/
inductive IsSegment : List Char → Node → Prop
  | /-- A cell is worth its text without the blanks at the ends. -/
    cell {text : List Char} : text ≠ [] → IsPlain text → IsSegment text (.cell (Text.strip text))
  | /-- A nested group may have gaps around it. -/
    group {before text after : List Char} {items : List Node} :
      IsGaps before → IsGroup text items → IsGaps after →
      IsSegment (before ++ text ++ after) (.group items)

inductive AreSegments : List (List Char) → List Node → Prop
  | /-- No items. -/
    nil : AreSegments [] []
  | /-- One more item. -/
    cons {seg : List Char} {segs : List (List Char)} {item : Node} {items : List Node} :
      IsSegment seg item → AreSegments segs items → AreSegments (seg :: segs) (item :: items)

end

/-- What the text between two brackets is, if it is a group with them. -/
theorem isGroup_enclose_iff {b : Bracket} {content : List Char} {items : List Node} :
    IsGroup (b.enclose content) items ↔
      IsGaps content ∧ items = [] ∨
        AreSegments (segments content) items ∧
          ∀ seg ∈ (segments content).head?, IsPlain seg → ¬IsGaps seg := by
  constructor
  · intro h
    generalize htext : b.enclose content = text at h
    cases h with
    | empty b' gaps =>
      obtain ⟨rfl, rfl⟩ := Bracket.enclose_inj htext
      exact .inl ⟨gaps, rfl⟩
    | filled b' parts first =>
      obtain ⟨rfl, rfl⟩ := Bracket.enclose_inj htext
      exact .inr ⟨parts, first⟩
  · rintro (⟨gaps, rfl⟩ | ⟨parts, first⟩)
    · exact .empty b gaps
    · exact .filled b parts first

theorem IsGroup.exists_enclose {text : List Char} {items : List Node} (h : IsGroup text items) :
    ∃ (b : Bracket) (content : List Char), text = b.enclose content := by
  cases h with
  | empty b _ => exact ⟨b, _, rfl⟩
  | filled b _ _ => exact ⟨b, _, rfl⟩

theorem IsGroup.isSegment {text : List Char} {items : List Node} (h : IsGroup text items) :
    IsSegment text (.group items) := by
  have := IsSegment.group isGaps_nil h isGaps_nil
  rwa [List.append_nil] at this

/-! ## Tables -/

def cellNode (cell : String) : Node := .cell cell.toList

def rowNode (row : List String) : Node := .group (row.map cellNode)

/-- The texts that show a table, with the table. -/
inductive Shows : List Char → Table → Prop
  | /-- A group of cells shows a table of one row. -/
    row {text : List Char} {row : List String} :
      IsGroup text (row.map cellNode) → row ≠ [] → Shows text [row]
  | /-- A group of groups of cells shows a table, if the groups are of one width and not empty. -/
    grid {text : List Char} {rows : Table} {width : Nat} :
      IsGroup text (rows.map rowNode) → rows ≠ [] → (∀ row ∈ rows, row ≠ []) →
      (∀ row ∈ rows, row.length = width) → Shows text rows

end DartBlock.Table
