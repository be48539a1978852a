import DartBlock.Proofs.Table.Segments
import DartBlock.Proofs.Text.Run

/-!
# What the readers read

The readers of items and groups agree with the texts of `IsSegment` and `IsGroup`.

* `readItem_sound`: what a reader takes from the front of a text is the text of what it returns.
* `IsSegment.readItem`: with enough steps, the text of an item is read in full, whatever follows
  it, as long as no item could go on there.

Both go along the readers: an item may be a group, a group has items, and items are read one by
one. Two inductions meet here, one on the number of steps and one on the text of an item.
-/

namespace DartBlock.Table

/-! ## Where items start and stop -/

theorem exists_gaps (cs : List Char) :
    ∃ gaps, IsGaps gaps ∧ cs = gaps ++ cs.dropWhile Text.isGap := by
  obtain ⟨gaps, hgaps, hcs⟩ := Text.exists_run Text.isGap cs
  exact ⟨gaps, isGaps_iff.2 hgaps, hcs⟩

theorem IsGaps.dropWhile_append {gaps cs : List Char} (h : IsGaps gaps)
    (start : ∀ c ∈ cs.head?, Text.isGap c = false) : (gaps ++ cs).dropWhile Text.isGap = cs :=
  Text.dropWhile_append_of_stop (isGaps_iff.1 h) start

theorem IsGaps.dropWhile_enclose {gaps : List Char} (h : IsGaps gaps) (b : Bracket)
    (content cs : List Char) :
    (gaps ++ (b.enclose content ++ cs)).dropWhile Text.isGap = b.enclose content ++ cs := by
  apply h.dropWhile_append
  rintro c ⟨⟩
  exact b.isGap_opening

/-- Whether an item can be over before a text: the text is empty, or a comma or a closing bracket
comes first. -/
def CanFollow (cs : List Char) : Prop :=
  ∀ c ∈ cs.head?, isDelimiter c ∧ Bracket.ofOpening? c = none

/-- Whether an item can start with a character. -/
def CanStart (c : Char) : Prop := isDelimiter c = false ∨ ∃ b : Bracket, c = b.opening

theorem canFollow_nil : CanFollow [] := by simp [CanFollow]

theorem canFollow_comma (cs : List Char) : CanFollow (',' :: cs) := by
  rintro c ⟨⟩
  exact ⟨rfl, rfl⟩

theorem canFollow_closing (b : Bracket) (cs : List Char) : CanFollow (b.closing :: cs) := by
  rintro c ⟨⟩
  exact ⟨b.isDelimiter_closing, b.ofOpening?_closing⟩

theorem CanFollow.dropWhile_gap {cs : List Char} (h : CanFollow cs) :
    cs.dropWhile Text.isGap = cs :=
  isGaps_nil.dropWhile_append fun c hc ↦ isGap_of_isDelimiter (h c hc).1

theorem IsPlain.span {text rest : List Char} (h : IsPlain text) (follow : CanFollow rest) :
    (text ++ rest).takeWhile (fun c ↦ !isDelimiter c) = text ∧
      (text ++ rest).dropWhile (fun c ↦ !isDelimiter c) = rest := by
  have inside : ∀ c ∈ text, !isDelimiter c := fun c hc ↦ by simp [h c hc]
  have stop : ∀ c ∈ rest.head?, (!isDelimiter c) = false := fun c hc ↦ by simp [(follow c hc).1]
  exact ⟨Text.takeWhile_append_of_stop inside stop, Text.dropWhile_append_of_stop inside stop⟩

@[simp] theorem openGroup?_opening (b : Bracket) (cs : List Char) :
    openGroup? (b.opening :: cs) = some (b, cs) := by
  simp [openGroup?]

theorem openGroup?_eq_some_iff {b : Bracket} {cs inside : List Char} :
    openGroup? cs = some (b, inside) ↔ cs = b.opening :: inside := by
  constructor
  · intro h
    cases cs with
    | nil => cases h
    | cons c cs =>
      obtain ⟨b', hb, eq⟩ := Option.map_eq_some_iff.1 h
      cases eq
      rw [Bracket.opening_of_ofOpening? hb]
  · rintro rfl
    exact openGroup?_opening b inside

/-- Where plain text or the end of an item follows some gaps, no group begins. -/
theorem openGroup?_of_plain {text rest : List Char} (h : IsPlain text) (follow : CanFollow rest) :
    openGroup? ((text ++ rest).dropWhile Text.isGap) = none := by
  rw [List.dropWhile_append]
  split
  case isTrue =>
    rw [follow.dropWhile_gap]
    cases rest with
    | nil => rfl
    | cons c rest => simp [openGroup?, (follow c rfl).2]
  case isFalse ne =>
    obtain ⟨c, cs, hcs⟩ : ∃ c cs, text.dropWhile Text.isGap = c :: cs :=
      List.exists_cons_of_ne_nil fun none ↦ ne (by rw [none]; rfl)
    have plain := h c (Text.mem_of_dropWhile hcs)
    simp [hcs, openGroup?, Bracket.ofOpening?_of_plain plain]

/-! ## Texts of items -/

theorem IsGroup.ne_nil {text : List Char} {items : List Node} (h : IsGroup text items) :
    text ≠ [] := by
  obtain ⟨b, content, rfl⟩ := h.exists_enclose
  exact List.cons_ne_nil _ _

theorem IsSegment.ne_nil {seg : List Char} {item : Node} (h : IsSegment seg item) : seg ≠ [] := by
  cases h with
  | cell ne _ => exact ne
  | group _ group _ => simp [group.ne_nil]

theorem IsSegment.gaps_append {gaps seg : List Char} {item : Node} (hgaps : IsGaps gaps)
    (h : IsSegment seg item) : IsSegment (gaps ++ seg) item := by
  cases h with
  | cell ne plain =>
    rw [← Text.strip_append_left fun c hc ↦ (hgaps c hc).1]
    refine .cell (by simp [ne]) fun c hc ↦ ?_
    rcases List.mem_append.1 hc with hc | hc
    · exact hgaps.isPlain c hc
    · exact plain c hc
  | @group before text after _ hbefore group hafter =>
    simpa using IsSegment.group (hgaps.append hbefore) group hafter

/-- Behind the gaps in front of an item that is no blank cell, the item can start. -/
theorem IsSegment.dropWhile_gap {seg : List Char} {item : Node} (h : IsSegment seg item)
    (visible : IsPlain seg → ¬IsGaps seg) :
    ∃ c cs, seg.dropWhile Text.isGap = c :: cs ∧ CanStart c := by
  cases h with
  | cell _ plain =>
    have ne : seg.dropWhile Text.isGap ≠ [] := fun none ↦
      visible plain (isGaps_iff.2 (List.dropWhile_eq_nil_iff.1 none))
    obtain ⟨c, cs, hcs⟩ := List.exists_cons_of_ne_nil ne
    exact ⟨c, cs, hcs, .inl (plain c (Text.mem_of_dropWhile hcs))⟩
  | @group before text after _ hbefore group _ =>
    obtain ⟨b, content, rfl⟩ := group.exists_enclose
    refine ⟨b.opening, content ++ [b.closing] ++ after, ?_, .inr ⟨b, rfl⟩⟩
    rw [List.append_assoc, hbefore.dropWhile_enclose]
    rfl

theorem exists_intercalate_cons (sep seg : List Char) (segs : List (List Char)) :
    ∃ tail, sep.intercalate (seg :: segs) = seg ++ tail := by
  cases segs with
  | nil => exact ⟨[], by simp⟩
  | cons seg' segs => exact ⟨sep ++ sep.intercalate (seg' :: segs), by simp⟩

/-- Behind the gaps in front of a content that is cut into items, the first of them can start. -/
theorem AreSegments.dropWhile_gap {content : List Char} {items : List Node}
    (h : AreSegments (segments content) items)
    (visible : ∀ seg ∈ (segments content).head?, IsPlain seg → ¬IsGaps seg) (rest : List Char) :
    ∃ c behind, (content ++ rest).dropWhile Text.isGap = c :: behind ∧ CanStart c := by
  obtain ⟨seg, segs, hsegs⟩ := List.exists_cons_of_ne_nil (segments_ne_nil content)
  obtain ⟨tail, htail⟩ := exists_intercalate_cons [','] seg segs
  have text : content = seg ++ tail := by rw [← htail, ← hsegs, intercalate_segments]
  rw [hsegs] at h visible
  cases h with
  | cons first _ =>
    obtain ⟨c, cs, start, hc⟩ := first.dropWhile_gap (visible seg rfl)
    refine ⟨c, cs ++ (tail ++ rest), ?_, hc⟩
    rw [text, List.append_assoc, List.dropWhile_append, start]
    rfl

/-! ## One step of a reader -/

/-- What one step reads as an item: a group with gaps around it, or plain text. -/
theorem readItem_cases {fuel : Nat} {cs rest : List Char} {item : Node}
    (h : readItem (fuel + 1) cs = some (item, rest)) :
    (∃ gaps b inside items behind, cs = gaps ++ b.opening :: inside ∧ IsGaps gaps ∧
        readGroup fuel b inside = some (items, behind) ∧ item = .group items ∧
        ∃ after, IsGaps after ∧ behind = after ++ rest) ∨
      ∃ text, text ≠ [] ∧ IsPlain text ∧ cs = text ++ rest ∧ item = .cell (Text.strip text) := by
  obtain ⟨gaps, hgaps, hcs⟩ := exists_gaps cs
  unfold readItem at h
  split at h
  case h_1 b inside opens =>
    rw [openGroup?_eq_some_iff] at opens
    obtain ⟨⟨items, behind⟩, read, eq⟩ := Option.map_eq_some_iff.1 h
    cases eq
    exact .inl ⟨gaps, b, inside, items, behind, by rw [← opens, ← hcs], hgaps, read, rfl,
      exists_gaps behind⟩
  case h_2 =>
    simp only [List.isEmpty_iff] at h
    split at h
    · cases h
    case isFalse ne =>
      cases h
      refine .inr ⟨_, ne, fun c hc ↦ ?_, List.takeWhile_append_dropWhile.symm, rfl⟩
      simpa using List.mem_takeWhile_imp hc

theorem readGroup_cases {fuel : Nat} {b : Bracket} {cs rest : List Char} {items : List Node}
    (h : readGroup (fuel + 1) b cs = some (items, rest)) :
    ∃ gaps, IsGaps gaps ∧
      (cs = gaps ++ b.closing :: rest ∧ items = [] ∨
        ∃ c behind, cs = gaps ++ c :: behind ∧ Text.isGap c = false ∧
          readItems fuel b (c :: behind) = some (items, rest)) := by
  obtain ⟨gaps, hgaps, hcs⟩ := exists_gaps cs
  refine ⟨gaps, hgaps, ?_⟩
  unfold readGroup at h
  split at h
  · cases h
  case h_2 c behind start =>
    rw [start] at hcs
    split at h
    case isTrue closes =>
      cases h
      exact .inl ⟨by rw [hcs, closes], rfl⟩
    case isFalse =>
      have visible := List.head?_dropWhile_not Text.isGap cs
      rw [start] at visible
      exact .inr ⟨c, behind, hcs, visible, h⟩

/-- What one step reads as items: one, and more of them behind a comma. -/
theorem readItems_cases {fuel : Nat} {b : Bracket} {cs rest : List Char} {items : List Node}
    (h : readItems (fuel + 1) b cs = some (items, rest)) :
    (∃ item behind others, readItem fuel cs = some (item, ',' :: behind) ∧
        readItems fuel b behind = some (others, rest) ∧ items = item :: others) ∨
      ∃ item, readItem fuel cs = some (item, b.closing :: rest) ∧ items = [item] := by
  unfold readItems at h
  split at h
  · cases h
  case h_2 item behind read =>
    split at h
    · cases h
    case h_2 c behind =>
      split_ifs at h with comma closes
      · obtain ⟨⟨others, behind⟩, more, eq⟩ := Option.map_eq_some_iff.1 h
        cases eq
        exact .inl ⟨item, _, others, comma ▸ read, more, rfl⟩
      · cases h
        exact .inr ⟨item, closes ▸ read, rfl⟩

/-! ## What is read is an item -/

mutual

/-- A reader of an item takes the text of that item. -/
theorem readItem_sound : ∀ {fuel : Nat} {cs rest : List Char} {item : Node},
    readItem fuel cs = some (item, rest) → ∃ seg, cs = seg ++ rest ∧ IsSegment seg item
  | 0, _, _, _, h => nomatch h
  | fuel + 1, cs, rest, item, h => by
    obtain ⟨gaps, b, inside, items, behind, rfl, hgaps, read, rfl, after, hafter, rfl⟩ |
      ⟨text, ne, plain, rfl, rfl⟩ := readItem_cases h
    · obtain ⟨content, rfl, group⟩ := readGroup_sound read
      refine ⟨gaps ++ b.enclose content ++ after, ?_, .group hgaps group hafter⟩
      simp [Bracket.enclose]
    · exact ⟨text, rfl, .cell ne plain⟩

/-- A reader of a group takes a content and the closing bracket. -/
theorem readGroup_sound : ∀ {fuel : Nat} {b : Bracket} {cs rest : List Char} {items : List Node},
    readGroup fuel b cs = some (items, rest) →
      ∃ content, cs = content ++ b.closing :: rest ∧ IsGroup (b.enclose content) items
  | 0, _, _, _, _, h => nomatch h
  | fuel + 1, b, cs, rest, items, h => by
    obtain ⟨gaps, hgaps, ⟨rfl, rfl⟩ | ⟨c, behind, rfl, visible, read⟩⟩ := readGroup_cases h
    · exact ⟨gaps, rfl, .empty b hgaps⟩
    · obtain ⟨seg, segs, text, parts⟩ := readItems_sound read
      obtain ⟨tail, htail⟩ := exists_intercalate_cons [','] seg segs
      cases parts with
      | cons first others =>
        obtain ⟨d, seg, rfl⟩ := List.exists_cons_of_ne_nil first.ne_nil
        have starts : c = d := by
          rw [htail] at text
          exact (List.cons.inj text).1
        -- The gaps that were skipped belong to the first item, which has text behind them.
        have parts := AreSegments.cons (first.gaps_append hgaps) others
        have cuts := segments_intercalate parts.uncut (List.cons_ne_nil _ _)
        refine ⟨[','].intercalate ((gaps ++ d :: seg) :: segs), ?_,
          .filled b (by rwa [cuts]) ?_⟩
        · rw [text]
          cases segs with
          | nil => simp
          | cons seg' segs => simp
        · rw [cuts]
          rintro _ ⟨⟩ _ blank
          have gap := isGaps_iff.1 blank d (by simp)
          rw [← starts, visible] at gap
          cases gap

/-- A reader of items takes items with commas between them, and the closing bracket. -/
theorem readItems_sound : ∀ {fuel : Nat} {b : Bracket} {cs rest : List Char} {items : List Node},
    readItems fuel b cs = some (items, rest) →
      ∃ seg segs, cs = [','].intercalate (seg :: segs) ++ b.closing :: rest ∧
        AreSegments (seg :: segs) items
  | 0, _, _, _, _, h => nomatch h
  | fuel + 1, b, cs, rest, items, h => by
    obtain ⟨item, behind, others, first, more, rfl⟩ | ⟨item, last, rfl⟩ := readItems_cases h
    · obtain ⟨seg, rfl, hseg⟩ := readItem_sound first
      obtain ⟨seg', segs, rfl, parts⟩ := readItems_sound more
      exact ⟨seg, seg' :: segs, by simp, .cons hseg parts⟩
    · obtain ⟨seg, rfl, hseg⟩ := readItem_sound last
      exact ⟨seg, [], by simp, .cons hseg .nil⟩

end

/-! ## Every item is read

The readers hand one step less to each other, and a character may pass through three of them: an
item, its group, and the items of that group. So three steps for each character are enough, less
the few that the brackets of a group leave over.
-/

theorem readItem_dropWhile_gap {cs behind : List Char} {c : Char}
    (start : cs.dropWhile Text.isGap = c :: behind) (hc : CanStart c) (fuel : Nat) :
    readItem fuel (cs.dropWhile Text.isGap) = readItem fuel cs := by
  obtain ⟨gaps, hgaps, hcs⟩ := exists_gaps cs
  cases fuel with
  | zero => rfl
  | succ fuel =>
    have visible := List.head?_dropWhile_not Text.isGap cs
    rw [start] at visible hcs ⊢
    have trimmed : (c :: behind).dropWhile Text.isGap = c :: behind :=
      List.dropWhile_cons_of_neg (by simpa using visible)
    obtain plain | ⟨b, rfl⟩ := hc
    · have inside : ∀ d ∈ gaps, !isDelimiter d := fun d hd ↦ by simp [hgaps.isPlain d hd]
      simp only [readItem, start, trimmed]
      rw [hcs, List.takeWhile_append_of_pos inside, List.dropWhile_append_of_pos inside,
        Text.strip_append_left fun d hd ↦ (hgaps d hd).1]
      simp [openGroup?, Bracket.ofOpening?_of_plain plain, plain]
    · simp only [readItem, start, trimmed, openGroup?_opening]

theorem readItems_dropWhile_gap {cs behind : List Char} {c : Char}
    (start : cs.dropWhile Text.isGap = c :: behind) (hc : CanStart c) (fuel : Nat) (b : Bracket) :
    readItems fuel b (cs.dropWhile Text.isGap) = readItems fuel b cs := by
  cases fuel with
  | zero => rfl
  | succ fuel => simp only [readItems, readItem_dropWhile_gap start hc]

theorem CanStart.ne_closing {c : Char} (h : CanStart c) (b : Bracket) : c ≠ b.closing := by
  rintro rfl
  obtain plain | ⟨b', eq⟩ := h
  · rw [b.isDelimiter_closing] at plain
    cases plain
  · have none := b.ofOpening?_closing
    rw [eq, Bracket.ofOpening?_opening] at none
    cases none

private theorem exists_succ_of_lt {k fuel : Nat} (h : k < fuel) : ∃ fuel', fuel = fuel' + 1 :=
  Nat.exists_eq_succ_of_ne_zero (Nat.ne_zero_of_lt h)

mutual

theorem IsGroup.readGroup {text : List Char} {items : List Node} (h : IsGroup text items) :
    ∃ b content, text = b.enclose content ∧ ∀ (fuel : Nat) (rest : List Char),
      3 * content.length + 2 ≤ fuel →
        readGroup fuel b (content ++ b.closing :: rest) = some (items, rest) := by
  match h with
  | @IsGroup.empty b content gaps =>
    refine ⟨b, content, rfl, fun fuel rest enough ↦ ?_⟩
    obtain ⟨fuel, rfl⟩ := exists_succ_of_lt (by omega : 0 < fuel)
    have start : (content ++ b.closing :: rest).dropWhile Text.isGap = b.closing :: rest := by
      apply gaps.dropWhile_append
      rintro c ⟨⟩
      exact b.isGap_closing
    simp [Table.readGroup, start]
  | @IsGroup.filled b content items parts first =>
    refine ⟨b, content, rfl, fun fuel rest enough ↦ ?_⟩
    obtain ⟨fuel, rfl⟩ := exists_succ_of_lt (by omega : 0 < fuel)
    -- The reader skips the gaps in front, which the text of the first item may include.
    obtain ⟨c, behind, start, hc⟩ := parts.dropWhile_gap first (b.closing :: rest)
    have skip := readItems_dropWhile_gap start hc fuel b
    have read := parts.readItems (segments_ne_nil content) b fuel rest
    rw [intercalate_segments] at read
    rw [start] at skip
    simp only [Table.readGroup, start, if_neg (hc.ne_closing b), skip]
    exact read (by omega)

/-- An item is read in full before a text where it is over. -/
theorem IsSegment.readItem {seg : List Char} {item : Node} (h : IsSegment seg item) (fuel : Nat)
    {rest : List Char} (follow : CanFollow rest) (enough : 3 * seg.length ≤ fuel + 2) :
    readItem fuel (seg ++ rest) = some (item, rest) := by
  match h with
  | .cell ne plain =>
    have one := List.length_pos_iff.2 ne
    obtain ⟨fuel, rfl⟩ := exists_succ_of_lt (by omega : 0 < fuel)
    simp [Table.readItem, openGroup?_of_plain plain follow, plain.span follow, ne]
  | @IsSegment.group before text after items hbefore group hafter =>
    obtain ⟨b, content, rfl, read⟩ := group.readGroup
    simp only [List.length_append, Bracket.enclose, List.length_cons, List.length_nil] at enough
    obtain ⟨fuel, rfl⟩ := exists_succ_of_lt (by omega : 0 < fuel)
    have start : (before ++ b.enclose content ++ after ++ rest).dropWhile Text.isGap =
        b.opening :: (content ++ b.closing :: (after ++ rest)) := by
      rw [List.append_assoc, List.append_assoc, hbefore.dropWhile_enclose, b.enclose_append]
    have finish : (after ++ rest).dropWhile Text.isGap = rest :=
      hafter.dropWhile_append fun c hc ↦ isGap_of_isDelimiter (follow c hc).1
    simp only [Table.readItem, start, openGroup?_opening]
    rw [read fuel (after ++ rest) (by omega), Option.map_some, finish]

theorem AreSegments.readItems {segs : List (List Char)} {items : List Node}
    (h : AreSegments segs items) (ne : segs ≠ []) (b : Bracket) (fuel : Nat) (rest : List Char)
    (enough : 3 * ([','].intercalate segs).length + 1 ≤ fuel) :
    readItems fuel b ([','].intercalate segs ++ b.closing :: rest) = some (items, rest) := by
  match segs, h with
  | [], _ => exact absurd rfl ne
  | [seg], .cons first .nil =>
    rw [List.intercalate_singleton] at enough ⊢
    obtain ⟨fuel, rfl⟩ := exists_succ_of_lt (by omega : 0 < fuel)
    have read := first.readItem fuel (canFollow_closing b rest) (by omega)
    have comma : b.closing ≠ ',' := by cases b <;> decide
    simp [Table.readItems, read, comma]
  | seg :: seg' :: segs, .cons first others =>
    rw [List.intercalate_cons_cons] at enough ⊢
    simp only [List.length_append, List.length_cons, List.length_nil] at enough
    obtain ⟨fuel, rfl⟩ := exists_succ_of_lt (by omega : 0 < fuel)
    have more := others.readItems (List.cons_ne_nil _ _) b fuel rest (by omega)
    have follow := canFollow_comma ([','].intercalate (seg' :: segs) ++ b.closing :: rest)
    have read := first.readItem fuel follow (by omega)
    rw [List.append_assoc, List.append_assoc, List.singleton_append]
    simp only [Table.readItems, read, if_true, more, Option.map_some]

end

/-- A text is read as an item with nothing left if and only if it is the text of that item. -/
theorem readItem_eq_some_iff {cs : List Char} {item : Node} :
    readItem (3 * cs.length + 3) cs = some (item, []) ↔ IsSegment cs item := by
  constructor
  · intro h
    obtain ⟨seg, rfl, hseg⟩ := readItem_sound h
    rwa [List.append_nil]
  · intro h
    have read := h.readItem (3 * cs.length + 3) canFollow_nil (by omega)
    rwa [List.append_nil] at read

end DartBlock.Table
