import DartBlock.Proofs.Table.Shown
import DartBlock.Proofs.Text.LineBreak
import Mathlib.Data.List.Forall2

/-!
# White space in printed tables

White space may be put in next to any bracket and any comma of a table, and around the whole text:
the table stays the same.

A delimiter keeps its place among the others when gaps are put in next to it, so a padded content is
cut at the same commas, and each piece is the padded old one with more gaps at its ends
(`Loose`). Such a piece is the same item (`IsSegment.loose`): a cell is stripped of the gaps, and a
group may have them around it and inside of its brackets. Main theorem: `read?_padded`.
-/

namespace DartBlock.Table

/-- The second text is the first with gaps put in before and after its brackets and commas. -/
inductive Padded : List Char → List Char → Prop
  | nil : Padded [] []
  | plain {c : Char} {cs ds : List Char} : isDelimiter c = false → Padded cs ds →
      Padded (c :: cs) (c :: ds)
  | delimiter {c : Char} (before after : List Char) {cs ds : List Char} : isDelimiter c →
      IsGaps before → IsGaps after → Padded cs ds → Padded (c :: cs) (before ++ c :: (after ++ ds))

/-! ## Padded texts -/

namespace Padded

variable {cs ds es : List Char}

theorem eq_of_isPlain (h : Padded cs ds) (plain : IsPlain cs) : ds = cs := by
  induction h with
  | nil => rfl
  | plain _ _ ih => rw [ih fun c hc ↦ plain c (List.mem_cons_of_mem _ hc)]
  | delimiter before after delimits =>
    rw [plain _ List.mem_cons_self] at delimits
    cases delimits

theorem subset (h : Padded cs ds) : cs ⊆ ds := by
  induction h with
  | nil => exact List.Subset.refl _
  | plain _ _ ih => exact List.cons_subset_cons _ ih
  | delimiter before after _ _ _ _ ih =>
    refine List.cons_subset.2 ⟨List.mem_append_cons_self, fun c hc ↦ ?_⟩
    simp [ih hc]

theorem of_append (h : Padded (cs ++ ds) es) :
    ∃ cs' ds', es = cs' ++ ds' ∧ Padded cs cs' ∧ Padded ds ds' := by
  induction cs generalizing es with
  | nil => exact ⟨[], es, rfl, .nil, h⟩
  | cons c cs ih =>
    cases h with
    | plain hc h =>
      obtain ⟨cs', ds', rfl, hcs, hds⟩ := ih h
      exact ⟨c :: cs', ds', rfl, .plain hc hcs, hds⟩
    | delimiter before after hc hbefore hafter h =>
      obtain ⟨cs', ds', rfl, hcs, hds⟩ := ih h
      exact ⟨before ++ c :: (after ++ cs'), ds', by simp,
        .delimiter before after hc hbefore hafter hcs, hds⟩

/-- A delimiter gets gaps on both sides. -/
theorem of_delimiter {c : Char} (hc : isDelimiter c) (h : Padded (c :: cs) es) :
    ∃ before after ds, IsGaps before ∧ IsGaps after ∧ es = before ++ c :: (after ++ ds) ∧
      Padded cs ds := by
  cases h with
  | plain hc' _ => cases hc.symm.trans hc'
  | delimiter before after _ hbefore hafter h =>
    exact ⟨before, after, _, hbefore, hafter, rfl, h⟩

end Padded

/-! ## Pieces of a padded text -/

/-- The second piece is the first one padded, with gaps around it. -/
def Loose (seg seg' : List Char) : Prop :=
  ∃ before text after, IsGaps before ∧ Padded seg text ∧ IsGaps after ∧
    seg' = before ++ text ++ after

namespace Loose

variable {seg seg' : List Char}

theorem isGaps (h : Loose seg seg') (gaps : IsGaps seg) : IsGaps seg' := by
  obtain ⟨before, text, after, hbefore, padded, hafter, rfl⟩ := h
  rw [padded.eq_of_isPlain gaps.isPlain]
  exact (hbefore.append gaps).append hafter

theorem of_isGaps (h : Loose seg seg') (gaps : IsGaps seg') : IsGaps seg := by
  obtain ⟨before, text, after, -, padded, -, rfl⟩ := h
  exact fun c hc ↦ gaps c (by simp [padded.subset hc])

/-- Between brackets the content becomes loose. -/
theorem of_enclose {b : Bracket} {content text : List Char} (h : Padded (b.enclose content) text) :
    ∃ before content' after, IsGaps before ∧ Loose content content' ∧ IsGaps after ∧
      text = before ++ b.enclose content' ++ after := by
  obtain ⟨before, front, rest, hbefore, hfront, rfl, inside⟩ :=
    h.of_delimiter b.isDelimiter_opening
  obtain ⟨content', rest, rfl, hcontent, closes⟩ := inside.of_append
  obtain ⟨back, after, rest, hback, hafter, rfl, none⟩ := closes.of_delimiter b.isDelimiter_closing
  cases none
  exact ⟨before, front ++ content' ++ back, after, hbefore,
    ⟨front, content', back, hfront, hcontent, hback, rfl⟩, hafter, by simp [Bracket.enclose]⟩

/-- A comma divides the gaps put in next to it among the pieces. -/
theorem of_intercalate {segs : List (List Char)} (ne : segs ≠ []) {content : List Char}
    (h : Loose ([','].intercalate segs) content) :
    ∃ segs', content = [','].intercalate segs' ∧ List.Forall₂ Loose segs segs' := by
  induction segs generalizing content with
  | nil => exact absurd rfl ne
  | cons seg segs ih =>
    cases segs with
    | nil =>
      rw [List.intercalate_singleton] at h
      exact ⟨[content], by simp, .cons h .nil⟩
    | cons next segs =>
      rw [List.intercalate_cons_cons, List.append_assoc, List.singleton_append] at h
      obtain ⟨before, text, after, hbefore, padded, hafter, rfl⟩ := h
      obtain ⟨first, others, rfl, hfirst, padded⟩ := padded.of_append
      obtain ⟨left, right, others, hleft, hright, rfl, hothers⟩ := padded.of_delimiter rfl
      obtain ⟨segs', joined, loose⟩ := ih (List.cons_ne_nil _ _)
        ⟨right, others, after, hright, hothers, hafter, rfl⟩
      refine ⟨(before ++ first ++ left) :: segs', ?_,
        .cons ⟨before, first, left, hbefore, hfirst, hleft, rfl⟩ loose⟩
      cases loose with
      | cons =>
        rw [List.intercalate_cons_cons, ← joined]
        simp

end Loose

/-! ## Items of a padded text -/

mutual

/-- A padded group is the same group, with gaps around it. -/
theorem IsGroup.padded {text text' : List Char} {items : List Node} (h : IsGroup text items)
    (padded : Padded text text') :
    ∃ before inner after, IsGaps before ∧ IsGroup inner items ∧ IsGaps after ∧
      text' = before ++ inner ++ after := by
  match h with
  | @IsGroup.empty b content gaps =>
    obtain ⟨before, content', after, hbefore, loose, hafter, rfl⟩ := Loose.of_enclose padded
    exact ⟨before, _, after, hbefore, .empty b (loose.isGaps gaps), hafter, rfl⟩
  | @IsGroup.filled b content _ parts first =>
    obtain ⟨before, content', after, hbefore, loose, hafter, rfl⟩ := Loose.of_enclose padded
    rw [← intercalate_segments content] at loose
    obtain ⟨segs, rfl, pieces⟩ := loose.of_intercalate (segments_ne_nil content)
    have parts' := parts.loose pieces
    have cuts : segments ([','].intercalate segs) = segs := by
      refine segments_intercalate parts'.uncut fun none ↦ segments_ne_nil content ?_
      rw [none] at pieces
      exact List.forall₂_nil_right_iff.1 pieces
    refine ⟨before, _, after, hbefore, .filled b (by rwa [cuts]) ?_, hafter, rfl⟩
    rw [cuts]
    generalize segments content = old at pieces first
    intro seg' hseg' _ gaps
    cases pieces with
    | nil => cases hseg'
    | cons head _ =>
      cases hseg'
      have blank := head.of_isGaps gaps
      exact first _ rfl blank.isPlain blank

theorem IsSegment.loose {seg seg' : List Char} {item : Node} (h : IsSegment seg item)
    (loose : Loose seg seg') : IsSegment seg' item := by
  obtain ⟨front, text, back, hfront, padded, hback, rfl⟩ := loose
  match h with
  | .cell ne plain =>
    obtain rfl := padded.eq_of_isPlain plain
    have whole : IsPlain (front ++ text ++ back) :=
      List.forall_mem_append.2 ⟨List.forall_mem_append.2 ⟨hfront.isPlain, plain⟩, hback.isPlain⟩
    have stripped : Text.strip (front ++ text ++ back) = Text.strip text := by
      rw [Text.strip_append_right fun c hc ↦ (hback c hc).1,
        Text.strip_append_left fun c hc ↦ (hfront c hc).1]
    rw [← stripped]
    exact .cell (by simp [ne]) whole
  | @IsSegment.group before inner after items hbefore group hafter =>
    obtain ⟨rest, after', rfl, padded, hafter'⟩ := padded.of_append
    obtain ⟨before', inner', rfl, hbefore', hinner⟩ := padded.of_append
    obtain rfl := hbefore'.eq_of_isPlain hbefore.isPlain
    obtain rfl := hafter'.eq_of_isPlain hafter.isPlain
    obtain ⟨left, text, right, hleft, group', hright, rfl⟩ := group.padded hinner
    have around := IsSegment.group (hfront.append (hbefore.append hleft)) group'
      (hright.append (hafter.append hback))
    simpa using around

theorem AreSegments.loose {segs segs' : List (List Char)} {items : List Node}
    (h : AreSegments segs items) (loose : List.Forall₂ Loose segs segs') :
    AreSegments segs' items := by
  match h, loose with
  | .nil, .nil => exact .nil
  | .cons first others, .cons head tail => exact .cons (first.loose head) (others.loose tail)

end

/-! ## Tables of a padded text -/

theorem IsGroup.strip_padded {cs ds : List Char} {items : List Node}
    (h : IsGroup (Text.strip cs) items) (padded : Padded cs ds) :
    IsGroup (Text.strip ds) items := by
  obtain ⟨before, after, hbefore, hafter, hcs⟩ := Text.exists_strip cs
  rw [hcs] at padded
  obtain ⟨rest, after', rfl, padded, hafter'⟩ := padded.of_append
  obtain ⟨before', text, rfl, hbefore', htext⟩ := padded.of_append
  obtain rfl := hbefore'.eq_of_isPlain (isPlain_of_isBlank hbefore)
  obtain rfl := hafter'.eq_of_isPlain (isPlain_of_isBlank hafter)
  obtain ⟨left, inner, right, hleft, group, hright, rfl⟩ := h.padded htext
  have stripped : Text.strip (before' ++ (left ++ inner ++ right) ++ after') = inner := by
    obtain ⟨b, content, rfl⟩ := group.exists_enclose
    rw [Text.strip_append_right hafter, Text.strip_append_left hbefore,
      Text.strip_append_right fun c hc ↦ (hright c hc).1,
      Text.strip_append_left fun c hc ↦ (hleft c hc).1, b.strip_enclose]
  rwa [stripped]

theorem read?_of_padded {t t' : String} {rows : Table} (padded : Padded t.toList t'.toList)
    (h : read? t = some rows) : read? t' = some rows := by
  obtain ⟨items, group, made⟩ := read?_eq_some_iff.1 h
  exact read?_eq_some_iff.2 ⟨items, group.strip_padded padded, made⟩

/-- Only the stripped text counts. -/
theorem read?_congr {t t' : String} (h : Text.strip t.toList = Text.strip t'.toList) :
    read? t = read? t' := by
  rw [read?, read?, h]

/-- **White space in a table.**  A table that is read stays the same when gaps are put in before
and after any of the brackets and commas of its text. Blanks around a text do not change how it is
read, be it a table or not; so neither do the line breaks at its end. -/
theorem read?_padded :
    (∀ (t t' : String) (rows : Table), Padded t.toList t'.toList → read? t = some rows →
      read? t' = some rows) ∧
    ∀ t : String,
      (∀ before after : String, (∀ c ∈ before.toList, Text.isBlank c) →
        (∀ c ∈ after.toList, Text.isBlank c) → read? (before ++ t ++ after) = read? t) ∧
      read? t.withoutFinalBreaks = read? t := by
  refine ⟨fun t t' rows padded h ↦ read?_of_padded padded h, fun t ↦ ⟨?_, ?_⟩⟩
  · intro before after hbefore hafter
    apply read?_congr
    rw [String.toList_append, String.toList_append, Text.strip_append_right hafter,
      Text.strip_append_left hbefore]
  · exact read?_congr (Text.strip_withoutFinalBreaks t)

/-- A table with its rows on lines of their own, and blanks around a text that is no table. -/
theorem read?_padded_lines :
    let t := "[[a,b],(1, )]"
    let t' := "[\n\t[a ,b],\n\t(1,\u00a0 )\n]"
    Padded t.toList t'.toList ∧ read? t = some [["a", "b"], ["1", ""]] ∧
      read? t' = some [["a", "b"], ["1", ""]] ∧
      (∀ c ∈ "\x1c ".toList, Text.isBlank c) ∧ (∀ c ∈ "\r\n".toList, Text.isBlank c) ∧
      read? ("\x1c " ++ "[1,]" ++ "\r\n") = none := by
  have gaps {cs : List Char} (h : cs.all Text.isGap) : IsGaps cs :=
    isGaps_iff.2 (List.all_eq_true.1 h)
  have padded : Padded "[[a,b],(1, )]".toList "[\n\t[a ,b],\n\t(1,\u00a0 )\n]".toList := by
    refine .delimiter [] ['\n', '\t'] rfl (gaps rfl) (gaps rfl) ?_
    refine .delimiter [] [] rfl (gaps rfl) (gaps rfl) (.plain rfl ?_)
    refine .delimiter [' '] [] rfl (gaps rfl) (gaps rfl) (.plain rfl ?_)
    refine .delimiter [] [] rfl (gaps rfl) (gaps rfl) ?_
    refine .delimiter [] ['\n', '\t'] rfl (gaps rfl) (gaps rfl) ?_
    refine .delimiter [] [] rfl (gaps rfl) (gaps rfl) (.plain rfl ?_)
    refine .delimiter [] ['\u00a0'] rfl (gaps rfl) (gaps rfl) (.plain rfl ?_)
    refine .delimiter [] ['\n'] rfl (gaps rfl) (gaps rfl) ?_
    exact .delimiter [] [] rfl (gaps rfl) (gaps rfl) .nil
  have shown : read? "[[a,b],(1, )]" = some [["a", "b"], ["1", ""]] := by decide +kernel
  have front : ∀ c ∈ "\x1c ".toList, Text.isBlank c := List.all_eq_true.1 rfl
  have back : ∀ c ∈ "\r\n".toList, Text.isBlank c := List.all_eq_true.1 rfl
  refine ⟨padded, shown, read?_padded.1 _ _ _ padded shown, front, back, ?_⟩
  rw [(read?_padded.2 "[1,]").1 _ _ front back]
  decide +kernel

/-- White space that is put in may make a table of a text that is none. -/
example : read? "[1,]" = none ∧ read? "[1, ]" = some [["1", ""]] := by decide +kernel

end DartBlock.Table
