import DartBlock.Proofs.Table.Group

/-!
# Cutting at commas

A text that holds its own brackets stays in one piece and does not change how the text after it
is cut (`Uncut`). Plain text is of that kind, and so is every item.

* `intercalate_segments`: cutting loses nothing but the commas.
* `segments_intercalate`: pieces put together with commas are cut apart again.
* `IsSegment.uncut`: items are pieces of that kind.
-/

namespace DartBlock.Table

/-! ## One character -/

@[simp] theorem cut_nil (d : Nat) : cut d [] = [[]] := rfl

@[simp] theorem cut_comma (cs : List Char) : cut 0 (',' :: cs) = [] :: cut 0 cs := by
  simp [cut]

@[simp] theorem cut_comma_inside (d : Nat) (cs : List Char) :
    cut (d + 1) (',' :: cs) = (cut (d + 1) cs).modifyHead (',' :: ·) := by
  simp [cut, depthAfter]

@[simp] theorem cut_opening (d : Nat) (b : Bracket) (cs : List Char) :
    cut d (b.opening :: cs) = (cut (d + 1) cs).modifyHead (b.opening :: ·) := by
  cases b <;> simp [cut, depthAfter, Bracket.opening]

@[simp] theorem cut_closing (d : Nat) (b : Bracket) (cs : List Char) :
    cut (d + 1) (b.closing :: cs) = (cut d cs).modifyHead (b.closing :: ·) := by
  cases b <;> simp [cut, depthAfter, Bracket.closing]

theorem cut_of_plain {c : Char} (h : isDelimiter c = false) (d : Nat) (cs : List Char) :
    cut d (c :: cs) = (cut d cs).modifyHead (c :: ·) := by
  simp only [isDelimiter, Bool.or_eq_false_iff, beq_eq_false_iff_ne] at h
  obtain ⟨⟨⟨⟨⟨⟨comma, h₁⟩, h₂⟩, h₃⟩, h₄⟩, h₅⟩, h₆⟩ := h
  simp [cut, depthAfter, comma, h₁, h₂, h₃, h₄, h₅, h₆]

theorem cut_ne_nil (d : Nat) (cs : List Char) : cut d cs ≠ [] := by
  induction cs generalizing d with
  | nil => exact List.cons_ne_nil _ _
  | cons c cs ih =>
    rw [cut]
    split
    · exact List.cons_ne_nil _ _
    · exact fun h ↦ ih _ (List.modifyHead_eq_nil_iff.1 h)

theorem segments_ne_nil (content : List Char) : segments content ≠ [] := cut_ne_nil 0 content

/-! ## Nothing is lost -/

private theorem intercalate_modifyHead (sep : List Char) (c : Char) {segs : List (List Char)}
    (h : segs ≠ []) :
    sep.intercalate (segs.modifyHead (c :: ·)) = c :: sep.intercalate segs := by
  cases segs with
  | nil => exact absurd rfl h
  | cons seg segs => simp

theorem intercalate_cut (d : Nat) (cs : List Char) : [','].intercalate (cut d cs) = cs := by
  induction cs generalizing d with
  | nil => simp
  | cons c cs ih =>
    rw [cut]
    split
    case isTrue h =>
      rw [List.intercalate_cons_of_ne_nil (cut_ne_nil d cs), ih, h.1]
      rfl
    case isFalse => rw [intercalate_modifyHead _ _ (cut_ne_nil _ cs), ih]

/-- The segments of a content with commas between them are the content. -/
theorem intercalate_segments (content : List Char) :
    [','].intercalate (segments content) = content := intercalate_cut 0 content

/-! ## Texts that hold their own brackets -/

/-- Whether a text inside `d` groups stays in one piece, and what follows it is cut as before. -/
def UncutAt (d : Nat) (text : List Char) : Prop :=
  ∀ cs, cut d (text ++ cs) = (cut d cs).modifyHead (text ++ ·)

def Uncut (text : List Char) : Prop := ∀ d, UncutAt d text

theorem UncutAt.nil (d : Nat) : UncutAt d [] := fun _ ↦ (congrFun List.modifyHead_id _).symm

theorem UncutAt.append {d : Nat} {text text' : List Char} (h : UncutAt d text)
    (h' : UncutAt d text') : UncutAt d (text ++ text') := fun cs ↦ by
  rw [List.append_assoc, h, h', List.modifyHead_modifyHead]
  simp only [Function.comp_def, List.append_assoc]

theorem UncutAt.comma (d : Nat) : UncutAt (d + 1) [','] := fun cs ↦ cut_comma_inside d cs

theorem IsPlain.uncut {text : List Char} (h : IsPlain text) : Uncut text := fun d ↦ by
  induction text with
  | nil => exact .nil d
  | cons c text ih =>
    have head : UncutAt d [c] := fun cs ↦ cut_of_plain (h c List.mem_cons_self) d cs
    exact head.append (ih fun c hc ↦ h c (List.mem_cons_of_mem _ hc))

/-- Brackets keep together what stays in one piece between them. -/
theorem Uncut.enclose (b : Bracket) {content : List Char} (h : ∀ d, UncutAt (d + 1) content) :
    Uncut (b.enclose content) := fun d cs ↦ by
  rw [b.enclose_append, cut_opening, h, cut_closing]
  simp only [List.modifyHead_modifyHead, Function.comp_def, b.enclose_append]

/-- Inside a group, commas do not part what stays in one piece. -/
theorem uncutAt_intercalate {segs : List (List Char)} (h : ∀ seg ∈ segs, Uncut seg) (d : Nat) :
    UncutAt (d + 1) ([','].intercalate segs) := by
  induction segs with
  | nil => exact .nil _
  | cons seg segs ih =>
    obtain ⟨first, others⟩ := List.forall_mem_cons.1 h
    cases segs with
    | nil =>
      rw [List.intercalate_singleton]
      exact first _
    | cons seg' segs =>
      rw [List.intercalate_cons_cons]
      exact ((first _).append (.comma d)).append (ih others)

/-- Pieces with commas between them are cut apart at these commas. -/
theorem segments_intercalate {segs : List (List Char)} (h : ∀ seg ∈ segs, Uncut seg)
    (ne : segs ≠ []) : segments ([','].intercalate segs) = segs := by
  induction segs with
  | nil => exact absurd rfl ne
  | cons seg segs ih =>
    obtain ⟨first, others⟩ := List.forall_mem_cons.1 h
    cases segs with
    | nil => simpa [segments] using first 0 []
    | cons seg' segs =>
      have tail := ih others (List.cons_ne_nil _ _)
      rw [segments] at tail
      rw [segments, List.intercalate_cons_cons, List.append_assoc, List.singleton_append,
        first, cut_comma, tail, List.modifyHead_cons, List.append_nil]

mutual

theorem IsGroup.uncut {text : List Char} {items : List Node} (h : IsGroup text items) :
    Uncut text := by
  match h with
  | .empty b gaps => exact .enclose b fun d ↦ gaps.isPlain.uncut (d + 1)
  | @IsGroup.filled b content _ parts _ =>
    refine .enclose b fun d ↦ ?_
    rw [← intercalate_segments content]
    exact uncutAt_intercalate parts.uncut d

theorem IsSegment.uncut {seg : List Char} {item : Node} (h : IsSegment seg item) :
    Uncut seg := by
  match h with
  | .cell _ plain => exact plain.uncut
  | .group before group after =>
    exact fun d ↦ ((before.isPlain.uncut d).append (group.uncut d)).append (after.isPlain.uncut d)

theorem AreSegments.uncut {segs : List (List Char)} {items : List Node}
    (h : AreSegments segs items) : ∀ seg ∈ segs, Uncut seg := by
  match h with
  | .nil => simp
  | .cons first others => exact List.forall_mem_cons.2 ⟨first.uncut, others.uncut⟩

end

end DartBlock.Table
