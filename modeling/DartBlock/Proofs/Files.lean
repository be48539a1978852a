import DartBlock.Files
import DartBlock.Proofs.Text.Utf8
import Mathlib.Data.List.Basic

/-!
# Files that cannot be read

`ReadFile.Unread` lists why a file has no text: its name holds a zero character, the machine
refuses to read it, or its bytes are no UTF-8. Only the refusal is told to the user. A path is
looked at after it was brought into its shortest form, so it is shown first that this loses no zero
character (`Path.mem_text_iff`).
-/

namespace DartBlock

/-! ## Characters of paths -/

namespace Path

variable {c : Char}

theorem slashParts_ne_nil (cs : List Char) : slashParts cs ≠ [] := by
  cases cs with
  | nil => simp [slashParts]
  | cons c cs =>
    unfold slashParts
    split_ifs
    · simp
    · split <;> simp

/-- The parts have all characters of a text but the slashes. -/
theorem exists_mem_slashParts_iff (slash : c ≠ '/') (cs : List Char) :
    (∃ part ∈ slashParts cs, c ∈ part) ↔ c ∈ cs := by
  induction cs with
  | nil => simp [slashParts]
  | cons d cs ih =>
    unfold slashParts
    by_cases hd : d = '/'
    · simp [hd, slash, ih]
    · rw [if_neg hd]
      rcases hparts : slashParts cs with _ | ⟨part, parts⟩
      · exact absurd hparts (slashParts_ne_nil cs)
      · rw [hparts] at ih
        rw [List.exists_mem_cons_iff] at ih ⊢
        rw [List.mem_cons, List.mem_cons, or_assoc, ih]

theorem mem_intercalate_iff {sep : List Char} (h : c ∉ sep) (parts : List (List Char)) :
    c ∈ sep.intercalate parts ↔ ∃ part ∈ parts, c ∈ part := by
  induction parts with
  | nil => simp
  | cons part parts ih =>
    by_cases hparts : parts = []
    · simp [hparts]
    · rw [List.intercalate_cons_of_ne_nil hparts, List.exists_mem_cons_iff, ← ih]
      simp [h]

theorem not_mem_rootOf (slash : c ≠ '/') (cs : List Char) : c ∉ (rootOf cs).toList := by
  unfold rootOf
  split <;> simp [slash]

/-- Apart from slashes and points a path has the characters of the text that names it. -/
theorem mem_text_iff (slash : c ≠ '/') (point : c ≠ '.') (s : String) :
    c ∈ (ofString s).text.toList ↔ c ∈ s.toList := by
  have parts : (∃ part ∈ (ofString s).parts, c ∈ part.toList) ↔ c ∈ s.toList := by
    rw [← exists_mem_slashParts_iff slash]
    constructor
    · rintro ⟨part, hpart, hc⟩
      obtain ⟨chars, hchars, rfl⟩ := List.mem_map.mp hpart
      exact ⟨chars, (List.mem_filter.mp hchars).1, by simpa using hc⟩
    · rintro ⟨chars, hchars, hc⟩
      have kept : chars ≠ [] ∧ chars ≠ ['.'] := by
        constructor
        · rintro rfl
          cases hc
        · rintro rfl
          exact point (List.mem_singleton.mp hc)
      refine ⟨String.ofList chars, List.mem_map_of_mem (List.mem_filter.mpr ⟨hchars, ?_⟩), ?_⟩
      · simpa using kept
      · simpa using hc
  unfold text
  split_ifs with h
  · rw [← parts, h.2]
    simp [point]
  · rw [String.toList_append, List.mem_append, String.toList_intercalate, mem_intercalate_iff
      (by simpa using slash), ← parts]
    simp [ofString, not_mem_rootOf slash]

end Path

/-! ## Bytes and texts -/

namespace ReadFile

variable {read : ReadFile} {name : String}

theorem bytes_of_zero (h : '\x00' ∈ name.toList) :
    read.bytes (Path.ofString name) = .error (.mishap .zeroInPath) := by
  have zero : '\x00' ∈ (Path.ofString name).text.toList :=
    (Path.mem_text_iff (by decide) (by decide) name).mpr h
  simp [bytes, zero]

theorem bytes_of_not_zero (h : '\x00' ∉ name.toList) :
    read.bytes (Path.ofString name) = (read (Path.ofString name)).mapError .refused := by
  have noZero : '\x00' ∉ (Path.ofString name).text.toList :=
    mt (Path.mem_text_iff (by decide) (by decide) name).mp h
  simp [bytes, noZero]

/-- The machine hands out the bytes of the file with a name. -/
structure Gives (read : ReadFile) (name : String) (bytes : ByteArray) : Prop where
  noZero : '\x00' ∉ name.toList
  read : read (Path.ofString name) = .ok bytes

structure Refuses (read : ReadFile) (name : String) (r : Refusal) : Prop where
  noZero : '\x00' ∉ name.toList
  read : read (Path.ofString name) = .error r

theorem Gives.bytes {bytes : ByteArray} (h : read.Gives name bytes) :
    read.bytes (Path.ofString name) = .ok bytes := by
  rw [bytes_of_not_zero h.noZero, h.read]
  rfl

theorem Refuses.bytes {r : Refusal} (h : read.Refuses name r) :
    read.bytes (Path.ofString name) = .error (.refused r) := by
  rw [bytes_of_not_zero h.noZero, h.read]
  rfl

/-- A file is given or refused, unless its name holds a zero character. -/
theorem zero_or_refuses_or_gives (read : ReadFile) (name : String) :
    '\x00' ∈ name.toList ∨ (∃ r, read.Refuses name r) ∨ ∃ bytes, read.Gives name bytes := by
  by_cases h : '\x00' ∈ name.toList
  · exact .inl h
  · rcases hread : read (Path.ofString name) with r | bytes
    · exact .inr (.inl ⟨r, h, hread⟩)
    · exact .inr (.inr ⟨bytes, h, hread⟩)

/-- Why the file with a name has no text. -/
inductive Unread (read : ReadFile) (name : String) : TextFault → Prop
  /-- The name holds a zero character. -/
  | zero (h : '\x00' ∈ name.toList) : Unread read name (.mishap .zeroInPath)
  | refused {r : Refusal} (h : read.Refuses name r) : Unread read name (.refused r)
  | undecodable {bytes : ByteArray} (h : read.Gives name bytes)
      (hbytes : Text.Utf8.decode? bytes = none) : Unread read name (.mishap .notUtf8)

end ReadFile

theorem textOf_eq_error_iff {bytes : ByteArray} {m : Mishap} :
    textOf bytes = .error m ↔ Text.Utf8.decode? bytes = none ∧ m = .notUtf8 := by
  unfold textOf
  rcases Text.Utf8.decode? bytes with _ | s
  · simp [eq_comm]
  · simp

theorem textOf_toUTF8 (s : String) : textOf s.toUTF8 = .ok s.withLineFeeds := by
  rw [textOf, Text.Utf8.decode?_toUTF8]

namespace ReadFile

variable {read : ReadFile} {name : String}

theorem text_of_gives {bytes : ByteArray} (h : read.Gives name bytes) :
    read.text (Path.ofString name) = (textOf bytes).mapError .mishap := by
  rw [text, h.bytes]
  rfl

/-- There are no other reasons. -/
theorem text_eq_error_iff {f : TextFault} :
    read.text (Path.ofString name) = .error f ↔ read.Unread name f := by
  constructor
  · intro h
    rcases read.zero_or_refuses_or_gives name with zero | ⟨r, refuses⟩ | ⟨bytes, gives⟩
    · rw [text, bytes_of_zero zero] at h
      obtain rfl := Except.error.inj h
      exact .zero zero
    · rw [text, refuses.bytes] at h
      obtain rfl := Except.error.inj h
      exact .refused refuses
    · rw [text_of_gives gives] at h
      rcases hm : textOf bytes with m | s
      · rw [hm] at h
        obtain rfl := Except.error.inj h
        obtain ⟨hbytes, rfl⟩ := textOf_eq_error_iff.mp hm
        exact .undecodable gives hbytes
      · rw [hm] at h
        cases h
  · intro h
    cases h with
    | zero h => rw [text, bytes_of_zero h]; rfl
    | refused h => rw [text, h.bytes]; rfl
    | undecodable h hbytes =>
      rw [text_of_gives h, textOf_eq_error_iff.mpr ⟨hbytes, rfl⟩]
      rfl

end ReadFile

end DartBlock
