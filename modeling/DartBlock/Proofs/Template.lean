import DartBlock.Program
import Mathlib.Data.List.Basic
import Mathlib.Logic.Function.Basic

/-!
# What a template keeps

A template with a place for the body keeps whatever is put there: it stands as a block in what the
template is filled to, and can be read off it (`fill_injective`). A template without such a place
comes out the same for all bodies (`fill_const`). So the check refuses exactly the templates that
lose the snippet (`render_keeps_snippet`).
-/

namespace DartBlock.Template

/-! ## Reading -/

theorem read_slot {c : Char} {s : Slot} (h : Slot.ofLetter? c = some s) (cs : List Char) :
    read ('%' :: c :: cs) = .slot s :: read cs := by
  rw [read, h]

/-- A percent sign that begins no slot stands for itself. -/
theorem read_percent {c : Char} (h : Slot.ofLetter? c = none) (cs : List Char) :
    read ('%' :: c :: cs) = .char '%' :: read (c :: cs) := by
  rw [read, h]

theorem read_char {c : Char} (h : c ≠ '%') (cs : List Char) :
    read (c :: cs) = .char c :: read cs :=
  read.eq_3 c cs fun _ _ eq ↦ absurd eq h

/-- A template may be cut wherever no slot stands across the cut: the text in front does not end
with a percent sign, or the text behind does not begin with the letter of a slot. -/
theorem read_append {front rest : List Char}
    (h : (∀ c ∈ front.getLast?, c ≠ '%') ∨ ∀ c ∈ rest.head?, Slot.ofLetter? c = none) :
    read (front ++ rest) = read front ++ read rest := by
  have behind (ds : List Char) {cs : List Char}
      (h : (∀ c ∈ (ds ++ cs).getLast?, c ≠ '%') ∨ ∀ c ∈ rest.head?, Slot.ofLetter? c = none) :
      (∀ c ∈ cs.getLast?, c ≠ '%') ∨ ∀ c ∈ rest.head?, Slot.ofLetter? c = none :=
    h.imp_left fun h c hc ↦ h c (List.mem_getLast?_append_of_mem_getLast? hc)
  fun_induction read front with
  | case1 => rfl
  | case2 c cs s hs ih =>
    rw [List.cons_append, List.cons_append, read_slot hs]
    exact congrArg (_ :: ·) (ih (behind ['%', c] h))
  | case3 c cs hs ih =>
    rw [List.cons_append, List.cons_append, read_percent hs]
    exact congrArg (_ :: ·) (ih (behind ['%'] h))
  | case4 c cs hc ih =>
    by_cases percent : c = '%'
    · -- A percent sign that begins no slot stands last, in front of the cut.
      subst percent
      cases cs with
      | cons d ds => exact absurd rfl (hc d ds rfl)
      | nil =>
        have stop := h.resolve_left fun h ↦ h '%' rfl rfl
        cases rest with
        | nil => rfl
        | cons d ds => exact read_percent (stop d rfl) ds
    · rw [List.cons_append, read_char percent]
      exact congrArg (_ :: ·) (ih (behind [c] h))

/-- No slot runs over a line end. -/
theorem read_line (front rest : List Char) :
    read (front ++ '\n' :: rest) = read front ++ .char '\n' :: read rest := by
  have cut : ∀ c ∈ ('\n' :: rest).head?, Slot.ofLetter? c = none := by
    rintro c ⟨⟩
    rfl
  rw [read_append (.inr cut), read_char (by decide)]

theorem read_of_forall_ne {cs : List Char} (h : ∀ c ∈ cs, c ≠ '%') : read cs = cs.map .char := by
  induction cs with
  | nil => rfl
  | cons c cs ih =>
    obtain ⟨hc, hcs⟩ := List.forall_mem_cons.mp h
    rw [read_char hc, ih hcs, List.map_cons]

/-! ## Filling -/

variable {settings : Settings} {ps : List Piece}

@[simp] theorem fillPieces_append (table : Slot → String) (ps qs : List Piece) :
    fillPieces table (ps ++ qs) = fillPieces table ps ++ fillPieces table qs :=
  List.flatMap_append

@[simp] theorem fillPieces_char (table : Slot → String) (c : Char) (ps : List Piece) :
    fillPieces table (.char c :: ps) = c :: fillPieces table ps := rfl

@[simp] theorem fillPieces_slot (table : Slot → String) (s : Slot) (ps : List Piece) :
    fillPieces table (.slot s :: ps) = (table s).toList ++ fillPieces table ps := rfl

theorem fillPieces_map_char (table : Slot → String) (cs : List Char) :
    fillPieces table (cs.map .char) = cs := by
  induction cs with
  | nil => rfl
  | cons c cs ih => rw [List.map_cons, fillPieces_char, ih]

/-- Only the slots that occur are looked up. -/
theorem fillPieces_congr {table table' : Slot → String}
    (h : ∀ s, .slot s ∈ ps → table s = table' s) : fillPieces table ps = fillPieces table' ps := by
  refine List.flatMap_congr fun p hp ↦ ?_
  cases p with
  | char c => rfl
  | slot s => exact congrArg String.toList (h s hp)

/-- All slots but that of the body are filled alike for all bodies. -/
theorem slots_of_ne_body {s : Slot} (h : s ≠ .body) (settings : Settings) (main main' : String) :
    slots settings main s = slots settings main' s := by
  cases s with
  | percent | asyncMarker | awaitMarker => rfl
  | body => exact absurd rfl h

/-- Every place for the body adds the length of the body. -/
theorem length_fillPieces (settings : Settings) (main : String) (ps : List Piece) :
    (fillPieces (slots settings main) ps).length =
      (fillPieces (slots settings "") ps).length + ps.count (.slot .body) * main.length := by
  induction ps with
  | nil => simp [fillPieces]
  | cons p ps ih =>
    cases p with
    | char c =>
      rw [fillPieces_char, fillPieces_char, List.length_cons, List.length_cons, ih,
        List.count_cons_of_ne (by simp)]
      omega
    | slot s =>
      rw [fillPieces_slot, fillPieces_slot, List.length_append, List.length_append, ih]
      by_cases hs : s = .body
      · subst hs
        rw [List.count_cons_self, Nat.succ_mul]
        simp only [slots, String.length_toList, String.length_empty]
        omega
      · rw [List.count_cons_of_ne (by simp [hs]), slots_of_ne_body hs settings main ""]
        omega

/-- Bodies of one length can be read off at the first place for them. -/
theorem body_eq_of_length_eq (h : .slot .body ∈ ps) {main main' : String}
    (hlen : main.length = main'.length)
    (heq : fillPieces (slots settings main) ps = fillPieces (slots settings main') ps) :
    main = main' := by
  induction ps with
  | nil => cases h
  | cons p ps ih =>
    cases p with
    | char c =>
      exact ih (by simpa using h) (List.cons.inj heq).2
    | slot s =>
      by_cases hs : s = .body
      · subst hs
        exact String.toList_inj.mp (List.append_inj_left heq hlen)
      · rw [fillPieces_slot, fillPieces_slot, slots_of_ne_body hs settings main main'] at heq
        have hmem : .slot .body ∈ ps := by simpa [Ne.symm hs] using h
        exact ih hmem (List.append_cancel_left heq)

/-- A template with a place for the body can be taken apart at the first such place. -/
theorem exists_fillPieces_eq (h : .slot .body ∈ ps) (settings : Settings) :
    ∃ qs rs, ∀ main, fillPieces (slots settings main) ps =
      fillPieces (slots settings main) qs ++ main.toList ++ fillPieces (slots settings main) rs := by
  obtain ⟨qs, rs, rfl⟩ := List.append_of_mem h
  refine ⟨qs, rs, fun main ↦ ?_⟩
  rw [fillPieces_append, fillPieces_slot, slots, List.append_assoc]

/-! ## Templates -/

theorem hasBody_iff {template : String} :
    hasBody template = true ↔ .slot .body ∈ read template.toList := by
  rw [hasBody, List.contains_iff_mem]

theorem hasBody_line (front rest : String) :
    hasBody (front ++ "\n" ++ rest) = (hasBody front || hasBody rest) := by
  have newline : "\n".toList = ['\n'] := rfl
  simp [hasBody, newline, read_line]

theorem toList_fill (table : Slot → String) (template : String) :
    (fill table template).toList = fillPieces table (read template.toList) :=
  String.toList_ofList

theorem fill_append (table : Slot → String) {front : String}
    (h : ∀ c ∈ front.toList.getLast?, c ≠ '%') (rest : String) :
    fill table (front ++ rest) = fill table front ++ fill table rest := by
  simp only [← String.toList_inj, toList_fill, String.toList_append, read_append (.inl h),
    fillPieces_append]

theorem fill_of_forall_ne (table : Slot → String) {text : String} (h : ∀ c ∈ text.toList, c ≠ '%') :
    fill table text = text := by
  rw [← String.toList_inj, toList_fill, read_of_forall_ne h, fillPieces_map_char]

theorem fill_line (table : Slot → String) (front rest : String) :
    fill table (front ++ "\n" ++ rest) = fill table front ++ "\n" ++ fill table rest := by
  have newline : "\n".toList = ['\n'] := rfl
  simp only [← String.toList_inj, toList_fill, String.toList_append, newline, List.append_assoc,
    List.singleton_append, read_line, fillPieces_append, fillPieces_char]

theorem fill?_slots (settings : Settings) (main template : String) :
    fill? (fun s ↦ some (slots settings main s)) template =
      .ok (fill (slots settings main) template) := by
  rw [fill?, fillPieces?_some]
  rfl

/-- What stands in a place for the body can be read off. -/
theorem fill_injective {template : String} (h : hasBody template = true) (settings : Settings) :
    Function.Injective fun main ↦ fill (slots settings main) template := by
  intro main main' heq
  have hbody := hasBody_iff.mp h
  have heq : fillPieces (slots settings main) (read template.toList) =
      fillPieces (slots settings main') (read template.toList) := String.ofList_injective heq
  have hlen := congrArg List.length heq
  rw [length_fillPieces, length_fillPieces settings main', Nat.add_left_cancel_iff] at hlen
  have hcount : 0 < (read template.toList).count (.slot .body) := List.count_pos_iff.mpr hbody
  exact body_eq_of_length_eq hbody (Nat.eq_of_mul_eq_mul_left hcount hlen) heq

/-- Where there is no place for it, the body does not show. -/
theorem fill_const {template : String} (h : hasBody template = false) (settings : Settings)
    (main main' : String) :
    fill (slots settings main) template = fill (slots settings main') template := by
  refine congrArg String.ofList (fillPieces_congr fun s hs ↦ slots_of_ne_body ?_ settings _ _)
  rintro rfl
  rw [hasBody_iff.mpr hs] at h
  cases h

theorem exists_fill_eq {template : String} (h : hasBody template = true) (settings : Settings)
    (main : String) :
    ∃ before after, fill (slots settings main) template = before ++ main ++ after := by
  obtain ⟨qs, rs, heq⟩ := exists_fillPieces_eq (hasBody_iff.mp h) settings
  refine ⟨.ofList (fillPieces (slots settings main) qs),
    .ofList (fillPieces (slots settings main) rs), ?_⟩
  rw [fill, heq, String.ofList_append, String.ofList_append, String.ofList_toList]

theorem render_of_hasBody {wrapper : String} (h : hasBody wrapper = true) (settings : Settings)
    (top main : String) :
    render settings top wrapper main = .ok (top ++ fill (slots settings main) wrapper) := by
  rw [render, validate, if_pos h]
  rfl

theorem validate_eq_ok_iff {wrapper : String} : validate wrapper = .ok () ↔ hasBody wrapper := by
  unfold validate
  split_ifs with h <;> simp [h]

/-- **A template that passes keeps the snippet.** Rendering with a template that passes starts with
the top, has the snippet as a block behind it, and tells all snippets apart. A template that does
not pass is filled to the same text for all snippets, and rendering with it fails for want of a
place and for no other reason; no slot of a template is ever without a text. So the templates that
pass are exactly those from which the snippet can be read off. -/
theorem render_keeps_snippet (settings : Settings) (top wrapper : String) :
    (validate wrapper = .ok () ↔
      Function.Injective fun main ↦ fill (slots settings main) wrapper) ∧
    (validate wrapper = .ok () → Function.Injective (render settings top wrapper) ∧
      ∀ main, ∃ before after,
        render settings top wrapper main = .ok (top ++ (before ++ main ++ after))) ∧
    (validate wrapper ≠ .ok () →
      (∃ text, ∀ main, fill? (fun s ↦ some (slots settings main s)) wrapper = .ok text) ∧
      validate wrapper = .error .noBodySlot ∧
      ∀ main, render settings top wrapper main = .error .noBodySlot) ∧
    ∀ main, fill? (fun s ↦ some (slots settings main s)) wrapper =
      .ok (fill (slots settings main) wrapper) := by
  rw [Ne, validate_eq_ok_iff]
  refine ⟨⟨fun h ↦ fill_injective h settings, fun hinj ↦ ?_⟩, fun h ↦ ⟨?_, fun main ↦ ?_⟩,
    fun h ↦ ?_, fun main ↦ fill?_slots settings main wrapper⟩
  · by_contra h
    have heq := hinj (fill_const (Bool.not_eq_true _ ▸ h) settings "" "x")
    exact absurd heq (by decide)
  · intro main main' heq
    rw [render_of_hasBody h, render_of_hasBody h] at heq
    exact fill_injective h settings (String.append_right_inj _ |>.mp (Except.ok.inj heq))
  · obtain ⟨before, after, heq⟩ := exists_fill_eq h settings main
    exact ⟨before, after, by rw [render_of_hasBody h, heq]⟩
  · have hvalid : validate wrapper = .error .noBodySlot := if_neg h
    refine ⟨⟨fill (slots settings "") wrapper, fun main ↦ ?_⟩, hvalid, fun main ↦ ?_⟩
    · rw [fill?_slots, fill_const (Bool.not_eq_true _ ▸ h) settings main ""]
    · rw [render, hvalid]
      rfl

/-- Two places, an escaped percent sign in front of the first and a marker that looks like a place
between them: the snippet is kept. The escaped one alone is no place. -/
theorem render_keeps_snippet_twice :
    let settings : Settings := { asyncMarker := "%s" }
    let wrapper := "%%%s%a%s"
    (validate wrapper = .ok () ∧ Function.Injective (render settings "//" wrapper) ∧
      ∃ before after, render settings "//" wrapper "a%s" =
        .ok ("//" ++ (before ++ "a%s" ++ after))) ∧
    validate "%%s" ≠ .ok () ∧ render settings "//" "%%s" "a%s" = .error .noBodySlot := by
  intro settings wrapper
  have passes : validate wrapper = .ok () := validate_eq_ok_iff.mpr (by decide)
  have refused : validate "%%s" ≠ .ok () := validate_eq_ok_iff.not.mpr (by decide)
  obtain ⟨-, keeps, -⟩ := render_keeps_snippet settings "//" wrapper
  obtain ⟨-, -, loses, -⟩ := render_keeps_snippet settings "//" "%%s"
  exact ⟨⟨passes, (keeps passes).1, (keeps passes).2 "a%s"⟩, refused, (loses refused).2.2 "a%s"⟩

end DartBlock.Template
