import DartBlock.Proofs.Template
import Mathlib.Data.List.Chain
import Mathlib.Data.Nat.Init

/-!
# Runs of percent signs

A template can be read run by run instead of sign by sign. The signs of a maximal run are taken in
pairs, and each pair is an escaped percent sign; only a sign that is left over looks at the
character behind the run (`Run.read_text_append`). So a template is filled as its runs say, whatever
the texts of the table hold, and the first slot of a run that the table has no text for is the one
that is told (`fill?_by_runs`).
-/

namespace DartBlock.Template

/-! ## Cutting a template -/

/-- A run of percent signs and the text between it and the next run. -/
structure Run where
  length : Nat
  behind : List Char
  pos : 0 < length
  plain : '%' ∉ behind

namespace Run

def text (r : Run) : List Char := List.replicate r.length '%' ++ r.behind

/-- The slot of the sign that is left over, if there is one and the letter of a slot follows. -/
def lastSlot? (r : Run) : Option Slot :=
  if r.length % 2 = 1 then r.behind.head?.bind Slot.ofLetter? else none

def slots (r : Run) : List Slot :=
  List.replicate (r.length / 2) .percent ++ r.lastSlot?.toList

/-- What a run and the text behind it are filled to. -/
def filled (table : Slot → String) (r : Run) : List Char :=
  (List.replicate (r.length / 2) (table .percent).toList).flatten ++
    match r.lastSlot? with
    | some s => (table s).toList ++ r.behind.tail
    | none => List.replicate (r.length % 2) '%' ++ r.behind

def pieces (r : Run) : List Piece :=
  List.replicate (r.length / 2) (.slot .percent) ++
    match r.lastSlot? with
    | some s => .slot s :: r.behind.tail.map .char
    | none => (List.replicate (r.length % 2) '%' ++ r.behind).map .char

end Run

/-- A text cut at its runs of percent signs. The runs are maximal, since some other character stands
between any two of them. -/
structure Cut where
  front : List Char
  runs : List Run
  plain : '%' ∉ front
  apart : runs.IsChain fun r _ ↦ r.behind ≠ []

namespace Cut

def template (cut : Cut) : String :=
  String.ofList (cut.front ++ cut.runs.flatMap Run.text)

def slots (cut : Cut) : List Slot := cut.runs.flatMap Run.slots

/-- The first slot that a table has no text for. -/
def missing? (cut : Cut) (table : Slot → Option String) : Option Slot :=
  cut.slots.find? fun s ↦ (table s).isNone

def filled (cut : Cut) (table : Slot → String) : String :=
  String.ofList (cut.front ++ cut.runs.flatMap (Run.filled table))

/-- A character in front of a text is a run of its own, makes the first run longer or stands in
front of it. -/
theorem exists_cons (c : Char) (cut : Cut) :
    ∃ cut' : Cut, cut'.front ++ cut'.runs.flatMap Run.text =
      c :: (cut.front ++ cut.runs.flatMap Run.text) := by
  obtain ⟨front, runs, plain, apart⟩ := cut
  by_cases hc : c = '%'
  · subst hc
    cases front with
    | cons d front =>
      let first : Run := ⟨1, d :: front, Nat.one_pos, plain⟩
      refine ⟨⟨[], first :: runs, List.not_mem_nil, List.isChain_cons.mpr ⟨?_, apart⟩⟩, ?_⟩
      · intro _ _
        exact List.cons_ne_nil d front
      · rfl
    | nil =>
      cases runs with
      | nil =>
        exact ⟨⟨[], [⟨1, [], Nat.one_pos, plain⟩], List.not_mem_nil, .singleton _⟩, rfl⟩
      | cons r runs =>
        let longer : Run := ⟨r.length + 1, r.behind, Nat.succ_pos _, r.plain⟩
        obtain ⟨hr, hruns⟩ := List.isChain_cons.mp apart
        refine ⟨⟨[], longer :: runs, List.not_mem_nil, List.isChain_cons.mpr ⟨hr, hruns⟩⟩, ?_⟩
        rw [List.flatMap_cons, List.flatMap_cons, Run.text, List.replicate_succ]
        rfl
  · have plain' : '%' ∉ c :: front := List.not_mem_cons_of_ne_of_not_mem (Ne.symm hc) plain
    exact ⟨⟨c :: front, runs, plain', apart⟩, rfl⟩

theorem exists_template_eq (template : String) : ∃ cut : Cut, cut.template = template := by
  have chars (cs : List Char) : ∃ cut : Cut, cut.front ++ cut.runs.flatMap Run.text = cs := by
    induction cs with
    | nil => exact ⟨⟨[], [], List.not_mem_nil, .nil⟩, rfl⟩
    | cons c cs ih =>
      obtain ⟨cut, rfl⟩ := ih
      exact exists_cons c cut
  obtain ⟨cut, hcut⟩ := chars template.toList
  exact ⟨cut, by rw [Cut.template, hcut, String.ofList_toList]⟩

end Cut

/-! ## Reading a run -/

/-- Percent signs are read in pairs. -/
theorem read_replicate_append (k : Nat) (rest : List Char) :
    read (List.replicate k '%' ++ rest) =
      List.replicate (k / 2) (.slot .percent) ++
        read (List.replicate (k % 2) '%' ++ rest) := by
  induction k using Nat.twoStepInduction with
  | zero => rfl
  | one => rfl
  | more k ih _ =>
    have pair : read ('%' :: '%' :: (List.replicate k '%' ++ rest)) =
        .slot .percent :: read (List.replicate k '%' ++ rest) := read_slot rfl _
    rw [Nat.add_div_right k Nat.two_pos, Nat.add_mod_right, List.replicate_succ,
      List.replicate_succ, List.replicate_succ, List.cons_append, List.cons_append, pair, ih]
    rfl

theorem read_plain_append {plain : List Char} (h : '%' ∉ plain) (rest : List Char) :
    read (plain ++ rest) = plain.map .char ++ read rest := by
  have ne : ∀ c ∈ plain, c ≠ '%' := fun c hc eq ↦ h (eq ▸ hc)
  rw [read_append (.inl fun c hc ↦ ne c (List.mem_of_getLast? hc)), read_of_forall_ne ne]

namespace Run

variable {r : Run} {rest : List Char}

/-- A sign that is left over is a slot together with the letter behind it, and stands for itself
where there is none. -/
theorem read_left_over (odd : r.length % 2 = 1) (last : r.behind = [] → rest = []) :
    read ('%' :: (r.behind ++ rest)) =
      (match r.lastSlot? with
        | some s => .slot s :: r.behind.tail.map .char
        | none => .char '%' :: r.behind.map .char) ++ read rest := by
  rw [lastSlot?, if_pos odd]
  have plain := r.plain
  cases hbehind : r.behind with
  | nil =>
    rw [last hbehind]
    rfl
  | cons c behind =>
    rw [hbehind] at plain
    rw [List.head?_cons, Option.bind_some, List.cons_append]
    cases hs : Slot.ofLetter? c with
    | some s =>
      rw [read_slot hs, read_plain_append (List.not_mem_of_not_mem_cons plain)]
      rfl
    | none =>
      rw [read_percent hs, ← List.cons_append, read_plain_append plain]
      rfl

/-- A run is read for itself, if some text stands between it and what follows. -/
theorem read_text_append (last : r.behind = [] → rest = []) :
    read (r.text ++ rest) = r.pieces ++ read rest := by
  rw [text, List.append_assoc, read_replicate_append, pieces, List.append_assoc]
  congr 1
  rcases Nat.mod_two_eq_zero_or_one r.length with even | odd
  · have none : r.lastSlot? = none := if_neg (by omega)
    simp only [none, even, List.replicate_zero, List.nil_append]
    exact read_plain_append r.plain rest
  · rw [odd, List.replicate_one, List.singleton_append, read_left_over odd last]
    cases r.lastSlot? <;> rfl

end Run

theorem read_runs {runs : List Run} (apart : runs.IsChain fun r _ ↦ r.behind ≠ []) :
    read (runs.flatMap Run.text) = runs.flatMap Run.pieces := by
  induction runs with
  | nil => rfl
  | cons r runs ih =>
    obtain ⟨hr, hruns⟩ := List.isChain_cons.mp apart
    have last : r.behind = [] → runs.flatMap Run.text = [] := by
      intro none
      cases runs with
      | nil => rfl
      | cons next _ => exact absurd none (hr next rfl)
    rw [List.flatMap_cons, Run.read_text_append last, ih hruns, List.flatMap_cons]

theorem Cut.read_template (cut : Cut) :
    read cut.template.toList = cut.front.map .char ++ cut.runs.flatMap Run.pieces := by
  rw [template, String.toList_ofList, read_plain_append cut.plain, read_runs cut.apart]

/-! ## Filling a run -/

def Piece.slot? : Piece → Option Slot
  | .char _ => none
  | .slot s => some s

@[simp] theorem Piece.slot?_char (c : Char) : (Piece.char c).slot? = none := rfl

@[simp] theorem Piece.slot?_slot (s : Slot) : (Piece.slot s).slot? = some s := rfl

theorem filterMap_slot?_map_char (cs : List Char) :
    (cs.map Piece.char).filterMap Piece.slot? = [] := by
  rw [List.filterMap_map]
  exact List.filterMap_eq_nil_iff.mpr fun _ _ ↦ rfl

namespace Run

theorem filterMap_pieces (r : Run) : r.pieces.filterMap Piece.slot? = r.slots := by
  rw [pieces, slots, List.filterMap_append,
    List.filterMap_replicate_of_some (Piece.slot?_slot .percent)]
  cases r.lastSlot? with
  | none =>
    rw [filterMap_slot?_map_char]
    rfl
  | some s =>
    rw [List.filterMap_cons_some (Piece.slot?_slot s), filterMap_slot?_map_char]
    rfl

theorem fillPieces_pieces (table : Slot → String) (r : Run) :
    fillPieces table r.pieces = r.filled table := by
  have escaped : fillPieces table (List.replicate (r.length / 2) (.slot .percent)) =
      (List.replicate (r.length / 2) (table .percent).toList).flatten := by
    rw [fillPieces, List.flatMap_replicate]
  rw [pieces, filled, fillPieces_append, escaped]
  cases r.lastSlot? with
  | none => rw [fillPieces_map_char]
  | some s => rw [fillPieces_slot, fillPieces_map_char]

end Run

namespace Cut

theorem slots_eq (cut : Cut) :
    (read cut.template.toList).filterMap Piece.slot? = cut.slots := by
  rw [read_template, List.filterMap_append, filterMap_slot?_map_char, List.nil_append, slots,
    List.filterMap_flatMap]
  exact List.flatMap_congr fun r _ ↦ r.filterMap_pieces

theorem fill_template (table : Slot → String) (cut : Cut) :
    fill table cut.template = cut.filled table := by
  rw [fill, filled, read_template, fillPieces_append, fillPieces_map_char]
  congr 2
  rw [fillPieces, List.flatMap_assoc]
  exact List.flatMap_congr fun r _ ↦ r.fillPieces_pieces table

/-- The body has a place exactly where a sign is left over in front of its letter. -/
theorem body_mem_slots_iff (cut : Cut) :
    .body ∈ cut.slots ↔ ∃ r ∈ cut.runs, r.length % 2 = 1 ∧ r.behind.head? = some 's' := by
  have letter (c : Char) : Slot.ofLetter? c = some .body ↔ c = 's' := by
    unfold Slot.ofLetter?
    split_ifs <;> simp_all
  simp only [slots, List.mem_flatMap, Run.slots, List.mem_append, List.mem_replicate, reduceCtorEq,
    and_false, false_or, Option.mem_toList, Run.lastSlot?]
  refine exists_congr fun r ↦ and_congr_right fun _ ↦ ?_
  split_ifs with odd <;> simp [odd, Option.bind_eq_some_iff, letter]

end Cut

theorem fillPieces?_eq (table : Slot → Option String) (ps : List Piece) :
    fillPieces? table ps =
      match (ps.filterMap Piece.slot?).find? fun s ↦ (table s).isNone with
      | some s => .error s
      | none => .ok (fillPieces (fun s ↦ (table s).getD "") ps) := by
  induction ps with
  | nil => rfl
  | cons p ps ih =>
    cases p with
    | char c =>
      rw [fillPieces?, ih, List.filterMap_cons_none (Piece.slot?_char c), fillPieces_char]
      cases (ps.filterMap Piece.slot?).find? fun s ↦ (table s).isNone <;> rfl
    | slot s =>
      rw [fillPieces?, List.filterMap_cons_some (Piece.slot?_slot s), fillPieces_slot]
      cases hs : table s with
      | none => rw [List.find?_cons_of_pos (by simp [hs])]
      | some text =>
        rw [List.find?_cons_of_neg (by simp [hs]), ih]
        cases (ps.filterMap Piece.slot?).find? fun s ↦ (table s).isNone <;> rfl

/-- **Templates are filled by their runs.** Every template can be cut at its maximal runs of percent
signs. Each run gives half its length in percent slots; if a sign is left over and the letter of a
slot follows, it gives that slot, and otherwise the sign and the letter stay. Filling gives these
texts and the texts between the runs, in order, none of them read again, unless the table has no
text for some of these slots: then it gives the first of them. A template passes exactly if some run
of odd length is followed by the letter of the body. -/
theorem fill?_by_runs :
    (∀ template : String, ∃ cut : Cut, cut.template = template) ∧
    ∀ cut : Cut,
      (∀ table : Slot → Option String, fill? table cut.template =
        match cut.missing? table with
        | some s => .error s
        | none => .ok (cut.filled fun s ↦ (table s).getD "")) ∧
      (validate cut.template = .ok () ↔
        ∃ r ∈ cut.runs, r.length % 2 = 1 ∧ r.behind.head? = some 's') := by
  refine ⟨Cut.exists_template_eq, fun cut ↦ ⟨fun table ↦ ?_, ?_⟩⟩
  · rw [fill?, fillPieces?_eq, cut.slots_eq, Cut.missing?, ← Cut.fill_template, fill]
    split <;> rfl
  · have place : .slot .body ∈ read cut.template.toList ↔ .body ∈ cut.slots := by
      rw [← cut.slots_eq, List.mem_filterMap]
      constructor
      · exact fun h ↦ ⟨_, h, rfl⟩
      · rintro ⟨_ | s, h, hs⟩
        · cases hs
        · exact Option.some.inj hs ▸ h
    rw [validate_eq_ok_iff, hasBody_iff, place, cut.body_mem_slots_iff]

/-- Runs of three, two and one. -/
example : fill? (fun s ↦ if s = .body then some "%a" else some "%") "%%%s%%s%" = .ok "%%a%s%" := by
  decide

end DartBlock.Template
