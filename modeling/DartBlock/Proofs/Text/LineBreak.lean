import DartBlock.Proofs.Text.Blank
import DartBlock.Text.LineBreak
import Mathlib.Data.List.DropRight

/-!
# Laws of line breaks

What becomes of a text whose breaks are unified and taken off its end, said without either step
(`dropTail_unifyBreaks_iff`): followed by some line feeds, it has the same lines as the text did.
And what becomes of one whose line feeds are written as pairs: unifying the breaks gives it back
(`unifyBreaks_pairBreaks`).
-/

namespace DartBlock.Text

/-- Two texts have the same lines. Each line break of the first, whether a pair, a carriage return
alone or a line feed, is a line feed of the second, and all other characters are the same. -/
inductive SameLines : List Char → List Char → Prop
  | nil : SameLines [] []
  | pair {cs ds : List Char} : SameLines cs ds → SameLines ('\r' :: '\n' :: cs) ('\n' :: ds)
  | alone {cs ds : List Char} : cs.head? ≠ some '\n' → SameLines cs ds →
      SameLines ('\r' :: cs) ('\n' :: ds)
  | other {c : Char} {cs ds : List Char} : c ≠ '\r' → SameLines cs ds →
      SameLines (c :: cs) (c :: ds)

theorem unifyBreaks_pair (cs : List Char) :
    unifyBreaks ('\r' :: '\n' :: cs) = '\n' :: unifyBreaks cs := rfl

theorem unifyBreaks_alone {cs : List Char} (h : cs.head? ≠ some '\n') :
    unifyBreaks ('\r' :: cs) = '\n' :: unifyBreaks cs := by
  rw [unifyBreaks]
  · rw [if_pos rfl]
  · rintro ds - rfl
    exact h rfl

theorem unifyBreaks_other {c : Char} (h : c ≠ '\r') (cs : List Char) :
    unifyBreaks (c :: cs) = c :: unifyBreaks cs := by
  rw [unifyBreaks]
  · rw [if_neg h]
  · rintro ds rfl
    exact absurd rfl h

theorem unifyBreaks_of_not_mem {cs : List Char} (h : '\r' ∉ cs) : unifyBreaks cs = cs := by
  induction cs with
  | nil => rfl
  | cons c cs ih =>
    have hc : c ≠ '\r' := fun hc ↦ h (hc ▸ List.mem_cons_self)
    rw [unifyBreaks_other hc, ih fun mem ↦ h (List.mem_cons_of_mem _ mem)]

theorem sameLines_unifyBreaks (cs : List Char) : SameLines cs (unifyBreaks cs) := by
  induction cs using unifyBreaks.induct with
  | case1 => exact .nil
  | case2 cs ih => exact .pair ih
  | case3 c cs unpaired ih =>
    by_cases hc : c = '\r'
    · subst hc
      have alone : cs.head? ≠ some '\n' := by
        intro head
        obtain ⟨cs, rfl⟩ := List.head?_eq_some_iff.mp head
        exact unpaired cs rfl rfl
      rw [unifyBreaks_alone alone]
      exact .alone alone ih
    · rw [unifyBreaks_other hc]
      exact .other hc ih

/-- No other text of line feeds has the same lines. -/
theorem SameLines.unifyBreaks_eq {cs ds : List Char} (h : SameLines cs ds) :
    unifyBreaks cs = ds := by
  induction h with
  | nil => rfl
  | pair _ ih => rw [unifyBreaks_pair, ih]
  | alone head _ ih => rw [unifyBreaks_alone head, ih]
  | other hc _ ih => rw [unifyBreaks_other hc, ih]

theorem SameLines.return_not_mem {cs ds : List Char} (h : SameLines cs ds) : '\r' ∉ ds := by
  induction h with
  | nil => exact List.not_mem_nil
  | pair _ ih | alone _ _ ih => exact List.not_mem_cons_of_ne_of_not_mem (by decide) ih
  | other hc _ ih => exact List.not_mem_cons_of_ne_of_not_mem hc.symm ih

/-- Where no carriage return is left, the breaks at the end are line feeds. -/
theorem dropTail_isBreak_iff {ds value : List Char} (h : '\r' ∉ ds) :
    dropTail isBreak ds = value ↔
      ∃ n, ds = value ++ List.replicate n '\n' ∧ value.getLast? ≠ some '\n' := by
  have feed (c : Char) (hc : c ∈ ds) : isBreak c ↔ c = '\n' := by
    have other : c ≠ '\r' := fun eq ↦ h (eq ▸ hc)
    simp [isBreak, other]
  change ds.rdropWhile isBreak = value ↔ _
  constructor
  · rintro rfl
    refine ⟨(ds.rtakeWhile isBreak).length, ?_, fun last ↦ ?_⟩
    · have feeds : ∀ c ∈ ds.rtakeWhile isBreak, c = '\n' := fun c hc ↦
        (feed c ((List.rtakeWhile_suffix isBreak ds).subset hc)).mp (List.mem_rtakeWhile_imp hc)
      rw [← List.eq_replicate_of_mem feeds, List.rdropWhile_append_rtakeWhile]
    · obtain ⟨ne, hlast⟩ := List.mem_getLast?_eq_getLast last
      have stops := List.rdropWhile_last_not isBreak ds ne
      rw [← hlast] at stops
      exact stops rfl
  · rintro ⟨n, rfl, last⟩
    rw [List.rdropWhile, List.reverse_append, List.reverse_replicate,
      List.dropWhile_append_of_pos (by simp [isBreak]), ← List.rdropWhile,
      List.rdropWhile_eq_self_iff]
    intro ne stops
    have hmem := List.getLast_mem ne
    rw [feed _ (List.mem_append_left _ hmem)] at stops
    exact last (by rw [List.getLast?_eq_some_getLast ne, stops])

/-- Unified and without the breaks at its end, a text is what is left of its lines. -/
theorem dropTail_unifyBreaks_iff {cs value : List Char} :
    dropTail isBreak (unifyBreaks cs) = value ↔
      ∃ n, SameLines cs (value ++ List.replicate n '\n') ∧ value.getLast? ≠ some '\n' := by
  rw [dropTail_isBreak_iff (sameLines_unifyBreaks cs).return_not_mem]
  refine exists_congr fun n ↦ and_congr_left fun _ ↦ ⟨fun eq ↦ ?_, SameLines.unifyBreaks_eq⟩
  exact eq ▸ sameLines_unifyBreaks cs

theorem strip_withoutFinalBreaks (t : String) :
    strip t.withoutFinalBreaks.toList = strip t.toList := by
  have blanks : ∀ c ∈ t.toList.rtakeWhile isBreak, isBlank c := by
    intro c hc
    have breaks := List.mem_rtakeWhile_imp hc
    rw [isBreak, Bool.or_eq_true, beq_iff_eq, beq_iff_eq] at breaks
    obtain rfl | rfl := breaks <;> rfl
  have cut : t.toList = t.withoutFinalBreaks.toList ++ t.toList.rtakeWhile isBreak := by
    rw [String.withoutFinalBreaks, String.toList_ofList]
    exact (List.rdropWhile_append_rtakeWhile).symm
  conv_rhs => rw [cut, strip_append_right blanks]

/-! ## Pairs -/

/-- Every line feed becomes a carriage return with a line feed. -/
def pairBreaks (cs : List Char) : List Char :=
  cs.flatMap fun c => if c = '\n' then ['\r', '\n'] else [c]

theorem pairBreaks_feed (cs : List Char) :
    pairBreaks ('\n' :: cs) = '\r' :: '\n' :: pairBreaks cs := rfl

theorem pairBreaks_other {c : Char} (h : c ≠ '\n') (cs : List Char) :
    pairBreaks (c :: cs) = c :: pairBreaks cs := by
  rw [pairBreaks, List.flatMap_cons, if_neg h]
  rfl

/-- Characters are skipped in pairs if the class does not tell the two breaks apart. -/
theorem dropWhile_pairBreaks {p : Char → Bool} (h : p '\r' = p '\n') (cs : List Char) :
    (pairBreaks cs).dropWhile p = pairBreaks (cs.dropWhile p) := by
  induction cs with
  | nil => rfl
  | cons c cs ih =>
    by_cases hc : c = '\n'
    · subst hc
      rw [pairBreaks_feed, List.dropWhile_cons, h, List.dropWhile_cons, List.dropWhile_cons]
      split
      · exact ih
      · rfl
    · rw [pairBreaks_other hc, List.dropWhile_cons, List.dropWhile_cons]
      split
      · exact ih
      · exact (pairBreaks_other hc cs).symm

/-- Unifying the breaks undoes the pairs of a text that has no carriage returns of its own. -/
theorem unifyBreaks_pairBreaks {cs : List Char} (h : '\r' ∉ cs) :
    unifyBreaks (pairBreaks cs) = cs := by
  induction cs with
  | nil => rfl
  | cons c cs ih =>
    have hc : '\r' ≠ c := List.ne_of_not_mem_cons h
    have hcs := List.not_mem_of_not_mem_cons h
    by_cases feed : c = '\n'
    · subst feed
      rw [pairBreaks_feed, unifyBreaks_pair, ih hcs]
    · rw [pairBreaks_other feed, unifyBreaks_other hc.symm, ih hcs]

end DartBlock.Text

namespace String

def withPairedBreaks (s : String) : String :=
  ofList (DartBlock.Text.pairBreaks s.toList)

end String
