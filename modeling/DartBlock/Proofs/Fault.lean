import DartBlock.Fault
import Mathlib.Data.List.Infix

/-!
# Kinds and messages of faults

A message opens with words that tell it apart from the name of its kind (`Fault.OpensApart`),
whatever text of the user comes behind them. So a report can put the kind in front of the message
without saying it twice. For faults of the configuration and of sessions this holds as they are; of
a failed execution it holds where the summary is worded so.
-/

namespace DartBlock

/-! ## Openings of texts -/

def OpensWith (s opening : String) : Prop := ∃ rest, s = opening ++ rest

namespace OpensWith

variable {s opening : String}

theorem refl (s : String) : OpensWith s s := ⟨"", String.append_empty.symm⟩

theorem append (h : OpensWith s opening) (t : String) : OpensWith (s ++ t) opening := by
  obtain ⟨rest, rfl⟩ := h
  exact ⟨rest ++ t, String.append_assoc⟩

theorem trans {t : String} (h : OpensWith s t) (ht : OpensWith t opening) :
    OpensWith s opening := by
  obtain ⟨rest, rfl⟩ := h
  exact ht.append rest

end OpensWith

def Apart (s t : String) : Prop := ¬s.toList <+: t.toList ∧ ¬t.toList <+: s.toList

instance (s t : String) : Decidable (Apart s t) :=
  inferInstanceAs (Decidable (¬s.toList <+: t.toList ∧ ¬t.toList <+: s.toList))

/-- Texts that are apart stay apart whatever follows. -/
theorem Apart.not_prefix {word opening s : String} (h : Apart word opening)
    (hs : OpensWith s opening) : ¬word.toList <+: s.toList := by
  obtain ⟨rest, rfl⟩ := hs
  rw [String.toList_append]
  intro hprefix
  exact (List.prefix_or_prefix_of_prefix hprefix (List.prefix_append _ _)).elim h.1 h.2

theorem Apart.ne_empty {word opening s : String} (h : Apart word opening)
    (hs : OpensWith s opening) : s ≠ "" := by
  obtain ⟨rest, rfl⟩ := hs
  intro empty
  obtain ⟨rfl, -⟩ := String.append_eq_empty_iff.mp empty
  exact h.2 List.nil_prefix

/-! ## Messages -/

theorem ExecutionFailure.opensWith_summary (f : ExecutionFailure) :
    OpensWith f.message f.summary := by
  have summary := OpensWith.refl f.summary
  unfold message
  cases f.exitCode with
  | none =>
    dsimp only
    split_ifs
    · exact summary
    · exact (summary.append _).append _
  | some code =>
    dsimp only
    split_ifs
    · exact ((summary.append _).append _).append _
    · exact ((((summary.append _).append _).append _).append _).append _

namespace Fault

/-- Whatever is no mishap is reported. -/
theorem exists_mishap_or_isReported (f : Fault) :
    (∃ m, f = mishap m) ∨ f.isReported = true := by
  cases f with
  | mishap m => exact .inl ⟨m, rfl⟩
  | configuration | session | execution | dispatch => exact .inr rfl

/-- The message opens with words that tell it apart from the name of the kind. -/
def OpensApart (f : Fault) : Prop :=
  ∃ opening, OpensWith f.message opening ∧ Apart f.kind opening

theorem opensApart_configuration (cause : ConfigurationFault) :
    (configuration cause).OpensApart := by
  have opens : ∃ opening, OpensWith cause.message opening ∧
      Apart "ConfigurationError" opening := by
    cases cause with
    | noBodySlot | emptyCommand => exact ⟨_, .refl _, by decide⟩
    | unknownKeys | invalidYaml | badHeader | commandNotFound =>
      exact ⟨_, (OpensWith.refl _).append _, by decide⟩
    | notText | noMapping | badResultType =>
      exact ⟨_, ((OpensWith.refl _).append _).append _, by decide⟩
    | unreadableFile | badMode | badCommand =>
      exact ⟨_, (((OpensWith.refl _).append _).append _).append _, by decide⟩
  exact opens

theorem opensApart_session (name : Datum) : (session name).OpensApart := by
  have apart : Apart "SessionUnsupportedError"
      "Dart blocks do not support sessions (requested session: " := by decide
  exact ⟨_, ((OpensWith.refl _).append _).append _, apart⟩

section

variable {failure : ExecutionFailure} {opening : String}

theorem opensApart_execution (hsummary : OpensWith failure.summary opening)
    (apart : Apart "ExecutionError" opening) : (execution failure).OpensApart :=
  ⟨opening, failure.opensWith_summary.trans hsummary, apart⟩

theorem opensApart_dispatch (hsummary : OpensWith failure.summary opening)
    (apart : Apart "GuestDispatchError" opening) : (dispatch failure).OpensApart :=
  ⟨opening, failure.opensWith_summary.trans hsummary, apart⟩

end

end Fault

end DartBlock
