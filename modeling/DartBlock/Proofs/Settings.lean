import DartBlock.Settings
import Mathlib.Data.List.Basic

/-!
# What settings hold

Settings that were read from a mapping hold a text wherever a text is asked for.
-/

namespace DartBlock.Settings

variable {entries : Entries}

theorem ofEntries_nil : ofEntries [] = .ok {} := by
  have known : unknownKeys [] = [] := List.mergeSort_nil
  rw [ofEntries, known]
  rfl

theorem isSome_text?_of_misfit? (h : misfit? entries = none) {key : String} (hkey : key ∈ textKeys)
    {v : Datum} (hv : given? entries key = some v) : v.text?.isSome = true := by
  have fits := List.find?_eq_none.mp h key hkey
  simpa [hv, Option.isSome_iff_ne_none] using fits

/-- Settings are read if all keys are known and the text keys have texts. -/
theorem of_ofEntries {s : Settings} (h : ofEntries entries = .ok s) :
    unknownKeys entries = [] ∧ misfit? entries = none ∧
      s.command = (given? entries "command").getD (.text "dart") := by
  unfold ofEntries at h
  split at h
  · cases h
  · rename_i known
    split at h
    · cases h
    · rename_i fits
      obtain rfl := Except.ok.inj h
      exact ⟨not_not.mp known, fits, rfl⟩

theorem isSome_text?_command {s : Settings} (h : ofEntries entries = .ok s) :
    s.command.text?.isSome = true := by
  obtain ⟨-, fits, hcommand⟩ := of_ofEntries h
  rw [hcommand]
  rcases hv : given? entries "command" with _ | v
  · rfl
  · exact isSome_text?_of_misfit? fits (by simp [textKeys]) hv

end DartBlock.Settings
