import DartBlock.Directives
import DartBlock.Program

/-!
# The program of a snippet

What `program` yields, by the two ways a snippet can become one, and that it is no matter of the
header: overrides reach the command only.
-/

namespace DartBlock

namespace Template

@[simp] theorem fill_identity (table : Slot → String) :
    fill table Scaffold.identity = table .body := by
  have hread : read Scaffold.identity.toList = [.slot .body] := rfl
  simp [fill, hread, fillPieces]

theorem hasBody_identity : hasBody Scaffold.identity = true := rfl

end Template

/-- A snippet with an entry point stands behind the prelude, whatever the wrapper template is. -/
theorem program_of_entryPoint (settings : Settings) {snippet : String}
    (h : hasEntryPoint snippet = true) :
    program settings snippet = .ok (settings.preludeImports ++ snippet) := by
  rw [program, Split.ofSnippet, if_pos h]
  simp only [Template.render, Template.validate, Template.hasBody_identity, if_true,
    Template.fill_identity]
  rfl

theorem program_main (settings : Settings) :
    program settings "main() {}" = .ok (settings.preludeImports ++ "main() {}") :=
  program_of_entryPoint settings (by decide +kernel)

/-- Any other snippet is put into the wrapper template, which has to have a place for it. -/
theorem program_of_body (settings : Settings) {snippet : String}
    (h : hasEntryPoint snippet = false) :
    program settings snippet =
      if Template.hasBody settings.wrapperTemplate then
        .ok (settings.wrapperImports ++
          Template.fill (Template.slots settings snippet) settings.wrapperTemplate)
      else .error .noBodySlot := by
  rw [program, Split.ofSnippet, if_neg (by simp [h])]
  simp only [Template.render, Template.validate]
  split <;> rfl

/-- What a block overrides does not reach its program. -/
@[simp] theorem program_withOverrides (settings : Settings) (d : Directives) (snippet : String) :
    program (settings.withOverrides d) snippet = program settings snippet := by
  unfold Settings.withOverrides
  cases d.override? <;> rfl

end DartBlock
