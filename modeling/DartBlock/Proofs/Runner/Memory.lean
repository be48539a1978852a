import DartBlock.Proofs.Runner.Expansion

/-!
# What a runner remembers

Executing a block reads nothing of what the runner remembers, and overwrites all of it
(`execute_congr`, `Turn.lastProgram`, `Turn.of_lastInvocation`). Expanding a block reads nothing of
it either, but overwrites the program only (`runner_expand`).
-/

namespace DartBlock

namespace Runner

variable {r r' : Runner} {site : Site} {b : Block}

/-! ## Executing -/

theorem settings_cleared (r : Runner) : r.cleared.settings = r.settings := rfl

theorem cleared_cleared (r : Runner) : r.cleared.cleared = r.cleared := rfl

theorem perform_cleared (r : Runner) (site : Site) (d : Directives) (snippet : String) :
    r.cleared.perform site d snippet = r.perform site d snippet := by
  unfold perform
  rw [settings_cleared, cleared_cleared]

theorem execute_cleared (r : Runner) (site : Site) (b : Block) :
    r.cleared.execute site b = r.execute site b := by
  unfold execute
  simp only [cleared_cleared, perform_cleared]

/-- Only the settings of a runner show when it executes a block. -/
theorem execute_congr (h : r.settings = r'.settings) (site : Site) (b : Block) :
    r.execute site b = r'.execute site b := by
  have hcleared : r.cleared = r'.cleared := by rw [cleared, cleared, h]
  rw [← execute_cleared, hcleared, execute_cleared]

theorem run_congr (h : r.settings = r'.settings) (site : Site) (b : Block) :
    r.run site b = r'.run site b := by
  rw [run, run, execute_congr h]

section

variable {res : Except Fault Shaped} {es : List Event} {after : Runner}

theorem Turn.lastInvocation_of_error (h : r.Turn site b res es after) {f : Fault}
    (hres : res = .error f) : after.lastInvocation = none := by
  cases h with
  | unread | session | untold | noProgram => rfl
  | @invoked d text =>
    rcases hi : (r.invocation site d text).result with f | i
    · rfl
    · rw [hi] at hres
      cases hres

/-- The program that is remembered is that of the block itself, if it has come that far. -/
theorem Turn.lastProgram (h : r.Turn site b res es after) :
    after.lastProgram =
      match b.header.read with
      | .error _ => none
      | .ok d =>
        match d.wantsSession with
        | .ok false => (program r.settings b.snippet).toOption
        | _ => none := by
  cases h with
  | unread h =>
    rw [h]
    rfl
  | session hd h | untold hd h =>
    simp only [hd, h]
    rfl
  | noProgram hd hs h =>
    rw [program_withOverrides] at h
    simp only [hd, hs, h]
    rfl
  | invoked hd hs h =>
    rw [program_withOverrides] at h
    simp only [hd, hs, h]
    rfl

theorem Turn.of_lastInvocation (h : r.Turn site b res es after) {i : Invocation}
    (hi : after.lastInvocation = some i) :
    ∃ d text, b.header.read = .ok d ∧ after.lastProgram = some text ∧
      (r.invocation site d text).result = .ok i := by
  cases h with
  | unread | session | untold | noProgram => cases hi
  | @invoked d text hd =>
    refine ⟨d, text, hd, rfl, ?_⟩
    rcases hres : (r.invocation site d text).result with f | i'
    · rw [hres] at hi
      cases hi
    · rw [hres] at hi
      exact congrArg _ (Option.some.inj hi)

end

/-! ## Expanding -/

theorem result_expand_congr (h : r.settings = r'.settings) (b : Block) :
    (r.expand b).1.result = (r'.expand b).1.result := by
  rcases hd : b.header.read with cause | d
  · rw [result_expand_of_unread hd, result_expand_of_unread hd]
  · rw [result_expand_of_read hd, result_expand_of_read hd, h]

/-- A block that is expanded overwrites the program that is remembered, and nothing else. -/
theorem runner_expand (r : Runner) (b : Block) :
    (r.expand b).2 =
      { r with lastProgram := (r.expand b).1.result.toOption.or r.lastProgram } := by
  rcases hd : b.header.read with cause | d
  · simp only [expand, hd]
    rfl
  · simp only [expand, hd]
    rcases (synthesize (r.settings.withOverrides d) d.mode b.snippet).result with f | text <;> rfl

end Runner

end DartBlock
