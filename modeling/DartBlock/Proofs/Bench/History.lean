import DartBlock.Proofs.Bench.Steps
import DartBlock.Proofs.Runner.Memory

/-!
# What a bench keeps of its past

`Bench.after` is the bench that a run leaves behind. A block that is executed overwrites all that
its runner remembers, so nothing of the past shows in it (`execute_after_any_past`). A block that is
expanded overwrites the program only: the record of a runner, its last program beside its last
invocation, belongs together as long as nothing else has been expanded since (`record_after`).
-/

namespace DartBlock

/-- What expanding the block of a step yields, if it has a program. -/
def Step.expansion? (settings : Settings) (s : Step) : Option String :=
  (({ settings } : Runner).expand s.block).1.result.toOption

namespace Bench

def after (b : Bench) : List Step → Bench
  | [] => b
  | s :: ss => (b.step s).2.after ss

theorem after_append (b : Bench) (ss ts : List Step) :
    b.after (ss ++ ts) = (b.after ss).after ts := by
  induction ss generalizing b with
  | nil => rfl
  | cons s ss ih => exact ih (b.step s).2

theorem settings_after (b : Bench) (ss : List Step) :
    (b.after ss).runner.settings = b.runner.settings := by
  induction ss generalizing b with
  | nil => rfl
  | cons s ss ih => exact (ih (b.step s).2).trans (settings_step b s)

/-- **Nothing of the past shows.** Runners with the same settings, whatever steps they have taken,
execute a block in the same way and are left in the same state; and what they remember then is
of this block: its program if it has one and asks for no session, and no invocation if it
fails. -/
theorem execute_after_any_past (settings : Settings) (made₁ made₂ : Nat)
    (past₁ past₂ : List Step) (site : Site) (block : Block) :
    let r₁ := (({ runner := { settings }, made := made₁ } : Bench).after past₁).runner
    let r₂ := (({ runner := { settings }, made := made₂ } : Bench).after past₂).runner
    r₁.execute site block = r₂.execute site block ∧ r₁.run site block = r₂.run site block ∧
      (r₁.execute site block).2.lastProgram = (match block.header.read with
        | .error _ => none
        | .ok d =>
          match d.wantsSession with
          | .ok false => (program settings block.snippet).toOption
          | _ => none) ∧
      ∀ f, (r₁.execute site block).1.result = .error f →
        (r₁.execute site block).2.lastInvocation = none := by
  intro r₁ r₂
  have h₁ : r₁.settings = settings := settings_after _ past₁
  have h₂ : r₂.settings = settings := settings_after _ past₂
  have hprogram := (r₁.turn_execute site block).lastProgram
  rw [h₁] at hprogram
  exact ⟨Runner.execute_congr (h₁.trans h₂.symm) site block,
    Runner.run_congr (h₁.trans h₂.symm) site block, hprogram,
    fun f hf ↦ (r₁.turn_execute site block).lastInvocation_of_error hf⟩

/-- A block with a header that cannot be read takes away what the block before it left. -/
theorem execute_after_any_past_unread :
    let settings : Settings := { wrapperTemplate := "%s", wrapperImports := "" }
    let host : Host := { which := fun _ ↦ some "/usr/bin/dart" }
    let guest : Guest := .ends .empty .empty 0
    let past : List Step :=
      [{ action := .execute, block := { snippet := "1" }, host, guest }]
    let r := (({ runner := { settings } } : Bench).after past).runner
    let after := (r.execute { host, guest } { snippet := "2", header := .other "int" }).2
    r.lastProgram = some "1" ∧ r.lastInvocation.isSome = true ∧
      after.lastProgram = none ∧ after.lastInvocation = none := by
  intro settings host guest past r after
  obtain ⟨-, -, hprogram, hinvocation⟩ := execute_after_any_past settings 0 0 past []
    { host, guest } { snippet := "2", header := .other "int" }
  exact ⟨by decide, by decide, hprogram, hinvocation _ rfl⟩

/-! ## The record of a runner -/

/-- A step that expands its block overwrites the program that is remembered, and nothing else. -/
theorem runner_step_expand (b : Bench) {s : Step} (h : s.action = .expand) :
    (b.step s).2.runner = { b.runner with
      lastProgram := (s.expansion? b.runner.settings).or b.runner.lastProgram } := by
  have hres : (b.runner.expand s.block).1.result =
      (({ settings := b.runner.settings } : Runner).expand s.block).1.result := by
    apply Runner.result_expand_congr
    rfl
  rw [runner_step, h]
  dsimp only
  rw [Runner.runner_expand, Step.expansion?, hres]

theorem runner_step_execute (b : Bench) {s : Step} (h : s.action ≠ .expand) :
    (b.step s).2.runner = (b.runner.execute (b.site s) s.block).2 := by
  rw [runner_step]
  cases ha : s.action with
  | execute | run => rfl
  | expand => exact absurd ha h

/-- The last block executed in `past` was run as `text` and led to the invocation `i`, and the steps
`later` that came after it only expanded blocks. -/
def Invoked (b : Bench) (past : List Step) (i : Invocation) (text : String) (later : List Step) :
    Prop :=
  ∃ before s d, past = before ++ s :: later ∧ s.action ≠ .expand ∧
    (∀ t ∈ later, t.action = .expand) ∧ s.block.header.read = .ok d ∧
    ((b.after before).runner.invocation ((b.after before).site s) d text).result = .ok i

/-- Beside an invocation that is remembered stands the program of the last block expanded since, or
else the one the invocation is of. -/
theorem record_after (b : Bench) (hb : b.runner.lastInvocation = none) (past : List Step)
    {i : Invocation} (hi : (b.after past).runner.lastInvocation = some i) :
    ∃ text later, b.Invoked past i text later ∧ (b.after past).runner.lastProgram =
      some ((later.filterMap (Step.expansion? b.runner.settings)).getLastD text) := by
  induction past using List.reverseRecOn with
  | nil => rw [show (b.after []).runner = b.runner from rfl, hb] at hi; cases hi
  | append_singleton past s ih =>
    have hlast : b.after (past ++ [s]) = ((b.after past).step s).2 := after_append b past [s]
    rw [hlast] at hi ⊢
    by_cases hs : s.action = .expand
    · rw [runner_step_expand _ hs] at hi ⊢
      obtain ⟨text, later, ⟨before, s', d, rfl, hs', hlater, hd, hres⟩, hprog⟩ := ih hi
      refine ⟨text, later ++ [s], ⟨before, s', d, by simp, hs', ?_, hd, hres⟩, ?_⟩
      · exact List.forall_mem_append.mpr ⟨hlater, List.forall_mem_singleton.mpr hs⟩
      · rw [settings_after, hprog, List.filterMap_append]
        cases hx : s.expansion? b.runner.settings <;> simp [hx]
    · rw [runner_step_execute _ hs] at hi ⊢
      obtain ⟨d, text, hd, hprog, hres⟩ := (Runner.turn_execute _ _ _).of_lastInvocation hi
      exact ⟨text, [], ⟨past, s, d, rfl, hs, by simp, hd, hres⟩, hprog⟩

/-- **The record of a runner.** Whatever steps have been taken from the start, expanding a block
leaves the last invocation as it is and overwrites the last program if the block has one; so the
program beside an invocation is the one it is of only where nothing else was expanded since. -/
theorem record_of_past (settings : Settings) (made : Nat) (past : List Step) :
    let start : Bench := { runner := { settings }, made }
    let r := (start.after past).runner
    (∀ s, s.action = .expand → ((start.after past).step s).2.runner = { r with
      lastProgram := (s.expansion? settings).or r.lastProgram }) ∧
    ∀ i, r.lastInvocation = some i → ∃ text later, start.Invoked past i text later ∧
      r.lastProgram = some ((later.filterMap (Step.expansion? settings)).getLastD text) := by
  intro start r
  have hsettings : r.settings = settings := settings_after start past
  refine ⟨fun s hs ↦ ?_, fun i hi ↦ start.record_after rfl past hi⟩
  have hstep := (start.after past).runner_step_expand hs
  rw [hsettings] at hstep
  exact hstep

/-- A block that is expanded after another was executed: the program of the one stands beside the
invocation of the other. -/
theorem record_of_two_blocks :
    let step (action : Action) (snippet : String) : Step := {
      action
      block := { snippet }
      host := { which := fun _ ↦ some "/usr/bin/dart" }
      guest := .ends .empty .empty 0 }
    let start : Bench := {
      runner := { settings := { wrapperTemplate := "%s", wrapperImports := "" } } }
    let executed := (start.after [step .execute "1"]).runner
    let expanded := (start.after [step .execute "1", step .expand "2"]).runner
    executed.lastProgram = some "1" ∧ expanded.lastProgram = some "2" ∧
      expanded.lastInvocation = executed.lastInvocation ∧
      expanded.lastInvocation.isSome = true := by
  decide

end Bench

end DartBlock
