import DartBlock.Bench
import DartBlock.Proofs.Runner.Turn
import Mathlib.Data.List.Forall2

/-!
# Runs of steps

What one step does to a bench, and the induction that carries a property of steps over to whole
runs. `Bench.log` is the record of a run: the requests of all its steps, one after the other.
-/

namespace DartBlock.Bench

abbrev site (b : Bench) (s : Step) : Site :=
  { host := s.host, guest := s.guest, made := b.made }

def log (b : Bench) (ss : List Step) : List Event :=
  (b.steps ss).flatMap fun turn ↦ turn.1.events

@[simp] theorem log_cons (b : Bench) (s : Step) (ss : List Step) :
    b.log (s :: ss) = (b.step s).1.events ++ (b.step s).2.log ss := rfl

/-! ## One step -/

/-- A step makes the requests of executing its block, or none if it only expands it. -/
theorem events_step (b : Bench) (s : Step) :
    (b.step s).1.events =
      match s.action with
      | .execute | .run => (b.runner.execute (b.site s) s.block).1.events
      | .expand => [] := by
  rcases s with ⟨action, block, host, guest⟩
  cases action with
  | execute =>
    simp only [step]
    exact Outcome.events_bind_of_forall_nil _ fun _ ↦ rfl
  | run =>
    simp only [step]
    exact Outcome.events_bind_of_forall_nil _ fun _ ↦ rfl
  | expand =>
    simp only [step]
    rw [Outcome.events_bind_of_forall_nil _ fun _ ↦ rfl, b.runner.events_expand block]

theorem runner_step (b : Bench) (s : Step) :
    (b.step s).2.runner =
      match s.action with
      | .execute | .run => (b.runner.execute (b.site s) s.block).2
      | .expand => (b.runner.expand s.block).2 := by
  rcases s with ⟨action, block, host, guest⟩
  cases action with
  | execute => simp only [step]
  | run =>
    simp only [step]
    rfl
  | expand => simp only [step]

theorem made_step (b : Bench) (s : Step) :
    (b.step s).2.made = b.made + (b.step s).1.events.countP Event.creates := rfl

@[simp] theorem settings_step (b : Bench) (s : Step) :
    (b.step s).2.runner.settings = b.runner.settings := by
  rw [runner_step]
  cases s.action with
  | execute => exact (b.runner.turn_execute (b.site s) s.block).settings
  | run => exact (b.runner.turn_execute (b.site s) s.block).settings
  | expand => exact b.runner.settings_expand s.block

/-- A step asks the host for nothing, or for what the invocation of one program asks. -/
theorem step_cases (b : Bench) (s : Step) :
    (b.step s).1.events = [] ∨
      ∃ d text res, s.block.header.read = .ok d ∧
        program (b.runner.settings.withOverrides d) s.block.snippet = .ok text ∧
        Invocation.Course s.host s.guest b.made (b.runner.settings.withOverrides d) .null
          (.mode d.mode) text res (b.step s).1.events := by
  have hexecute : ∀ {res es after}, b.runner.Turn (b.site s) s.block res es after →
      es = [] ∨ ∃ d text res, s.block.header.read = .ok d ∧
        program (b.runner.settings.withOverrides d) s.block.snippet = .ok text ∧
        Invocation.Course s.host s.guest b.made (b.runner.settings.withOverrides d) .null
          (.mode d.mode) text res es := by
    intro res es after h
    cases h with
    | unread | session | untold | noProgram => exact .inl rfl
    | invoked hd hs hp => exact .inr ⟨_, _, _, hd, hp, Invocation.course_invoke _ _ _ _ _ _ _⟩
  rw [events_step]
  cases s.action with
  | execute => exact hexecute (b.runner.turn_execute (b.site s) s.block)
  | run => exact hexecute (b.runner.turn_execute (b.site s) s.block)
  | expand => exact .inl rfl

/-! ## Whole runs -/

/-- What every step does from a bench with an invariant that steps keep, every step of a run
does. -/
theorem forall₂_steps (Inv : Bench → Prop) {P : Step → Outcome Reply × Bench → Prop}
    (hstep : ∀ b s, Inv b → P s (b.step s)) (hinv : ∀ b s, Inv b → Inv (b.step s).2)
    {b : Bench} (hb : Inv b) (ss : List Step) : List.Forall₂ P ss (b.steps ss) := by
  induction ss generalizing b with
  | nil => exact .nil
  | cons s ss ih => exact .cons (hstep b s hb) (ih (hinv b s hb))

theorem exists_step_of_mem {P : Step → Outcome Reply × Bench → Prop} {ss : List Step}
    {turns : List (Outcome Reply × Bench)} (h : List.Forall₂ P ss turns)
    {turn : Outcome Reply × Bench} (ht : turn ∈ turns) : ∃ s ∈ ss, P s turn := by
  induction h with
  | nil => cases ht
  | cons hst _ ih =>
    rcases List.mem_cons.mp ht with rfl | ht
    · exact ⟨_, List.mem_cons_self, hst⟩
    · obtain ⟨s, hs, hp⟩ := ih ht
      exact ⟨s, List.mem_cons_of_mem _ hs, hp⟩

end DartBlock.Bench
