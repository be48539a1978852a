import DartBlock.Proofs.Invocation.Stage

/-!
# What a call comes to

The stages of a call account for its result and its record: the first that fails decides the fault,
and its kind unless it is a mishap, and a process that ran is judged by its exit code alone. Nothing
hangs on whether a scratch file can be removed.
-/

namespace DartBlock

/-- The kinds of faults a stage can end in. Only a process that ended has an exit code. -/
def Stage.Raises : Stage → Fault → Prop
  | .session, f => ∃ name, f = .session name
  | .mode, f | .parsing, f | .words, f | .lookup, f => ∃ cause, f = .configuration cause
  | .creation, f | .writing, f | .start, f =>
    ∃ failure, f = .execution failure ∧ failure.exitCode = none
  | .exit, f => ∃ failure code, (f = .dispatch failure ∨ f = .execution failure) ∧
    failure.exitCode = some code ∧ code ≠ 0

theorem Stage.not_raises_mishap (stage : Stage) (m : Mishap) : ¬stage.Raises (.mishap m) := by
  cases stage with
  | session | mode | parsing | words | lookup => exact fun ⟨_, h⟩ ↦ nomatch h
  | creation | writing | start => exact fun ⟨_, h, _⟩ ↦ nomatch h
  | exit =>
    rintro ⟨failure, code, h | h, -⟩ <;> cases h

namespace Call

theorem raises_of_failure? {c : Call} {stage : Stage} {f : Fault} (hf : c.failure? stage = some f) :
    stage.Raises f := by
  cases stage with
  | session | parsing | words =>
    simp only [failure?] at hf
    split at hf
    · exact ⟨_, (Option.some.inj hf).symm⟩
    · cases hf
  | mode | lookup =>
    obtain ⟨-, hf⟩ := Option.ite_none_right_eq_some.mp hf
    exact ⟨_, (Option.some.inj hf).symm⟩
  | creation | writing =>
    obtain ⟨reason, -, rfl⟩ := Option.map_eq_some_iff.mp hf
    exact ⟨_, rfl, rfl⟩
  | start =>
    simp only [failure?] at hf
    split at hf
    · exact ⟨_, (Option.some.inj hf).symm, rfl⟩
    · cases hf
  | exit =>
    simp only [failure?] at hf
    split at hf
    · cases hf
    · obtain ⟨hcode, hf⟩ := Option.ite_none_left_eq_some.mp hf
      rw [← Option.some.inj hf, exitFault]
      split
      · exact ⟨_, _, .inl rfl, rfl, hcode⟩
      · exact ⟨_, _, .inr rfl, rfl, hcode⟩

/-- A stage ends in its mishap, or else in a fault of its kind. -/
theorem kind_of_fault? {c : Call} {stage : Stage} {f : Fault} (hf : c.fault? stage = some f) :
    match c.mishap? stage with
    | some m => f = .mishap m
    | none => stage.Raises f := by
  unfold fault? at hf
  cases hm : c.mishap? stage with
  | some m =>
    rw [hm] at hf
    exact (Option.some.inj hf).symm
  | none =>
    rw [hm] at hf
    exact raises_of_failure? hf

/-- The first stage that fails does so with a mishap. -/
def Breaks (c : Call) (m : Mishap) : Prop :=
  ∃ passed stage later, Stage.all = passed ++ stage :: later ∧
    (∀ s ∈ passed, c.fault? s = none) ∧ c.mishap? stage = some m

theorem mishap?_of_fault? {c : Call} {stage : Stage} {m : Mishap}
    (hf : c.fault? stage = some (.mishap m)) : c.mishap? stage = some m := by
  have kind := kind_of_fault? hf
  split at kind
  · rename_i hm
    rw [hm, Fault.mishap.inj kind]
  · exact absurd kind (stage.not_raises_mishap m)

theorem result_invoke_eq_mishap_iff {c : Call} {m : Mishap} :
    c.invoke.result = .error (.mishap m) ↔ c.Breaks m := by
  rw [result_invoke]
  constructor
  · intro h
    unfold verdict at h
    split at h
    · rename_i hfirst
      obtain rfl := Except.error.inj h
      obtain ⟨passed, stage, later, hall, hf, hp⟩ := List.findSome?_eq_some_iff.mp hfirst
      exact ⟨passed, stage, later, hall, hp, mishap?_of_fault? hf⟩
    · cases h
  · rintro ⟨passed, stage, later, hall, hp, hm⟩
    have hf : c.fault? stage = some (.mishap m) := by rw [fault?, hm]
    exact (verdict_of_first hall hp hf).1

/-- How a result and a record go by the stages of a call. -/
structure Accounts (c : Call) (result : Except Fault Invocation) (events : List Event) :
    Prop where
  /-- The first stage that fails decides the fault, a mishap or one of its kind. Asked for is what
  the stages before it and the stage itself ask for. -/
  fails_first : ∀ passed stage later fault, Stage.all = passed ++ stage :: later →
    (∀ s ∈ passed, c.fault? s = none) → c.fault? stage = some fault →
    result = .error fault ∧ events = passed.flatMap c.requests ++ c.requests stage ∧
      match c.mishap? stage with
      | some m => fault = .mishap m
      | none => stage.Raises fault
  /-- Where all stages are passed, the process is reported. -/
  succeeds : (∀ s, c.fault? s = none) →
    result = .ok c.report ∧ events = Stage.all.flatMap c.requests
  /-- Once the process ran, its exit code alone tells a report from a fault. -/
  ran : ∀ argv, .run argv ∈ events → argv = c.argv ∧
    (c.host.mishap? (.words argv) = none → ∀ out err code, c.guest = .ends out err code →
      result = if code = 0 then .ok c.report else .error (c.exitFault (captured err) code))

theorem eq_start_of_mem_requests {c : Call} {stage : Stage} {argv : List String}
    (h : .run argv ∈ c.requests stage) : stage = .start ∧ argv = c.argv := by
  cases stage with
  | session | mode | parsing | words | exit => cases h
  | lookup | creation => simp [requests] at h
  | writing =>
    simp only [requests] at h
    split at h <;> simp at h
  | start =>
    cases hk : c.settings.keepScratch <;> simp [requests, hk] at h <;> exact ⟨rfl, h⟩

/-- A run is asked for when all stages before the start of the process are passed. -/
theorem passed_of_run {c : Call} {argv : List String} (h : .run argv ∈ c.log) :
    argv = c.argv ∧ ∀ s ∈ Stage.preparation, c.fault? s = none := by
  obtain ⟨stage, hs, hrun⟩ := List.mem_flatMap.mp h
  obtain ⟨rfl, hargv⟩ := eq_start_of_mem_requests hrun
  obtain ⟨passed, later, hall, hp⟩ := passed_of_mem_entered hs
  have hpassed : passed = Stage.preparation ∧ later = [.exit] := by
    simpa [Stage.all, Stage.preparation, Stage.checks, List.cons_eq_append_iff] using hall
  exact ⟨hargv, hpassed.1 ▸ hp⟩

end Call

end DartBlock
