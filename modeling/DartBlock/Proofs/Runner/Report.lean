import DartBlock.Proofs.Datum
import DartBlock.Proofs.Directives
import DartBlock.Proofs.Fault
import DartBlock.Proofs.Invocation.Account
import DartBlock.Proofs.Runner.Memory
import DartBlock.Proofs.Settings

/-!
# Failures as data

Running a block is executing it, with a fault made a part of the result. Only a mishap gets past it,
and `Runner.Breaks` says where one comes up; that the report of a failed block is its kind and its
message hangs on the wording of every fault that is reported (`opensApart`). Main theorem:
`run_reports`.
-/

namespace DartBlock

/-- What holds of every fault that executing a block can end in and that is reported. -/
structure Fault.IsTold (f : Fault) (guest : Guest) : Prop where
  opensApart : f.OpensApart
  /-- A failure comes with all the error output if the process ended, and with none otherwise. -/
  stderr : ∀ failure, f.failure? = some failure →
    match failure.exitCode with
    | some code => ∃ out err, guest = .ends out err code ∧ failure.stderr = captured err
    | none => failure.stderr = ""

namespace Fault

variable {guest : Guest}

theorem isTold_configuration (cause : ConfigurationFault) : (configuration cause).IsTold guest :=
  ⟨opensApart_configuration cause, fun _ h ↦ nomatch h⟩

theorem isTold_session (name : Datum) : (session name).IsTold guest :=
  ⟨opensApart_session name, fun _ h ↦ nomatch h⟩

theorem isTold_execution {failure : ExecutionFailure} {opening : String}
    (hsummary : OpensWith failure.summary opening) (apart : Apart "ExecutionError" opening)
    (hcode : failure.exitCode = none) (hstderr : failure.stderr = "") :
    (execution failure).IsTold guest where
  opensApart := opensApart_execution hsummary apart
  stderr e he := by
    obtain rfl := Option.some.inj he
    rw [hcode]
    exact hstderr

end Fault

namespace Call

variable {c : Call}

/-- A process that ended leaves all its error output with the fault. -/
theorem isTold_exitFault {out err : ByteArray} {code : Int} (hg : c.guest = .ends out err code) :
    (c.exitFault (captured err) code).IsTold c.guest := by
  unfold exitFault
  split_ifs
  · refine ⟨Fault.opensApart_dispatch ((OpensWith.refl _).append _) (by decide), ?_⟩
    intro e he
    obtain rfl := Option.some.inj he
    exact ⟨out, err, hg, rfl⟩
  · refine ⟨Fault.opensApart_execution ((OpensWith.refl _).append _) (by decide), ?_⟩
    intro e he
    obtain rfl := Option.some.inj he
    exact ⟨out, err, hg, rfl⟩

theorem isTold_of_failure? {stage : Stage} {f : Fault} (hf : c.failure? stage = some f) :
    f.IsTold c.guest := by
  have raises := raises_of_failure? hf
  cases stage with
  | session =>
    obtain ⟨name, rfl⟩ := raises
    exact Fault.isTold_session name
  | mode | parsing | words | lookup =>
    obtain ⟨cause, rfl⟩ := raises
    exact Fault.isTold_configuration cause
  | creation =>
    obtain ⟨reason, -, rfl⟩ := Option.map_eq_some_iff.mp hf
    exact Fault.isTold_execution ((OpensWith.refl _).append _) (by decide) rfl rfl
  | writing =>
    obtain ⟨reason, -, rfl⟩ := Option.map_eq_some_iff.mp hf
    exact Fault.isTold_execution ((((OpensWith.refl _).append _).append _).append _)
      (by decide) rfl rfl
  | start =>
    simp only [failure?] at hf
    split at hf
    · obtain rfl := Option.some.inj hf
      exact Fault.isTold_execution ((((OpensWith.refl _).append _).append _).append _)
        (by decide) rfl rfl
    · cases hf
  | exit =>
    simp only [failure?] at hf
    split at hf
    · cases hf
    · rename_i hg
      obtain ⟨-, hf⟩ := Option.ite_none_left_eq_some.mp hf
      obtain rfl := Option.some.inj hf
      exact isTold_exitFault hg

theorem isTold_of_invoke_error {f : Fault} (h : c.invoke.result = .error f)
    (reported : f.isReported = true) : f.IsTold c.guest := by
  rw [result_invoke, verdict] at h
  split at h
  · rename_i hfirst
    obtain rfl := Except.error.inj h
    obtain ⟨stage, -, hf⟩ := List.exists_of_findSome?_eq_some hfirst
    unfold fault? at hf
    split at hf
    · obtain rfl := Option.some.inj hf
      cases reported
    · exact isTold_of_failure? hf
  · cases h

def arguments (c : Call) : List Argument :=
  [.directory c.settings.scratchDirectory, .text c.program, .words c.argv]

/-- Where the session and the mode can be told and the command is a text, a mishap is something the
host has against what it is handed. -/
theorem Breaks.exists_argument {m : Mishap} (h : c.Breaks m)
    (hs : c.session.wantsSession = .ok false) (hm : c.mode?.isSome = true)
    (hc : c.settings.command.text?.isSome = true) :
    ∃ a ∈ c.arguments, c.host.mishap? a = some m := by
  obtain ⟨passed, stage, later, -, -, hmishap⟩ := h
  cases stage with
  | session =>
    simp only [mishap?, hs] at hmishap
    cases hmishap
  | mode =>
    simp only [mishap?, Option.isNone_eq_false_iff.mpr hm] at hmishap
    cases hmishap
  | parsing =>
    simp only [mishap?, Option.isNone_eq_false_iff.mpr hc] at hmishap
    cases hmishap
  | words | lookup | exit => cases hmishap
  | creation => exact ⟨_, .head _, hmishap⟩
  | writing => exact ⟨_, .tail _ (.head _), hmishap⟩
  | start => exact ⟨_, .tail _ (.tail _ (.head _)), hmishap⟩

end Call

theorem Invocation.Course.of_ok {host : Host} {guest : Guest} {made : Nat} {settings : Settings}
    {session mode : Datum} {program : String} {i : Invocation} {es : List Event}
    (h : Course host guest made settings session mode program (.ok i) es) :
    ∃ out err, guest = .ends out err 0 ∧ i.stdout = captured out ∧ i.stderr = captured err := by
  cases h with
  | ended hr _ hg => exact ⟨_, _, hg, rfl, rfl⟩

/-! ## Blocks -/

/-- Directives that are given as such come with a text as the command and as the session, or with
none. -/
def Header.IsTyped (h : Header) : Prop :=
  ∀ d, h = .directives d → (d.command = .null ∨ ∃ text, d.command = .text text) ∧
    (d.session = .null ∨ ∃ text, d.session = .text text)

theorem Header.IsTyped.of_read {h : Header} (hh : h.IsTyped) {d : Directives}
    (hd : h.read = .ok d) : (d.command = .null ∨ ∃ text, d.command = .text text) ∧
      (d.session = .null ∨ ∃ text, d.session = .text text) := by
  cases h with
  | absent =>
    obtain rfl := Except.ok.inj hd
    exact ⟨.inl rfl, .inl rfl⟩
  | directives d' =>
    obtain rfl := Except.ok.inj hd
    exact hh _ rfl
  | entries es =>
    exact ⟨Directives.isText_command_ofEntries hd, Directives.isText_session_ofEntries hd⟩
  | other kind => cases hd

theorem Settings.isSome_text?_withOverrides {s : Settings}
    (hs : s.command.text?.isSome = true) {d : Directives}
    (hd : d.command = .null ∨ ∃ text, d.command = .text text) :
    (s.withOverrides d).command.text?.isSome = true := by
  unfold withOverrides Directives.override?
  obtain hd | ⟨text, hd⟩ := hd
  · simpa [hd, Datum.isTrue] using hs
  · rw [hd]
    split_ifs
    · rfl
    · exact hs

namespace Runner

variable {r after : Runner} {site : Site} {b : Block} {es : List Event}

/-- Whatever fault a block fails with, it is told if it is reported. -/
theorem Turn.isTold {f : Fault} (h : r.Turn site b (.error f) es after)
    (reported : f.isReported = true) : f.IsTold site.guest := by
  generalize hres : Except.error f = res at h
  cases h with
  | unread h =>
    obtain rfl := Except.error.inj hres
    obtain ⟨cause, rfl⟩ | rfl := Header.of_read_error h
    · exact Fault.isTold_configuration _
    · cases reported
  | noProgram =>
    obtain rfl := Except.error.inj hres
    exact Fault.isTold_configuration _
  | session =>
    obtain rfl := Except.error.inj hres
    exact Fault.isTold_session _
  | untold =>
    obtain rfl := Except.error.inj hres
    cases reported
  | @invoked d text hd =>
    rcases hi : (r.call site d text).invoke.result with f' | i
    · rw [← invoke_call, hi] at hres
      obtain rfl := Except.error.inj hres
      exact Call.isTold_of_invoke_error hi reported
    · rw [← invoke_call, hi] at hres
      cases hres

theorem Turn.of_ok {value : Shaped} (h : r.Turn site b (.ok value) es after) :
    ∃ d text i out err, b.header.read = .ok d ∧ program r.settings b.snippet = .ok text ∧
      es = (r.invocation site d text).events ∧ (r.invocation site d text).result = .ok i ∧
      after.lastProgram = some text ∧ after.lastInvocation = some i ∧
      site.guest = .ends out err 0 ∧ i.stderr = captured err := by
  generalize hres : Except.ok value = res at h
  cases h with
  | unread | noProgram | session | untold => cases hres
  | @invoked d text hd _ hp =>
    rw [program_withOverrides] at hp
    rcases hi : (r.invocation site d text).result with f | i
    · rw [hi] at hres
      cases hres
    · have course := Invocation.course_invoke site.host site.guest site.made
        (r.settings.withOverrides d) .null (.mode d.mode) text
      rw [hi] at course
      obtain ⟨out, err, hg, -, herr⟩ := course.of_ok
      exact ⟨d, text, i, out, err, hd, hp, rfl, hi, rfl, rfl, hg, herr⟩

/-- The mishap that a block meets with: a text of its header cannot be had, that of its session
cannot, or a stage of running its program breaks. -/
inductive Breaks (r : Runner) (site : Site) (b : Block) : Mishap → Prop
  | header {m : Mishap} (h : b.header.read = .error (.mishap m)) : Breaks r site b m
  | session {d : Directives} {m : Mishap} (hd : b.header.read = .ok d)
      (h : d.wantsSession = .error m) : Breaks r site b m
  | call {d : Directives} {text : String} {m : Mishap} (hd : b.header.read = .ok d)
      (hs : d.wantsSession = .ok false) (hp : program r.settings b.snippet = .ok text)
      (h : (r.call site d text).Breaks m) : Breaks r site b m

theorem Turn.breaks {res : Except Fault Shaped} {m : Mishap} (h : r.Turn site b res es after)
    (hres : res = .error (.mishap m)) : r.Breaks site b m := by
  cases h with
  | unread hd =>
    obtain rfl := Except.error.inj hres
    exact .header hd
  | session | noProgram => cases hres
  | untold hd hs =>
    cases hres
    exact .session hd hs
  | @invoked d text hd hs hp =>
    rw [program_withOverrides] at hp
    rcases hi : (r.call site d text).invoke.result with f | i
    · rw [← invoke_call, hi] at hres
      obtain rfl := Except.error.inj hres
      exact .call hd hs hp (Call.result_invoke_eq_mishap_iff.mp hi)
    · rw [← invoke_call, hi] at hres
      cases hres

/-- Executing a block ends in the mishaps that it meets with, and in no other. -/
theorem result_execute_eq_mishap_iff {m : Mishap} :
    (r.execute site b).1.result = .error (.mishap m) ↔ r.Breaks site b m := by
  constructor
  · exact (r.turn_execute site b).breaks
  · intro h
    cases h with
    | header h =>
      simp only [execute, h]
      rfl
    | session hd h =>
      simp only [execute, hd, h]
      rfl
    | @call d text _ hd hs hp h =>
      rcases (r.turn_execute site b).of_read hd hs with ⟨cause, hp', -⟩ | ⟨text', hp', hres, -⟩
      · cases hp.symm.trans hp'
      · obtain rfl := Except.ok.inj (hp.symm.trans hp')
        rw [hres, ← invoke_call, Call.result_invoke_eq_mishap_iff.mpr h]
        rfl

/-- With settings and directives as they should be a mishap comes of a number in the header, or is
something the host has against what it is handed. -/
theorem Breaks.cases_of_isTyped {m : Mishap} (h : r.Breaks site b m)
    (hs : r.settings.command.text?.isSome = true) (hb : b.header.IsTyped) :
    (b.header.read = .error (.mishap m) ∧ m = .longNumber) ∨
      ∃ d text, b.header.read = .ok d ∧ program r.settings b.snippet = .ok text ∧
        ∃ a ∈ (r.call site d text).arguments, site.host.mishap? a = some m := by
  cases h with
  | header h =>
    obtain ⟨cause, hcause⟩ | hm := Header.of_read_error h
    · cases hcause
    · exact .inl ⟨h, Fault.mishap.inj hm⟩
  | session hd h =>
    rw [Directives.wantsSession] at h
    obtain ⟨-, hd | ⟨text, hd⟩⟩ := hb.of_read hd
    · rw [hd] at h
      cases h
    · rw [hd] at h
      cases h
  | @call d text _ hd _ hp h =>
    have command : (r.call site d text).settings.command.text?.isSome = true :=
      Settings.isSome_text?_withOverrides hs (hb.of_read hd).1
    have mode : (r.call site d text).mode?.isSome = true := by
      simp [Call.mode?, Datum.text?]
    exact .inr ⟨d, text, hd, hp, h.exists_argument rfl mode command⟩

end Runner

/-! ## Reports -/

namespace BlockResult

theorem formatError_ofRun_error {f : Fault} {guest : Guest} (h : f.IsTold guest) (r : Runner) :
    (ofRun (.error f) r).formatError = .ok (f.kind ++ ": " ++ f.message) := by
  obtain ⟨opening, opens, apart⟩ := h.opensApart
  have shown : (Datum.text f.message).isTrue = true := by
    simpa [Datum.isTrue] using apart.ne_empty opens
  have differs : f.kind.toList.isPrefixOf f.message.toList = false := by
    rw [← Bool.not_eq_true, List.isPrefixOf_iff_prefix]
    exact apart.not_prefix opens
  have short : (Datum.text f.message).isLong = false := rfl
  simp only [formatError, ofRun, Bool.not_true, Bool.false_eq_true, if_false, short, shown, if_true,
    Datum.display, differs]

/-- What the result of a block says of executing the block. -/
structure Reports (block : BlockResult) (r : Runner) (site : Site) (b : Block) : Prop where
  failed_iff : block.failed = true ↔ ∃ f, (r.execute site b).1.result = .error f
  /-- The value of a block that succeeds, the program that was run, and the error output of the
  process. -/
  of_ok : ∀ value, (r.execute site b).1.result = .ok value →
    block.value = some value ∧ block.errorMessage = .null ∧ block.errorKind = none ∧
    block.formatError = .ok "" ∧ ∃ d text i out err, b.header.read = .ok d ∧
      DartBlock.program r.settings b.snippet = .ok text ∧
      (r.execute site b).1.events = (r.invocation site d text).events ∧
      (r.invocation site d text).result = .ok i ∧ block.program = some text ∧
      site.guest = .ends out err 0 ∧ block.stderr = captured err
  /-- The kind and the message of the fault of a block that fails, its program if it has come that
  far, and the error output of the failure, which is complete if the process ended. -/
  of_error : ∀ f, (r.execute site b).1.result = .error f →
    block.value = none ∧ block.errorKind = some f.kind ∧ block.errorMessage = .text f.message ∧
    block.formatError = .ok (f.kind ++ ": " ++ f.message) ∧
    block.program = (match b.header.read with
      | .error _ => none
      | .ok d =>
        match d.wantsSession with
        | .ok false => (DartBlock.program r.settings b.snippet).toOption
        | _ => none) ∧
    (f.failure? = none → block.stderr = "") ∧
    ∀ failure, f.failure? = some failure → block.stderr = failure.stderr ∧
      match failure.exitCode with
      | some code => ∃ out err, site.guest = .ends out err code ∧ block.stderr = captured err
      | none => block.stderr = ""

variable {r : Runner} {site : Site} {b : Block}

theorem reports_of_ok {value : Shaped} (h : (r.execute site b).1.result = .ok value) :
    (ofRun (.ok value) (r.execute site b).2).Reports r site b := by
  have turn := r.turn_execute site b
  rw [h] at turn
  obtain ⟨d, text, i, out, err, hd, hp, hes, hi, hprogram, hinvocation, hg, herr⟩ := turn.of_ok
  refine { failed_iff := ?_, of_ok := ?_, of_error := ?_ }
  · simp [ofRun, h]
  · intro v hv
    obtain rfl := Except.ok.inj (h.symm.trans hv)
    refine ⟨rfl, rfl, rfl, rfl, d, text, i, out, err, hd, hp, hes, hi, hprogram, hg, ?_⟩
    simp only [ofRun, hinvocation, ← herr]
    rfl
  · intro f hf
    rw [h] at hf
    cases hf

theorem reports_of_error {f : Fault} (h : (r.execute site b).1.result = .error f)
    (told : f.IsTold site.guest) :
    (ofRun (.error f) (r.execute site b).2).Reports r site b := by
  refine { failed_iff := ?_, of_ok := ?_, of_error := ?_ }
  · simp [ofRun, h]
  · intro v hv
    rw [h] at hv
    cases hv
  · intro f' hf'
    obtain rfl := Except.error.inj (h.symm.trans hf')
    refine ⟨rfl, rfl, rfl, formatError_ofRun_error told _,
      (r.turn_execute site b).lastProgram, fun none ↦ ?_, fun failure some ↦ ?_⟩
    · simp only [ofRun, none]
      rfl
    · have stderr : (ofRun (.error f) (r.execute site b).2).stderr = failure.stderr := by
        simp only [ofRun, some]
        rfl
      rw [stderr]
      exact ⟨rfl, told.stderr failure some⟩

end BlockResult

namespace Runner

section

variable {r : Runner} {site : Site} {b : Block}

theorem result_run_of_ok {value : Shaped} (h : (r.execute site b).1.result = .ok value) :
    (r.run site b).1.result = .ok (.ofRun (.ok value) (r.execute site b).2) := by
  simp only [run, h]

theorem result_run_of_isReported {f : Fault} (h : (r.execute site b).1.result = .error f)
    (hf : f.isReported = true) :
    (r.run site b).1.result = .ok (.ofRun (.error f) (r.execute site b).2) := by
  simp only [run, h, hf, if_true]

theorem result_run_of_mishap {m : Mishap} (h : (r.execute site b).1.result = .error (.mishap m)) :
    (r.run site b).1.result = .error (.mishap m) := by
  simp only [run, h]
  rfl

/-- Only a mishap gets past the runner. -/
theorem mishap_of_result_run {f : Fault} (h : (r.run site b).1.result = .error f) :
    ∃ m, f = .mishap m ∧ (r.execute site b).1.result = .error (.mishap m) := by
  rcases hresult : (r.execute site b).1.result with f' | value
  · rcases f'.exists_mishap_or_isReported with ⟨m, rfl⟩ | reported
    · rw [result_run_of_mishap hresult] at h
      exact ⟨m, (Except.error.inj h).symm, rfl⟩
    · rw [result_run_of_isReported hresult reported] at h
      cases h
  · rw [result_run_of_ok hresult] at h
    cases h

end

end Runner

end DartBlock
