import DartBlock.Proofs.Invocation.Course
import Mathlib.Data.List.Infix

/-!
# The stages of an invocation

An invocation passes nine stages in a fixed order. `Call.mishap?` and `Call.failure?` say what can
end a stage, where a mishap comes before the failure that is reported, and `Call.requests` says what
a stage asks the host for. Each stage is taken by itself: nothing looks at what happens at other
stages. The result and the record of an invocation are put together from them (`result_invoke`,
`events_invoke`): the first stage that fails decides the fault, and no stage after it asks for
anything. So it is settled what several faults at once lead to.
-/

namespace DartBlock

inductive Stage
  | session
  | mode
  | parsing
  | words
  | lookup
  | creation
  | writing
  | start
  | exit
  deriving DecidableEq, Repr

namespace Stage

/-- The stages that only look at what the invocation is given. -/
def checks : List Stage := [.session, .mode, .parsing, .words]

/-- The stages before the process. -/
def preparation : List Stage := checks ++ [.lookup, .creation, .writing]

def all : List Stage := preparation ++ [.start, .exit]

theorem mem_all (s : Stage) : s ∈ all := by
  cases s <;> simp [all, preparation, checks]

end Stage

namespace Guest

/-- What the process prints; nothing if it cannot be started. -/
def stdout : Guest → ByteArray
  | .unstartable _ => .empty
  | .ends out _ _ => out

def stderr : Guest → ByteArray
  | .unstartable _ => .empty
  | .ends _ err _ => err

end Guest

structure Call where
  host : Host
  guest : Guest
  made : Nat
  settings : Settings
  session : Datum
  mode : Datum
  program : String

namespace Call

abbrev invoke (c : Call) : Outcome Invocation :=
  DartBlock.invoke c.host c.guest c.made c.settings c.session c.mode c.program

def mode? (c : Call) : Option Mode := c.mode.text?.bind Mode.ofWord?

/-- The words of the command. A command that is no text has none. -/
def words (c : Call) : Except ConfigurationFault (List String) :=
  match c.settings.command.text? with
  | some text => (Shell.words text).mapError (.badCommand text)
  | none => .ok []

def name (c : Call) : String := (c.words.toOption.getD []).headD ""

/-- The command with its first word replaced by what was found for it. -/
def base (c : Call) : List String :=
  (c.host.which c.name).getD "" :: (c.words.toOption.getD []).tail

def path (c : Call) : String := scratchPath c.made

def argv (c : Call) : List String := c.base ++ [c.path, (c.mode?.map Mode.word).getD ""]

/-- The fault of a process that ended with an exit code other than zero. -/
def exitFault (c : Call) (stderr : String) (code : Int) : Fault :=
  let failure (summary : String) : ExecutionFailure :=
    { summary, exitCode := some code, stderr, command := c.argv }
  if Scaffold.rejectionMarker.toList <:+: stderr.toList then
    .dispatch (failure
      ("Dart program rejected result mode " ++ ((c.mode?.map Mode.word).getD "").inQuotes))
  else
    let line := " ".intercalate c.base
    .execution (failure ("Dart execution failed: " ++ if line = "" then c.base.headD "" else line))

/-- The mishap a stage ends in. -/
def mishap? (c : Call) : Stage → Option Mishap
  | .session =>
    match c.session.wantsSession with
    | .error m => some m
    | .ok _ => none
  | .mode => if c.mode?.isNone ∧ c.mode.isLong = true then some .longNumber else none
  | .parsing =>
    if c.settings.command.text?.isNone ∧ c.settings.command.isTrue = true then some .noCommand
    else none
  | .creation => c.host.mishap? (.directory c.settings.scratchDirectory)
  | .writing => c.host.mishap? (.text c.program)
  | .start => c.host.mishap? (.words c.argv)
  | .words | .lookup | .exit => none

/-- The fault a stage ends in, if it meets with no mishap. -/
def failure? (c : Call) : Stage → Option Fault
  | .session =>
    match c.session.wantsSession with
    | .ok true => some (.session (.text c.session.display))
    | _ => none
  | .mode => if c.mode?.isNone then some (.configuration (.badMode c.mode)) else none
  | .parsing =>
    match c.words with
    | .error cause => some (.configuration cause)
    | .ok _ => none
  | .words =>
    match c.words with
    | .ok [] => some (.configuration .emptyCommand)
    | _ => none
  | .lookup =>
    if (c.host.which c.name).isNone then some (.configuration (.commandNotFound c.name)) else none
  | .creation => c.host.creationError.map fun reason ↦
    .execution { summary := "Cannot create scratch file: " ++ reason }
  | .writing => c.host.writeError.map fun reason ↦
    .execution { summary := "Cannot write scratch file " ++ c.path ++ ": " ++ reason }
  | .start =>
    match c.guest with
    | .unstartable reason => some (.execution {
        summary := "Cannot run " ++ c.base.headD "" ++ ": " ++ reason
        command := c.argv })
    | .ends .. => none
  | .exit =>
    match c.guest with
    | .unstartable _ => none
    | .ends _ err code => if code = 0 then none else some (c.exitFault (captured err) code)

def fault? (c : Call) (stage : Stage) : Option Fault :=
  match c.mishap? stage with
  | some m => some (.mishap m)
  | none => c.failure? stage

/-- What a stage asks the host for. A file that the machine failed to write is removed at once, and
after a run the file is removed unless it is to be kept. -/
def requests (c : Call) : Stage → List Event
  | .session | .mode | .parsing | .words | .exit => []
  | .lookup => [.lookup c.name]
  | .creation => [.create c.settings.scratchDirectory
      (if (c.fault? .creation).isNone then some c.path else none)]
  | .writing =>
    match c.mishap? .writing, c.failure? .writing with
    | none, none => [.write c.path c.program true]
    | none, some _ => [.write c.path c.program false, .remove c.path]
    | some _, _ => [.write c.path c.program false]
  | .start => .run c.argv :: Invocation.disposal c.settings.keepScratch c.path

def report (c : Call) : Invocation where
  mode := c.mode?.getD .value
  command := c.argv
  stdout := captured c.guest.stdout
  stderr := captured c.guest.stderr
  exitCode := 0
  kept := if c.settings.keepScratch then some c.path else none

def verdict (c : Call) : Except Fault Invocation :=
  match Stage.all.findSome? c.fault? with
  | some f => .error f
  | none => .ok c.report

def entered (c : Call) : List Stage → List Stage
  | [] => []
  | s :: ss => s :: if (c.fault? s).isSome then [] else c.entered ss

def log (c : Call) : List Event := (c.entered Stage.all).flatMap c.requests

section

variable {c : Call}

/-- Stages that are passed are entered, and so are those behind them, up to one that fails. -/
theorem entered_append {ss : List Stage} (h : ∀ s ∈ ss, c.fault? s = none) (ts : List Stage) :
    c.entered (ss ++ ts) = ss ++ c.entered ts := by
  induction ss with
  | nil => rfl
  | cons s ss ih =>
    obtain ⟨hs, hss⟩ := List.forall_mem_cons.mp h
    simp [entered, hs, ih hss]

theorem entered_of_passed {ss : List Stage} (h : ∀ s ∈ ss, c.fault? s = none) :
    c.entered ss = ss := by
  simpa [entered] using entered_append h []

theorem entered_of_first {passed later : List Stage} {stage : Stage} {f : Fault}
    (hp : ∀ s ∈ passed, c.fault? s = none) (hf : c.fault? stage = some f) :
    c.entered (passed ++ stage :: later) = passed ++ [stage] := by
  rw [entered_append hp]
  simp [entered, hf]

/-- A last stage that asks for nothing does not show. -/
theorem flatMap_entered_concat {last : Stage} (h : c.requests last = []) (ss : List Stage) :
    (c.entered (ss ++ [last])).flatMap c.requests = (c.entered ss).flatMap c.requests := by
  induction ss with
  | nil => simp [entered, h]
  | cons s ss ih =>
    rw [List.cons_append, entered, entered]
    split_ifs
    · rfl
    · rw [List.flatMap_cons, List.flatMap_cons, ih]

theorem log_eq (c : Call) :
    c.log = (c.entered (Stage.preparation ++ [.start])).flatMap c.requests := by
  have hexit : c.requests .exit = [] := rfl
  exact flatMap_entered_concat hexit (Stage.preparation ++ [.start])

theorem passed_of_mem_entered {ss : List Stage} {stage : Stage} (h : stage ∈ c.entered ss) :
    ∃ passed later, ss = passed ++ stage :: later ∧ ∀ s ∈ passed, c.fault? s = none := by
  induction ss with
  | nil => cases h
  | cons s ss ih =>
    rcases List.mem_cons.mp h with rfl | h
    · exact ⟨[], ss, rfl, by simp⟩
    · split_ifs at h with hs
      · cases h
      · obtain ⟨passed, later, rfl, hp⟩ := ih h
        have hnone : c.fault? s = none := Option.not_isSome_iff_eq_none.mp hs
        exact ⟨s :: passed, later, rfl, List.forall_mem_cons.mpr ⟨hnone, hp⟩⟩

/-- The first stage that fails decides, and the stages after it are not entered. -/
theorem verdict_of_first {passed later : List Stage} {stage : Stage} {f : Fault}
    (hall : Stage.all = passed ++ stage :: later) (hp : ∀ s ∈ passed, c.fault? s = none)
    (hf : c.fault? stage = some f) :
    c.verdict = .error f ∧ c.log = passed.flatMap c.requests ++ c.requests stage := by
  constructor
  · have hfind : Stage.all.findSome? c.fault? = some f :=
      List.findSome?_eq_some_iff.mpr ⟨passed, stage, later, hall, hf, hp⟩
    rw [verdict, hfind]
  · rw [log, hall, entered_of_first hp hf, List.flatMap_append]
    simp

theorem verdict_of_passed (h : ∀ s, c.fault? s = none) :
    c.verdict = .ok c.report ∧ c.log = Stage.all.flatMap c.requests := by
  constructor
  · have hfind : Stage.all.findSome? c.fault? = none :=
      List.findSome?_eq_none_iff.mpr fun s _ ↦ h s
    rw [verdict, hfind]
  · rw [log, entered_of_passed fun s _ ↦ h s]

end

/-! ## Every course goes by the stages -/

section

open Invocation

variable {c : Call} {m : Mode} {name exe : String} {rest : List String}

/-- No command and an empty command have the same words. -/
theorem words_of_commandText {text : String}
    (h : (commandText c.settings.command).result = .ok text) :
    c.mishap? .parsing = none ∧ c.words = (Shell.words text).mapError (.badCommand text) := by
  rcases ht : c.settings.command.text? with _ | text'
  · simp only [commandText, ht] at h
    split_ifs at h with hb
    · cases h
    · obtain rfl := Except.ok.inj h
      exact ⟨by simp [mishap?, hb], by simp only [words, ht]; rfl⟩
  · simp only [commandText, ht] at h
    obtain rfl := Except.ok.inj h
    exact ⟨by simp [mishap?, ht], by simp only [words, ht]⟩

theorem mode?_of_admitted (h : Admitted c.settings c.session c.mode m name rest) :
    c.mode? = some m := h.mode

theorem words_of_admitted (h : Admitted c.settings c.session c.mode m name rest) :
    c.words = .ok (name :: rest) := by
  obtain ⟨text, ht, hw⟩ := h.command
  rw [(words_of_commandText ht).2, hw]
  rfl

theorem name_of_admitted (h : Admitted c.settings c.session c.mode m name rest) :
    c.name = name := by
  rw [Call.name, words_of_admitted h]
  rfl

theorem fault?_session (h : c.session.wantsSession = .ok false) : c.fault? .session = none := by
  simp [fault?, mishap?, failure?, h]

theorem fault?_mode (h : c.mode.text?.bind Mode.ofWord? = some m) : c.fault? .mode = none := by
  simp [fault?, mishap?, failure?, mode?, h]

theorem fault?_parsing {text : String} {ws : List String}
    (ht : (commandText c.settings.command).result = .ok text) (hw : Shell.words text = .ok ws) :
    c.fault? .parsing = none := by
  obtain ⟨hn, hws⟩ := words_of_commandText ht
  rw [fault?, hn]
  simp [failure?, hws, hw, Except.mapError]

theorem passed_of_admitted (h : Admitted c.settings c.session c.mode m name rest) :
    ∀ s ∈ Stage.checks, c.fault? s = none := by
  obtain ⟨text, ht, hw⟩ := h.command
  have hwords : c.fault? .words = none := by
    simp [fault?, mishap?, failure?, words_of_admitted h]
  simp [Stage.checks, fault?_session h.session, fault?_mode h.mode, fault?_parsing ht hw, hwords]

theorem base_of_found (h : Admitted c.settings c.session c.mode m name rest)
    (hf : c.host.which name = some exe) : c.base = exe :: rest := by
  rw [base, name_of_admitted h, words_of_admitted h, hf]
  rfl

theorem argv_of_found (h : Admitted c.settings c.session c.mode m name rest)
    (hf : c.host.which name = some exe) : c.argv = argvOf exe rest c.made m := by
  rw [argv, base_of_found h hf, mode?_of_admitted h]
  rfl

theorem fault?_lookup_of_found (h : Admitted c.settings c.session c.mode m name rest)
    (hf : c.host.which name = some exe) : c.fault? .lookup = none := by
  simp [fault?, mishap?, failure?, name_of_admitted h, hf]

theorem fault?_creation (h : Creates c.host c.settings.scratchDirectory) :
    c.fault? .creation = none := by
  simp [fault?, mishap?, failure?, h.placed, h.created]

theorem fault?_writing (h : Stores c.host c.program) : c.fault? .writing = none := by
  simp [fault?, mishap?, failure?, h.encoded, h.written]

theorem passed_of_found (h : Admitted c.settings c.session c.mode m name rest)
    (hf : c.host.which name = some exe) :
    ∀ s ∈ Stage.checks ++ [.lookup], c.fault? s = none :=
  List.forall_mem_append.mpr
    ⟨passed_of_admitted h, List.forall_mem_singleton.mpr (fault?_lookup_of_found h hf)⟩

theorem passed_of_created (h : Admitted c.settings c.session c.mode m name rest)
    (hf : c.host.which name = some exe) (hc : Creates c.host c.settings.scratchDirectory) :
    ∀ s ∈ Stage.checks ++ [.lookup, .creation], c.fault? s = none := by
  rw [List.append_cons]
  exact List.forall_mem_append.mpr
    ⟨passed_of_found h hf, List.forall_mem_singleton.mpr (fault?_creation hc)⟩

theorem passed_of_ready
    (h : Ready c.host c.settings c.session c.mode c.program m name exe rest) :
    ∀ s ∈ Stage.preparation, c.fault? s = none := by
  rw [show Stage.preparation = (Stage.checks ++ [.lookup, .creation]) ++ [.writing] from rfl]
  exact List.forall_mem_append.mpr
    ⟨passed_of_created h.toAdmitted h.found h.creates,
      List.forall_mem_singleton.mpr (fault?_writing h.stores)⟩

theorem fault?_start (h : Ready c.host c.settings c.session c.mode c.program m name exe rest)
    (hv : c.host.mishap? (.words (argvOf exe rest c.made m)) = none)
    {out err : ByteArray} {code : Int} (hg : c.guest = .ends out err code) :
    c.fault? .start = none := by
  simp [fault?, mishap?, argv_of_found h.toAdmitted h.found, hv, failure?, hg]

theorem requests_of_ready
    (h : Ready c.host c.settings c.session c.mode c.program m name exe rest) :
    Stage.all.flatMap c.requests = openingLog c.settings name c.made ++
      runLog c.settings c.made c.program (argvOf exe rest c.made m) := by
  simp [Stage.all, Stage.preparation, Stage.checks, requests, openingLog, runLog, Call.path,
    fault?_creation h.creates, mishap?, failure?, h.stores.encoded, h.stores.written,
    name_of_admitted h.toAdmitted, argv_of_found h.toAdmitted h.found]

theorem exitFault_of_judge
    (h : Ready c.host c.settings c.session c.mode c.program m name exe rest)
    {out err : ByteArray} {code : Int} (hcode : code ≠ 0) {f : Fault}
    (hf : (judge m (exe :: rest) (argvOf exe rest c.made m)
      ⟨captured out, captured err, code⟩).result = .error f) :
    f = c.exitFault (captured err) code := by
  unfold judge at hf
  rw [if_neg hcode] at hf
  unfold exitFault
  rw [argv_of_found h.toAdmitted h.found, base_of_found h.toAdmitted h.found,
    mode?_of_admitted h.toAdmitted]
  by_cases hr : rejected (captured err) = true
  · rw [if_pos hr] at hf
    rw [if_pos ((Text.occurs_iff _ _).mp hr)]
    exact (Except.error.inj hf).symm
  · rw [if_neg hr] at hf
    rw [if_neg (mt (Text.occurs_iff _ _).mpr hr)]
    exact (Except.error.inj hf).symm

/-- Whatever course an invocation takes, it goes by the stages. -/
theorem staged_of_course {res : Except Fault Invocation} {es : List Event}
    (h : Course c.host c.guest c.made c.settings c.session c.mode c.program res es) :
    res = c.verdict ∧ es = c.log := by
  have first : ∀ (passed : List Stage) (stage : Stage) {later : List Stage} {f : Fault}
      {es : List Event}, Stage.all = passed ++ stage :: later →
      (∀ s ∈ passed, c.fault? s = none) → c.fault? stage = some f →
      es = passed.flatMap c.requests ++ c.requests stage → .error f = c.verdict ∧ es = c.log := by
    intro passed stage later f es hall hp hf hes
    obtain ⟨hv, hl⟩ := verdict_of_first hall hp hf
    exact ⟨hv.symm, hes.trans hl.symm⟩
  cases h with
  | session h => exact first [] .session rfl (by simp) (by simp [fault?, mishap?, failure?, h]) rfl
  | untold h => exact first [] .session rfl (by simp) (by simp [fault?, mishap?, h]) rfl
  | mode hs h short =>
    refine first [.session] .mode rfl ?_ ?_ rfl
    · simp [fault?_session hs]
    · simp [fault?, mishap?, failure?, mode?, h, short]
  | longMode hs h long =>
    refine first [.session] .mode rfl ?_ ?_ rfl
    · simp [fault?_session hs]
    · simp [fault?, mishap?, mode?, h, long]
  | noText hs hm ht h =>
    refine first [.session, .mode] .parsing rfl ?_ ?_ rfl
    · simp [fault?_session hs, fault?_mode hm]
    · simp [fault?, mishap?, ht, h]
  | unparsed hs hm ht h =>
    obtain ⟨hn, hw⟩ := words_of_commandText ht
    refine first [.session, .mode] .parsing rfl ?_ ?_ rfl
    · simp [fault?_session hs, fault?_mode hm]
    · rw [fault?, hn]
      simp [failure?, hw, h, Except.mapError]
  | empty hs hm ht h =>
    obtain ⟨-, hw⟩ := words_of_commandText ht
    refine first [.session, .mode, .parsing] .words rfl ?_ ?_ rfl
    · simp [fault?_session hs, fault?_mode hm, fault?_parsing ht h]
    · simp [fault?, mishap?, failure?, hw, h, Except.mapError]
  | notFound ha h =>
    refine first Stage.checks .lookup rfl (passed_of_admitted ha) ?_ ?_
    · simp [fault?, mishap?, failure?, name_of_admitted ha, h]
    · simp [Stage.checks, requests, name_of_admitted ha]
  | misplaced ha hw h =>
    refine first (Stage.checks ++ [.lookup]) .creation rfl (passed_of_found ha hw) ?_ ?_
    · simp [fault?, mishap?, h]
    · simp [Stage.checks, requests, name_of_admitted ha, fault?, mishap?, h]
  | uncreated ha hw hd h =>
    refine first (Stage.checks ++ [.lookup]) .creation rfl (passed_of_found ha hw) ?_ ?_
    · simp [fault?, mishap?, hd, failure?, h]
    · simp [Stage.checks, requests, name_of_admitted ha, fault?, mishap?, hd, failure?, h]
  | unencoded ha hw hc h =>
    refine first (Stage.checks ++ [.lookup, .creation]) .writing rfl
      (passed_of_created ha hw hc) ?_ ?_
    · simp [fault?, mishap?, h]
    · simp [Stage.checks, requests, openingLog, Call.path, name_of_admitted ha, fault?_creation hc,
        mishap?, h]
  | unwritten ha hw hc hp h =>
    refine first (Stage.checks ++ [.lookup, .creation]) .writing rfl
      (passed_of_created ha hw hc) ?_ ?_
    · simp [fault?, mishap?, hp, failure?, h, Call.path]
    · simp [Stage.checks, requests, openingLog, Call.path, name_of_admitted ha, fault?_creation hc,
        mishap?, hp, failure?, h]
  | unworded hr h =>
    refine first Stage.preparation .start rfl (passed_of_ready hr) ?_ ?_
    · simp [fault?, mishap?, argv_of_found hr.toAdmitted hr.found, h]
    · rw [← requests_of_ready hr]
      simp [Stage.all, requests]
  | unstarted hr hv h =>
    refine first Stage.preparation .start rfl (passed_of_ready hr) ?_ ?_
    · simp [fault?, mishap?, hv, failure?, h, argv_of_found hr.toAdmitted hr.found,
        base_of_found hr.toAdmitted hr.found]
    · rw [← requests_of_ready hr]
      simp [Stage.all, requests]
  | failed hr hv hg h hf =>
    refine first (Stage.preparation ++ [.start]) .exit rfl ?_ ?_ ?_
    · exact List.forall_mem_append.mpr
        ⟨passed_of_ready hr, List.forall_mem_singleton.mpr (fault?_start hr hv hg)⟩
    · simp [fault?, mishap?, failure?, hg, h, exitFault_of_judge hr h hf]
    · rw [← requests_of_ready hr]
      simp [Stage.all, requests]
  | ended hr hv hg =>
    have hexit : c.fault? .exit = none := by simp [fault?, mishap?, failure?, hg]
    have hlast : ∀ s ∈ [Stage.start, .exit], c.fault? s = none := by
      simp [fault?_start hr hv hg, hexit]
    have hall : ∀ s ∈ Stage.all, c.fault? s = none :=
      List.forall_mem_append.mpr ⟨passed_of_ready hr, hlast⟩
    obtain ⟨hv, hl⟩ := verdict_of_passed fun s ↦ hall s s.mem_all
    rw [hv, hl, requests_of_ready hr]
    refine ⟨?_, rfl⟩
    simp [report, hg, mode?_of_admitted hr.toAdmitted, argv_of_found hr.toAdmitted hr.found,
      Guest.stdout, Guest.stderr, Call.path]

end

/-- An invocation yields what its stages yield. -/
theorem result_invoke (c : Call) : c.invoke.result = c.verdict :=
  (staged_of_course (Invocation.course_invoke _ _ _ _ _ _ _)).1

/-- An invocation asks for what the stages it enters ask for. -/
theorem events_invoke (c : Call) : c.invoke.events = c.log :=
  (staged_of_course (Invocation.course_invoke _ _ _ _ _ _ _)).2

theorem events_of_ready {c : Call} {m : Mode} {name exe : String} {rest : List String}
    (h : Invocation.Ready c.host c.settings c.session c.mode c.program m name exe rest) :
    c.invoke.events = Invocation.openingLog c.settings name c.made ++
      Invocation.runLog c.settings c.made c.program (Invocation.argvOf exe rest c.made m) := by
  -- Whether or not the start fails, it is entered.
  have hentered : c.entered (Stage.preparation ++ [.start]) = Stage.preparation ++ [.start] := by
    rw [entered_append (passed_of_ready h)]
    simp [entered]
  rw [events_invoke, log_eq, hentered, ← requests_of_ready h]
  simp [Stage.all, requests]

end Call

/-! ## Calls for different modes -/

/-- The request without the last word of what is started, where the mode stands. -/
def Event.withoutMode : Event → Event
  | .run argv => .run argv.dropLast
  | e => e

namespace Call

def withMode (c : Call) (m : Mode) : Call := { c with mode := .mode m }

theorem dropLast_argv (c : Call) : c.argv.dropLast = c.base ++ [c.path] := by
  rw [argv, List.append_cons, List.dropLast_concat]

/-- Stages that fail alike are entered alike, whatever becomes of the last of them. -/
theorem entered_concat_congr {c c' : Call} {ss : List Stage}
    (h : ∀ s ∈ ss, (c.fault? s).isSome = (c'.fault? s).isSome) (last : Stage) :
    c.entered (ss ++ [last]) = c'.entered (ss ++ [last]) := by
  induction ss with
  | nil => simp [entered]
  | cons s ss ih =>
    obtain ⟨hs, hss⟩ := List.forall_mem_cons.mp h
    rw [List.cons_append, entered, entered, hs, ih hss]

/-- The mode of a call shows in its record only as the last word of what is started. -/
theorem log_withMode (c : Call) (m m' : Mode) :
    (c.withMode m).log.map Event.withoutMode = (c.withMode m').log.map Event.withoutMode := by
  have hfails : ∀ s ∈ Stage.preparation,
      ((c.withMode m).fault? s).isSome = ((c.withMode m').fault? s).isSome := by
    intro s hs
    cases s with
    | mode => simp [withMode, fault?, mishap?, failure?, mode?, Datum.text?]
    | start | exit => simp [Stage.preparation, Stage.checks] at hs
    | session | parsing | words | lookup | creation | writing => rfl
  have hrequests : ∀ s, ((c.withMode m).requests s).map Event.withoutMode =
      ((c.withMode m').requests s).map Event.withoutMode := by
    intro s
    cases s with
    | start =>
      simp only [requests, List.map_cons, Event.withoutMode, dropLast_argv]
      rfl
    | session | mode | parsing | words | lookup | creation | writing | exit => rfl
  rw [log_eq, log_eq, entered_concat_congr hfails, List.map_flatMap, List.map_flatMap]
  exact List.flatMap_congr fun s _ ↦ hrequests s

end Call

end DartBlock
