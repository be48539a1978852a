import DartBlock.Invocation
import DartBlock.Proofs.Outcome
import Mathlib.Tactic.SplitIfs

/-!
# The course of an invocation

`Invocation.Course` lists every way in which a program can be run: for each stage that can fail one
case for its fault and one for a mishap, where there can be one, and a last one for a program that
ended well. A case states what held of the stages before it, the requests that were made, and the
result. `course_invoke` says that an invocation takes one of
these courses; what else is to be said of invocations is read off from it.
-/

namespace DartBlock.Invocation

def argvOf (exe : String) (rest : List String) (made : Nat) (m : Mode) : List String :=
  exe :: rest ++ [scratchPath made, m.word]

def disposal (keep : Bool) (path : String) : List Event :=
  if keep then [] else [.remove path]

@[simp] theorem disposal_true (path : String) : disposal true path = [] := rfl

@[simp] theorem disposal_false (path : String) : disposal false path = [.remove path] := rfl

def openingLog (settings : Settings) (name : String) (made : Nat) : List Event :=
  [.lookup name, .create settings.scratchDirectory (some (scratchPath made))]

/-- The requests from the scratch file on, where the process is started. -/
def runLog (settings : Settings) (made : Nat) (program : String) (argv : List String) :
    List Event :=
  .write (scratchPath made) program true :: .run argv
    :: disposal settings.keepScratch (scratchPath made)

/-- The host is asked for something: there is no session, the mode is known, and the command has
the words `name :: rest`. -/
structure Admitted (settings : Settings) (session mode : Datum) (m : Mode) (name : String)
    (rest : List String) : Prop where
  session : session.wantsSession = .ok false
  mode : mode.text?.bind Mode.ofWord? = some m
  command : ∃ text, (commandText settings.command).result = .ok text ∧
    Shell.words text = .ok (name :: rest)

theorem Admitted.mode_eq {settings : Settings} {session : Datum} {m m' : Mode}
    {name : String} {rest : List String}
    (h : Admitted settings session (.mode m) m' name rest) : m' = m := by
  have hm := h.mode
  simp only [Datum.text?, Option.bind_some, Mode.ofWord?_word, Option.some.injEq] at hm
  exact hm.symm

structure Creates (host : Host) (directory : Datum) : Prop where
  placed : host.mishap? (.directory directory) = none
  created : host.creationError = none

structure Stores (host : Host) (text : String) : Prop where
  encoded : host.mishap? (.text text) = none
  written : host.writeError = none

/-- The process can be asked for: the command was found and the scratch file holds the program. -/
structure Ready (host : Host) (settings : Settings) (session mode : Datum) (program : String)
    (m : Mode) (name exe : String) (rest : List String) : Prop
    extends Admitted settings session mode m name rest where
  found : host.which name = some exe
  creates : Creates host settings.scratchDirectory
  stores : Stores host program

/-- What an invocation yields, and the requests it makes. -/
inductive Course (host : Host) (guest : Guest) (made : Nat) (settings : Settings)
    (session mode : Datum) (program : String) : Except Fault Invocation → List Event → Prop
  | session (h : session.wantsSession = .ok true) :
      Course host guest made settings session mode program
        (.error (.session (.text session.display))) []
  /-- It cannot be told whether one is. -/
  | untold {mishap : Mishap} (h : session.wantsSession = .error mishap) :
      Course host guest made settings session mode program (.error (.mishap mishap)) []
  | mode (hs : session.wantsSession = .ok false) (h : mode.text?.bind Mode.ofWord? = none)
      (short : mode.isLong = false) :
      Course host guest made settings session mode program
        (.error (.configuration (.badMode mode))) []
  /-- The mode is none and cannot be named. -/
  | longMode (hs : session.wantsSession = .ok false) (h : mode.text?.bind Mode.ofWord? = none)
      (long : mode.isLong = true) :
      Course host guest made settings session mode program (.error (.mishap .longNumber)) []
  /-- The command is no text. -/
  | noText {m : Mode} (hs : session.wantsSession = .ok false)
      (hm : mode.text?.bind Mode.ofWord? = some m) (ht : settings.command.text? = none)
      (h : settings.command.isTrue = true) :
      Course host guest made settings session mode program (.error (.mishap .noCommand)) []
  | unparsed {m : Mode} {text : String} {reason : Shell.SplitFault}
      (hs : session.wantsSession = .ok false) (hm : mode.text?.bind Mode.ofWord? = some m)
      (ht : (commandText settings.command).result = .ok text)
      (h : Shell.words text = .error reason) :
      Course host guest made settings session mode program
        (.error (.configuration (.badCommand text reason))) []
  | empty {m : Mode} {text : String}
      (hs : session.wantsSession = .ok false) (hm : mode.text?.bind Mode.ofWord? = some m)
      (ht : (commandText settings.command).result = .ok text) (h : Shell.words text = .ok []) :
      Course host guest made settings session mode program
        (.error (.configuration .emptyCommand)) []
  | notFound {m : Mode} {name : String} {rest : List String}
      (ha : Admitted settings session mode m name rest) (h : host.which name = none) :
      Course host guest made settings session mode program
        (.error (.configuration (.commandNotFound name))) [.lookup name]
  /-- The directory for the scratch file is none. -/
  | misplaced {m : Mode} {name exe : String} {rest : List String} {mishap : Mishap}
      (ha : Admitted settings session mode m name rest) (hw : host.which name = some exe)
      (h : host.mishap? (.directory settings.scratchDirectory) = some mishap) :
      Course host guest made settings session mode program (.error (.mishap mishap))
        [.lookup name, .create settings.scratchDirectory none]
  | uncreated {m : Mode} {name exe reason : String} {rest : List String}
      (ha : Admitted settings session mode m name rest) (hw : host.which name = some exe)
      (hd : host.mishap? (.directory settings.scratchDirectory) = none)
      (h : host.creationError = some reason) :
      Course host guest made settings session mode program
        (.error (.execution { summary := "Cannot create scratch file: " ++ reason }))
        [.lookup name, .create settings.scratchDirectory none]
  /-- The program has no UTF-8, and its file stays. -/
  | unencoded {m : Mode} {name exe : String} {rest : List String} {mishap : Mishap}
      (ha : Admitted settings session mode m name rest) (hw : host.which name = some exe)
      (hc : Creates host settings.scratchDirectory)
      (h : host.mishap? (.text program) = some mishap) :
      Course host guest made settings session mode program (.error (.mishap mishap))
        (openingLog settings name made ++ [.write (scratchPath made) program false])
  /-- The program cannot be written, and its file is removed. -/
  | unwritten {m : Mode} {name exe reason : String} {rest : List String}
      (ha : Admitted settings session mode m name rest) (hw : host.which name = some exe)
      (hc : Creates host settings.scratchDirectory) (hp : host.mishap? (.text program) = none)
      (h : host.writeError = some reason) :
      Course host guest made settings session mode program
        (.error (.execution {
          summary := "Cannot write scratch file " ++ scratchPath made ++ ": " ++ reason }))
        (openingLog settings name made ++
          [.write (scratchPath made) program false, .remove (scratchPath made)])
  /-- The words for the process are none. -/
  | unworded {m : Mode} {name exe : String} {rest : List String} {mishap : Mishap}
      (hr : Ready host settings session mode program m name exe rest)
      (h : host.mishap? (.words (argvOf exe rest made m)) = some mishap) :
      Course host guest made settings session mode program (.error (.mishap mishap))
        (openingLog settings name made ++ runLog settings made program (argvOf exe rest made m))
  | unstarted {m : Mode} {name exe reason : String} {rest : List String}
      (hr : Ready host settings session mode program m name exe rest)
      (hv : host.mishap? (.words (argvOf exe rest made m)) = none)
      (h : guest = .unstartable reason) :
      Course host guest made settings session mode program
        (.error (.execution {
          summary := "Cannot run " ++ exe ++ ": " ++ reason
          command := argvOf exe rest made m }))
        (openingLog settings name made ++ runLog settings made program (argvOf exe rest made m))
  | failed {m : Mode} {name exe : String} {rest : List String} {out err : ByteArray} {code : Int}
      {f : Fault} (hr : Ready host settings session mode program m name exe rest)
      (hv : host.mishap? (.words (argvOf exe rest made m)) = none)
      (hg : guest = .ends out err code) (h : code ≠ 0)
      (hf : (judge m (exe :: rest) (argvOf exe rest made m)
        ⟨captured out, captured err, code⟩).result = .error f) :
      Course host guest made settings session mode program (.error f)
        (openingLog settings name made ++ runLog settings made program (argvOf exe rest made m))
  | ended {m : Mode} {name exe : String} {rest : List String} {out err : ByteArray}
      (hr : Ready host settings session mode program m name exe rest)
      (hv : host.mishap? (.words (argvOf exe rest made m)) = none)
      (hg : guest = .ends out err 0) :
      Course host guest made settings session mode program
        (.ok {
          mode := m
          command := argvOf exe rest made m
          stdout := captured out
          stderr := captured err
          exitCode := 0
          kept := if settings.keepScratch then some (scratchPath made) else none })
        (openingLog settings name made ++ runLog settings made program (argvOf exe rest made m))

/-! ## The stages -/

/-- The check before an invocation refuses what the directives take for a session. -/
theorem checkSession_eq (session : Datum) : checkSession session =
    match session.wantsSession with
    | .error mishap => .fail (.mishap mishap)
    | .ok true => .fail (.session (.text session.display))
    | .ok false => pure () := by
  cases session with
  | null => rfl
  | bool | int | float | text | mode | bytes | moment | list | set | mapping | recurring =>
    simp only [checkSession, Datum.wantsSession]
    split_ifs with long none
    · rfl
    · obtain none | none := none <;> rw [none] <;> rfl
    · obtain ⟨empty, word⟩ := not_or.mp none
      rw [bne_iff_ne.mpr empty, bne_iff_ne.mpr word]
      rfl

@[simp] theorem events_commandText (command : Datum) : (commandText command).events = [] := by
  unfold commandText
  split
  · rfl
  · split_ifs <;> rfl

/-- Only a command that is no text, and not empty either, is a fault of its own. -/
theorem of_commandText_error {command : Datum} {f : Fault}
    (h : (commandText command).result = .error f) :
    command.text? = none ∧ command.isTrue = true ∧ f = .mishap .noCommand := by
  unfold commandText at h
  split at h
  · cases h
  · rename_i ht
    split_ifs at h with hb
    cases h
    exact ⟨ht, hb, rfl⟩

@[simp] theorem events_remove (host : Host) (path : String) :
    (remove host path).events = [.remove path] := by
  unfold remove
  cases host.removalError <;> rfl

@[simp] theorem result_remove (host : Host) (path : String) :
    (remove host path).result = .ok () := by
  unfold remove
  cases host.removalError <;> rfl

@[simp] theorem events_dispose (host : Host) (keep : Bool) (path : String) :
    (dispose host keep path).events = disposal keep path := by
  cases keep with
  | true => rfl
  | false => exact events_remove host path

theorem write_of_error {host : Host} {program reason : String}
    (hp : host.mishap? (.text program) = none) (h : host.writeError = some reason)
    (path : String) :
    (write host path program).result =
        .error (.execution { summary := "Cannot write scratch file " ++ path ++ ": " ++ reason }) ∧
      (write host path program).events = [.write path program false, .remove path] := by
  simp only [write, hp, h, Outcome.result_request_bind, Outcome.events_request_bind]
  rw [Outcome.bind_of_ok (result_remove host path), events_remove]
  exact ⟨rfl, rfl⟩

@[simp] theorem events_judge (m : Mode) (base argv : List String) (exit : Exit) :
    (judge m base argv exit).events = [] := by
  unfold judge
  split_ifs <;> rfl

theorem judge_ok_iff (m : Mode) (base argv : List String) (exit : Exit) :
    (judge m base argv exit).result = .ok () ↔ exit.code = 0 := by
  unfold judge
  by_cases h : exit.code = 0
  · simp [h]
  · simp only [h, if_false, iff_false]
    split_ifs <;> exact fun hc ↦ nomatch hc

@[simp] theorem events_start (host : Host) (guest : Guest) (argv : List String) :
    (start host guest argv).events = [.run argv] := by
  unfold start
  cases host.mishap? (.words argv) <;> cases guest <;> rfl

theorem result_start {host : Host} {argv : List String} (h : host.mishap? (.words argv) = none)
    (guest : Guest) :
    (start host guest argv).result =
      match guest with
      | .unstartable reason => .error (.execution {
          summary := "Cannot run " ++ argv.headD "" ++ ": " ++ reason
          command := argv })
      | .ends out err code => .ok ⟨captured out, captured err, code⟩ := by
  unfold start
  rw [h]
  cases guest <;> rfl

theorem result_start_of_mishap {host : Host} {argv : List String} {mishap : Mishap}
    (h : host.mishap? (.words argv) = some mishap) (guest : Guest) :
    (start host guest argv).result = .error (.mishap mishap) := by
  unfold start
  rw [h]
  rfl

/-- The last part of an invocation: the process is run and its scratch file disposed of. -/
def attend (host : Host) (guest : Guest) (settings : Settings) (m : Mode) (base : List String)
    (path : String) : Outcome Invocation := do
  let argv := base ++ [path, m.word]
  .remark (.started argv)
  let exit ← (start host guest argv).andAlways (dispose host settings.keepScratch path)
  .remark (.ended exit.code exit.stdout.length exit.stderr.length)
  judge m base argv exit
  return {
    mode := m
    command := argv
    stdout := exit.stdout
    stderr := exit.stderr
    exitCode := exit.code
    kept := if settings.keepScratch then some path else none }

theorem invoke_eq (host : Host) (guest : Guest) (made : Nat) (settings : Settings)
    (session mode : Datum) (program : String) :
    invoke host guest made settings session mode program = (do
      checkSession session
      let m ← checkMode mode
      let base ← resolveCommand host (← commandText settings.command)
      let path ← create host made settings.scratchDirectory
      write host path program
      attend host guest settings m base path) := rfl

/-! ## Every invocation takes one of the courses -/

section

variable {host : Host} {guest : Guest} {made : Nat} {settings : Settings}
variable {session mode : Datum} {program : String}

/-- What becomes of an invocation whose process can be started. -/
theorem course_of_ready {m : Mode} {name exe : String} {rest : List String}
    (hr : Ready host settings session mode program m name exe rest) :
    Course host guest made settings session mode program
      (attend host guest settings m (exe :: rest) (scratchPath made)).result
      (openingLog settings name made ++ .write (scratchPath made) program true ::
        (attend host guest settings m (exe :: rest) (scratchPath made)).events) := by
  simp only [attend, Outcome.result_remark_bind, Outcome.events_remark_bind]
  have hargv : exe :: rest ++ [scratchPath made, m.word] = argvOf exe rest made m := rfl
  rw [hargv]
  generalize hrun : (start host guest (argvOf exe rest made m)).andAlways
    (dispose host settings.keepScratch (scratchPath made)) = run
  have hev : run.events =
      .run (argvOf exe rest made m) :: disposal settings.keepScratch (scratchPath made) := by
    rw [← hrun, Outcome.events_andAlways, events_start, events_dispose, List.singleton_append]
  have hres : run.result = (start host guest (argvOf exe rest made m)).result := by
    rw [← hrun, Outcome.result_andAlways]
  rcases hv : host.mishap? (.words (argvOf exe rest made m)) with _ | mishap
  rotate_left
  · rw [Outcome.bind_of_error (hres.trans (result_start_of_mishap hv guest)), hev]
    exact .unworded hr hv
  have hstart := hres.trans (result_start hv guest)
  cases hg : guest with
  | unstartable reason =>
    rw [Outcome.bind_of_error (hstart.trans (by rw [hg])), hev]
    exact hg ▸ .unstarted hr hv hg
  | ends out err code =>
    have hok : run.result = .ok ⟨captured out, captured err, code⟩ := by rw [hstart, hg]
    rw [Outcome.bind_of_ok hok, hev]
    simp only [Outcome.result_remark_bind, Outcome.events_remark_bind]
    rw [Outcome.events_bind_of_forall_nil _ fun _ ↦ rfl, events_judge, List.append_nil]
    rcases hj : (judge m (exe :: rest) (argvOf exe rest made m)
      ⟨captured out, captured err, code⟩).result with f | u
    · rw [Outcome.bind_of_error hj]
      have hcode : code ≠ 0 := fun h0 ↦ by
        rw [(judge_ok_iff _ _ _ _).mpr h0] at hj
        cases hj
      exact .failed hr hv rfl hcode hj
    · rw [Outcome.bind_of_ok hj]
      obtain rfl : code = 0 := (judge_ok_iff _ _ _ _).mp hj
      exact .ended hr hv rfl

/-- What becomes of an invocation whose command was found. -/
theorem course_of_found {m : Mode} {name exe : String} {rest : List String}
    (ha : Admitted settings session mode m name rest) (hf : host.which name = some exe) :
    let work : Outcome Invocation := do
      let path ← create host made settings.scratchDirectory
      write host path program
      attend host guest settings m (exe :: rest) path
    Course host guest made settings session mode program work.result
      (.lookup name :: work.events) := by
  dsimp only
  rcases hd : host.mishap? (.directory settings.scratchDirectory) with _ | mishap
  rotate_left
  · simp only [create, hd, bind_assoc, Outcome.fail_bind, Outcome.result_request_bind,
      Outcome.events_request_bind]
    exact .misplaced ha hf hd
  rcases hc : host.creationError with _ | reason
  rotate_left
  · simp only [create, hd, hc, bind_assoc, Outcome.fail_bind, Outcome.result_request_bind,
      Outcome.events_request_bind]
    exact .uncreated ha hf hd hc
  simp only [create, hd, hc, bind_assoc, pure_bind, Outcome.result_request_bind,
    Outcome.events_request_bind]
  rcases hp : host.mishap? (.text program) with _ | mishap
  rotate_left
  · simp only [write, hp, bind_assoc, Outcome.fail_bind, Outcome.result_request_bind,
      Outcome.events_request_bind]
    exact .unencoded ha hf ⟨hd, hc⟩ hp
  rcases hw : host.writeError with _ | reason
  rotate_left
  · obtain ⟨hres, hev⟩ := write_of_error hp hw (scratchPath made)
    rw [Outcome.bind_of_error hres, hev]
    exact .unwritten ha hf ⟨hd, hc⟩ hp hw
  simp only [write, hp, hw, Outcome.result_request_bind, Outcome.events_request_bind]
  exact course_of_ready ⟨ha, hf, ⟨hd, hc⟩, ⟨hp, hw⟩⟩

end

/-- An invocation takes one of the courses. -/
theorem course_invoke (host : Host) (guest : Guest) (made : Nat) (settings : Settings)
    (session mode : Datum) (program : String) :
    Course host guest made settings session mode program
      (invoke host guest made settings session mode program).result
      (invoke host guest made settings session mode program).events := by
  rw [invoke_eq]
  rcases hs : session.wantsSession with mishap | _ | _
  · simp only [checkSession_eq, hs, Outcome.fail_bind]
    exact .untold hs
  rotate_left
  · simp only [checkSession_eq, hs, Outcome.fail_bind]
    exact .session hs
  simp only [checkSession_eq, hs, pure_bind]
  rcases hm : mode.text?.bind Mode.ofWord? with _ | m
  · by_cases long : mode.isLong = true
    · simp only [checkMode, hm, long, if_true, Outcome.fail_bind]
      exact .longMode hs hm long
    · simp only [checkMode, hm, long, Outcome.refuse]
      exact .mode hs hm (Bool.not_eq_true _ ▸ long)
  simp only [checkMode, hm, pure_bind]
  rcases ht : (commandText settings.command).result with f | text
  · obtain ⟨hn, hb, rfl⟩ := of_commandText_error ht
    rw [Outcome.bind_of_error ht, events_commandText]
    exact .noText hs hm hn hb
  rw [Outcome.bind_of_ok ht, events_commandText, List.nil_append]
  rcases hw : Shell.words text with reason | words
  · simp only [resolveCommand, hw, Outcome.refuse, Outcome.fail_bind]
    exact .unparsed hs hm ht hw
  rcases words with _ | ⟨name, rest⟩
  · simp only [resolveCommand, hw, Outcome.refuse, Outcome.fail_bind]
    exact .empty hs hm ht hw
  have ha : Admitted settings session mode m name rest := ⟨hs, hm, text, ht, hw⟩
  rcases hf : host.which name with _ | exe
  · simp only [resolveCommand, hw, hf, bind_assoc, Outcome.refuse, Outcome.fail_bind]
    exact .notFound ha hf
  · simp only [resolveCommand, hw, hf, bind_assoc, pure_bind, Outcome.result_request_bind,
      Outcome.events_request_bind]
    exact course_of_found ha hf

end DartBlock.Invocation
