import DartBlock.Proofs.Runner.Report
import DartBlock.Proofs.Shell

/-!
# From the command to the process

The words of a command that is made by joining them reach the process as they are, whether the
settings or the header give the command, and the remark on a process that was started can be cut
back into its words. What carries this is that cutting undoes joining, that a joined command is
stripped already and not empty, and that a run is only asked for where it was announced. Whether a
process is started with the words it is asked for is up to the host, which may have something
against them (`result_eq_mishap_iff_of_runs`). Main theorem: `quoted_words_reach_process`.
-/

namespace DartBlock

/-! ## Where the command comes from -/

/-- The ways a block under some settings is given the text of its command. -/
inductive Header.Commands (settings : Settings) : Header → String → Prop
  | configured {h : Header} {d : Directives} {command : String}
      (hs : settings.command = .text command) (hd : h.read = .ok d) (ho : d.override? = none) :
      Commands settings h command
  /-- The last entry for the command has the text. -/
  | entries {es : Entries} {command : String}
      (h : Directives.last? .command es = some (.text command)) :
      Commands settings (.entries es) command
  | directives {d : Directives} {command : String} (h : d.command = .text command) :
      Commands settings (.directives d) command

/-- A command that is neither empty nor changed by stripping is the one that is run. -/
theorem Header.Commands.command_withOverrides {settings : Settings} {h : Header}
    {command : String} (hc : h.Commands settings command) (ne : command ≠ "")
    (stripped : command.stripped = command) {d : Directives} (hd : h.read = .ok d) :
    (settings.withOverrides d).command = .text command := by
  have overrides (given : d.command = .text command) :
      (settings.withOverrides d).command = .text command :=
    settings.command_withOverrides (Directives.override?_of_text given ne)
  cases hc with
  | configured hs hd' ho =>
    obtain rfl := Except.ok.inj (hd'.symm.trans hd)
    rw [settings.withOverrides_of_none ho, hs]
  | entries given =>
    apply overrides
    rw [Directives.command_ofEntries hd, given]
    simp [Directives.commandText?, Datum.display, stripped, ne]
  | directives given =>
    obtain rfl := Except.ok.inj hd
    exact overrides given

/-- The command that settings have unless another is given is one word. -/
theorem Header.Commands.dart {settings : Settings} {h : Header} {d : Directives}
    (hs : settings.command = .text "dart") (hd : h.read = .ok d) (ho : d.override? = none) :
    h.Commands settings (Shell.join ["dart"]) :=
  .configured (hs.trans (congrArg _ (by decide))) hd ho

/-! ## Announcements -/

def Event.argv? : Event → Option (List String)
  | .run argv => some argv
  | _ => none

def Note.argv? : Note → Option (List String)
  | .started argv => some argv
  | _ => none

namespace Outcome

variable {α β : Type}

/-- The processes that are started are those that are told, in the same order. -/
def Announces (x : Outcome α) : Prop :=
  x.notes.filterMap Note.argv? = x.events.filterMap Event.argv?

theorem Announces.bind {x : Outcome α} {k : α → Outcome β} (hx : x.Announces)
    (hk : ∀ a, (k a).Announces) : (x >>= k).Announces := by
  rcases h : x.result with f | a
  · rw [bind_of_error h]
    exact hx
  · rw [bind_of_ok h]
    simp only [Announces, List.filterMap_append]
    rw [hx, hk a]

theorem Announces.mem_notes {x : Outcome α} (h : x.Announces) {argv : List String}
    (hrun : .run argv ∈ x.events) : .started argv ∈ x.notes := by
  have started : argv ∈ x.notes.filterMap Note.argv? := by
    rw [h]
    exact List.mem_filterMap.mpr ⟨_, hrun, rfl⟩
  obtain ⟨note, hnote, hargv⟩ := List.mem_filterMap.mp started
  cases note with
  | started argv' =>
    obtain rfl := Option.some.inj hargv
    exact hnote
  | wrapped | verbatim | valueUnavailable | kept | cleanupFailed | ended | table => cases hargv

end Outcome

namespace Invocation

open Outcome

theorem announces_resolveCommand (host : Host) (command : String) :
    (resolveCommand host command).Announces := by
  unfold resolveCommand
  split
  · rfl
  · rfl
  · refine Announces.bind rfl fun _ ↦ ?_
    split <;> rfl

theorem announces_remove (host : Host) (path : String) : (remove host path).Announces := by
  refine Announces.bind rfl fun _ ↦ ?_
  split <;> rfl

theorem announces_dispose (host : Host) (keep : Bool) (path : String) :
    (dispose host keep path).Announces := by
  cases keep with
  | true => rfl
  | false => exact announces_remove host path

theorem announces_create (host : Host) (made : Nat) (directory : Datum) :
    (create host made directory).Announces := by
  unfold create
  split
  · rfl
  · split <;> rfl

theorem announces_write (host : Host) (path program : String) :
    (write host path program).Announces := by
  unfold write
  split
  · rfl
  · split
    · exact Announces.bind rfl fun _ ↦ (announces_remove host path).bind fun _ ↦ rfl
    · rfl

theorem announces_judge (m : Mode) (base argv : List String) (exit : Exit) :
    (judge m base argv exit).Announces := by
  unfold judge
  split_ifs <;> rfl

/-- The remark stands before the start of the process and its request behind it, so the two count
as one piece of work. -/
theorem announces_attend (host : Host) (guest : Guest) (settings : Settings) (m : Mode)
    (base : List String) (path : String) :
    (attend host guest settings m base path).Announces := by
  unfold attend
  rw [← bind_assoc]
  refine Announces.bind ?_ fun exit ↦ Announces.bind rfl fun _ ↦
    (announces_judge _ _ _ _).bind fun _ ↦ rfl
  have disposed := announces_dispose host settings.keepScratch path
  have silent : (start host guest (base ++ [path, m.word])).notes = [] := by
    unfold start
    cases host.mishap? (.words (base ++ [path, m.word])) <;> cases guest <;> rfl
  simp only [Announces, Outcome.events_remark_bind, Outcome.events_andAlways, events_start]
  simp only [bind, remark, andAlways, silent]
  exact congrArg (List.cons _) disposed

/-- An invocation tells what it starts, and nothing else. -/
theorem announces_invoke (host : Host) (guest : Guest) (made : Nat) (settings : Settings)
    (session mode : Datum) (program : String) :
    (invoke host guest made settings session mode program).Announces := by
  have session_checked : (checkSession session).Announces := by
    rw [checkSession_eq]
    split <;> rfl
  have mode_checked : (checkMode mode).Announces := by
    unfold checkMode
    split
    · rfl
    · split_ifs <;> rfl
  have command_read : (commandText settings.command).Announces := by
    unfold commandText
    split
    · rfl
    · split_ifs <;> rfl
  rw [invoke_eq]
  exact session_checked.bind fun _ ↦ mode_checked.bind fun _ ↦ command_read.bind fun _ ↦
    (announces_resolveCommand _ _).bind fun _ ↦ (announces_create _ _ _).bind fun _ ↦
    (announces_write _ _ _).bind fun _ ↦ announces_attend _ _ _ _ _ _

end Invocation

theorem Note.line_started (argv : List String) :
    (Note.started argv).line = "[DBG] INVOKE " ++ Shell.join argv ++ "\n" := by
  have opening : "[DBG]" ++ " " ++ "INVOKE" ++ " " = "[DBG] INVOKE " := by decide
  rw [← opening]
  rfl

/-! ## Joined commands -/

theorem resolveCommand_join {host : Host} {name exe : String} (h : host.which name = some exe)
    (rest : List String) :
    resolveCommand host (Shell.join (name :: rest)) =
      { result := .ok (exe :: rest), events := [.lookup name] } := by
  simp only [resolveCommand, Shell.words_join, h]
  rfl

namespace Runner

/-- The program of a block is run on a host that makes and writes its scratch file. -/
structure Runs (r : Runner) (site : Site) (b : Block) (d : Directives) (text : String) : Prop where
  read : b.header.read = .ok d
  session : d.wantsSession = .ok false
  program : program r.settings b.snippet = .ok text
  creates : Invocation.Creates site.host r.settings.scratchDirectory
  stores : Invocation.Stores site.host text

variable {r : Runner} {site : Site} {b : Block} {d : Directives} {text name exe : String}

theorem ready_of_runs (runs : r.Runs site b d text) {rest : List String}
    (commands : b.header.Commands r.settings (Shell.join (name :: rest)))
    (found : site.host.which name = some exe) :
    Invocation.Ready site.host (r.settings.withOverrides d) .null (.mode d.mode) text d.mode
      name exe rest where
  session := rfl
  mode := Mode.ofWord?_word d.mode
  command := by
    have command := commands.command_withOverrides (Shell.join_ne_empty name rest)
      (Shell.stripped_join name rest) runs.read
    exact ⟨_, by rw [command]; rfl, Shell.words_join _⟩
  found := found
  creates := by
    rw [Settings.scratchDirectory_withOverrides]
    exact runs.creates
  stores := runs.stores

theorem events_of_runs (runs : r.Runs site b d text) {rest : List String}
    (commands : b.header.Commands r.settings (Shell.join (name :: rest)))
    (found : site.host.which name = some exe) :
    (r.execute site b).1.events =
      Invocation.openingLog r.settings name site.made ++
        Invocation.runLog r.settings site.made text
          (Invocation.argvOf exe rest site.made d.mode) := by
  have events := Call.events_of_ready (c := r.call site d text) (ready_of_runs runs commands found)
  rcases (r.turn_execute site b).of_read runs.read runs.session with
    ⟨cause, hp, -⟩ | ⟨text', hp, -, hes, -⟩
  · rw [runs.program] at hp
    cases hp
  · obtain rfl := Except.ok.inj (runs.program.symm.trans hp)
    rw [hes]
    simpa [Invocation.openingLog, Invocation.runLog] using events

theorem run_mem_events_of_runs (runs : r.Runs site b d text) {rest : List String}
    (commands : b.header.Commands r.settings (Shell.join (name :: rest)))
    (found : site.host.which name = some exe) :
    .run (Invocation.argvOf exe rest site.made d.mode) ∈ (r.execute site b).1.events := by
  rw [events_of_runs runs commands found]
  exact List.mem_append_right _ (.tail _ (.head _))

/-- What comes in between of a block with a joined command and its process is what the host has
against the words. -/
theorem result_eq_mishap_iff_of_runs (runs : r.Runs site b d text) {rest : List String}
    (commands : b.header.Commands r.settings (Shell.join (name :: rest)))
    (found : site.host.which name = some exe) {m : Mishap} :
    (r.execute site b).1.result = .error (.mishap m) ↔
      site.host.mishap? (.words (Invocation.argvOf exe rest site.made d.mode)) = some m := by
  have ready := ready_of_runs runs commands found
  have prepared := Call.passed_of_ready (c := r.call site d text) ready
  have argv := Call.argv_of_found (c := r.call site d text) ready.toAdmitted ready.found
  rw [result_execute_eq_mishap_iff]
  constructor
  · intro breaks
    cases breaks with
    | header h => cases h.symm.trans runs.read
    | session hd h =>
      obtain rfl := Except.ok.inj (hd.symm.trans runs.read)
      cases h.symm.trans runs.session
    | call hd _ hp h =>
      obtain rfl := Except.ok.inj (hd.symm.trans runs.read)
      obtain rfl := Except.ok.inj (hp.symm.trans runs.program)
      obtain ⟨passed, stage, later, hall, -, hm⟩ := h
      -- All stages before the process are passed, and an exit code is no mishap.
      rcases List.mem_append.mp (show stage ∈ Stage.preparation ++ [.start, .exit] from
        stage.mem_all) with early | late
      · have fails := prepared stage early
        rw [Call.fault?, hm] at fails
        cases fails
      · rcases List.mem_pair.mp late with rfl | rfl
        · rw [← argv]
          exact hm
        · cases hm
  · intro h
    rw [← argv] at h
    exact .call runs.read runs.session runs.program ⟨_, .start, [.exit], rfl, prepared, h⟩

/-- **Quoted words reach the process unchanged.** Let a command be joined of any words, the first of
which the host finds. Its words are found again; a block that is run under it, by its settings or by
its header, looks up that word, and asks for what was found to be run with the other words, the
scratch file and the mode, which comes to a mishap if the host has one against these words, and to
none otherwise; and whatever a call asks to be run, it tells in a line that can be cut into the
words of it. -/
theorem quoted_words_reach_process (name : String) (rest : List String) :
    (∀ (host : Host) (exe : String), host.which name = some exe →
      resolveCommand host (Shell.join (name :: rest)) =
        { result := .ok (exe :: rest), events := [.lookup name] }) ∧
    (∀ (r : Runner) (site : Site) (b : Block) (d : Directives) (text exe : String),
      r.Runs site b d text → b.header.Commands r.settings (Shell.join (name :: rest)) →
      site.host.which name = some exe →
      let path := scratchPath site.made
      let argv := exe :: rest ++ [path, d.mode.word]
      (r.execute site b).1.events =
          [.lookup name, .create r.settings.scratchDirectory (some path), .write path text true,
            .run argv] ++
          (if r.settings.keepScratch then [] else [.remove path]) ∧
        ∀ m, (r.execute site b).1.result = .error (.mishap m) ↔
          site.host.mishap? (.words argv) = some m) ∧
    ∀ (c : Call) (argv : List String), .run argv ∈ c.invoke.events →
      .started argv ∈ c.invoke.notes ∧ ∃ command,
        (Note.started argv).line = "[DBG] INVOKE " ++ command ++ "\n" ∧
        Shell.words command = .ok argv := by
  refine ⟨fun host exe found ↦ resolveCommand_join found rest, ?_, ?_⟩
  · intro r site b d text exe runs commands found
    refine ⟨?_, fun m ↦ result_eq_mishap_iff_of_runs runs commands found⟩
    rw [events_of_runs runs commands found]
    rfl
  · intro c argv run
    have announced : c.invoke.Announces := Invocation.announces_invoke _ _ _ _ _ _ _
    exact ⟨announced.mem_notes run, _, Note.line_started argv, Shell.words_join argv⟩

/-- A name with a quote, an empty word and one that ends in a line break, given by the header in the
place of a configured command that cannot be cut. -/
theorem quoted_words_reach_process_quote :
    let host : Host := { which := fun name ↦ if name = "it's" then some "/bin/its" else none }
    let command := "'it'\"'\"'s' '' 'a b\n'"
    let r : Runner := { settings := { command := .text "'" } }
    let site : Site := { host, guest := .unstartable "no such file" }
    let b : Block := {
      snippet := "main() {}"
      header := .entries [(.text ":Cmd", .text command)] }
    let argv := ["/bin/its", "", "a b\n", scratchPath 0, "value"]
    let c : Call := {
      host
      guest := site.guest
      made := 0
      settings := { command := .text command }
      session := .null
      mode := .mode .value
      program := "main() {}" }
    (resolveCommand host command).result = .ok ["/bin/its", "", "a b\n"] ∧
      (r.execute site b).1.events =
        [.lookup "it's", .create .null (some (scratchPath 0)),
          .write (scratchPath 0) (Scaffold.preludeImports ++ "main() {}") true,
          .run argv, .remove (scratchPath 0)] ∧
      (∀ m, (r.execute site b).1.result ≠ .error (.mishap m)) ∧
      .run argv ∈ c.invoke.events ∧ .started argv ∈ c.invoke.notes := by
  intro host command r site b argv c
  have joined : command = Shell.join ["it's", "", "a b\n"] := by decide
  have key : Directives.Key.ofDatum (.text ":Cmd") = .command := by decide +kernel
  have given : Directives.last? .command [(.text ":Cmd", .text command)] =
      some (.text command) := by
    simp [Directives.last?, key]
  have stripped : command.stripped = command := joined ▸ Shell.stripped_join _ _
  have read : b.header.read = .ok { command := .text command } := by
    simp only [b, Header.read, Directives.ofEntries, List.foldlM_cons, List.foldlM_nil,
      Directives.Draft.add, Directives.Draft.isUnreadable, key, Datum.isLong, Datum.display,
      stripped]
    rfl
  have runs : r.Runs site b _ _ := {
    read
    session := rfl
    program := program_main _
    creates := ⟨rfl, rfl⟩
    stores := ⟨rfl, rfl⟩ }
  obtain ⟨resolves, executes, tells⟩ := quoted_words_reach_process "it's" ["", "a b\n"]
  obtain ⟨events, mishap⟩ := executes r site b _ _ "/bin/its" runs (joined ▸ .entries given) rfl
  have whole : site.host.mishap? (.words argv) = none := by decide
  have ready : Invocation.Ready c.host c.settings c.session c.mode c.program .value "it's"
      "/bin/its" ["", "a b\n"] := {
    session := rfl
    mode := rfl
    command := ⟨command, rfl, joined ▸ Shell.words_join _⟩
    found := rfl
    creates := ⟨rfl, rfl⟩
    stores := ⟨rfl, rfl⟩ }
  have started : .run argv ∈ c.invoke.events := by
    rw [Call.events_of_ready ready]
    exact List.mem_append_right _ (.tail _ (.head _))
  refine ⟨?_, events, fun m ended ↦ ?_, started, (tells c argv started).1⟩
  · rw [joined, resolves host "/bin/its" rfl]
  · have broken : site.host.mishap? (.words argv) = some m := (mishap m).mp ended
    cases whole.symm.trans broken

end Runner

end DartBlock
