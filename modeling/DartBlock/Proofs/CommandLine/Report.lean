import DartBlock.Proofs.CommandLine.Reading
import DartBlock.Proofs.Runner.Expansion
import DartBlock.Proofs.Runner.Capture
import DartBlock.Proofs.Yaml.Key

/-!
# What the command line reports

The program reports what the library makes of the block that the options name: it is expanded or
executed just once, its value is printed in the chosen format, and of a block that fails nothing but
a message is printed. A mishap ends it without a status, wherever one comes up
(`Surroundings.Escapes`). Main theorem: `run_agrees`, on files whose text can be had
(`Surroundings.Legible`).
-/

namespace DartBlock

/-- The runner with some settings that remembers nothing. -/
abbrev Settings.runner (s : Settings) : Runner := { settings := s }

namespace CommandLine

abbrev Surroundings.site (w : Surroundings) : Site := { host := w.host, guest := w.guest }

variable {w : Surroundings} {o : Options} {settings : Settings} {b : Block}

/-! ## Reports of a block -/

theorem Report.after_false {α : Type} (r : Report) (work : Outcome α) :
    r.after false work = { r with events := work.events ++ r.events } := by
  simp [after]

theorem Report.ofFault_of_isReported {f : Fault} (h : f.isReported = true) :
    ofFault f = error f.message := by
  cases f with
  | mishap => cases h
  | configuration | session | execution | dispatch => rfl

section
variable (format : Format)

/-- The program of a block is printed if it has UTF-8. -/
theorem expand_of_ok {text : String} (h : (settings.runner.expand b).1.result = .ok text) :
    expand w settings b =
      (match w.host.mishap? (.text text) with
        | some m => ({ ending := .mishap m } : Report)
        | none => .success text).after w.debug (settings.runner.expand b).1 := by
  unfold expand
  dsimp only
  generalize (settings.runner.expand b).1.result = result at h ⊢
  subst h
  rfl

theorem expand_of_error {f : Fault} (h : (settings.runner.expand b).1.result = .error f) :
    expand w settings b = (Report.ofFault f).after w.debug (settings.runner.expand b).1 := by
  unfold expand
  dsimp only
  rw [h]

theorem execute_of_ok {value : Shaped}
    (h : (settings.runner.execute w.site b).1.result = .ok value) :
    ∃ out err, w.guest = .ends out err 0 ∧
      execute w format settings b =
        { Report.success (format.print value ++ "\n") with stderr := captured err }.after w.debug
          (settings.runner.execute w.site b).1 := by
  have reports := BlockResult.reports_of_ok h
  obtain ⟨-, -, -, -, -, -, -, out, err, -, -, -, -, -, hguest, hstderr⟩ := reports.of_ok value h
  refine ⟨out, err, hguest, ?_⟩
  unfold execute
  dsimp only
  rw [Runner.result_run_of_ok h, ← hstderr]
  rfl

theorem execute_of_error {f : Fault} (h : (settings.runner.execute w.site b).1.result = .error f)
    (reported : f.isReported = true) :
    execute w format settings b =
      (Report.failure (f.kind ++ ": " ++ f.message)).after w.debug
        (settings.runner.execute w.site b).1 := by
  have turn := settings.runner.turn_execute w.site b
  rw [h] at turn
  unfold execute
  dsimp only
  rw [Runner.result_run_of_isReported h reported]
  dsimp only
  rw [BlockResult.formatError_ofRun_error (turn.isTold reported)]
  rfl

theorem execute_of_mishap {m : Mishap}
    (h : (settings.runner.execute w.site b).1.result = .error (.mishap m)) :
    execute w format settings b =
      ({ ending := .mishap m } : Report).after w.debug (settings.runner.execute w.site b).1 := by
  unfold execute
  dsimp only
  rw [Runner.result_run_of_mishap h]
  rfl

end

/-! ## Mishaps of a block -/

namespace Surroundings

/-- How the program ends without a status. -/
inductive Escapes (w : Surroundings) (o : Options) : Mishap → Prop
  | missed {m : Mishap} (h : w.Misses o m) : Escapes w o m
  /-- The program that is to be printed has no UTF-8. -/
  | expansion {settings : Settings} {b : Block} {text : String} {m : Mishap}
      (task : w.Task o settings b) (asked : o.expand = true)
      (h : (settings.runner.expand b).1.result = .ok text)
      (hm : w.host.mishap? (.text text) = some m) : Escapes w o m
  /-- The block that is to be run meets with a mishap. -/
  | block {settings : Settings} {b : Block} {m : Mishap} (task : w.Task o settings b)
      (asked : o.expand = false) (h : settings.runner.Breaks w.site b m) : Escapes w o m

namespace Task

theorem isTyped (h : w.Task o settings b) : b.header.IsTyped := by
  intro d hd
  obtain ⟨d', hd', hheader⟩ := h.header
  obtain rfl : d' = d := by simpa [hheader] using hd
  exact ⟨Directives.isText_command_ofEntries hd', Directives.isText_session_ofEntries hd'⟩

theorem exists_read (h : w.Task o settings b) : ∃ d, b.header.read = .ok d := by
  obtain ⟨d, -, hheader⟩ := h.header
  exact ⟨d, by rw [hheader]; rfl⟩

/-- The mishap of a block that the options name is something the host has against what it is
handed. -/
theorem exists_argument (h : w.Task o settings b) {m : Mishap}
    (breaks : settings.runner.Breaks w.site b m) : ∃ a, w.host.mishap? a = some m := by
  obtain ⟨unread, -⟩ | ⟨d, text, -, -, a, -, ha⟩ :=
    breaks.cases_of_isTyped (Options.isSome_text?_command h.settings) h.isTyped
  · obtain ⟨d, read⟩ := h.exists_read
    cases unread.symm.trans read
  · exact ⟨a, ha⟩

theorem isReported_of_expand (h : w.Task o settings b) {f : Fault}
    (hf : (settings.runner.expand b).1.result = .error f) : f.isReported = true := by
  obtain ⟨d, read⟩ := h.exists_read
  rw [Runner.result_expand read] at hf
  split_ifs at hf
  cases hf
  rfl

end Task

end Surroundings

/-! ## Agreement with the library -/

namespace Surroundings

theorem Task.unique {settings' : Settings} {b' : Block} (h : w.Task o settings b)
    (h' : w.Task o settings' b') : settings = settings' ∧ b = b' := by
  obtain ⟨d, hd, hheader⟩ := h.header
  obtain ⟨d', hd', hheader'⟩ := h'.header
  obtain ⟨snippet, header⟩ := b
  obtain ⟨snippet', header'⟩ := b'
  obtain rfl : header = .directives d := hheader
  obtain rfl : header' = .directives d' := hheader'
  obtain rfl := Except.ok.inj (hd.symm.trans hd')
  obtain rfl : snippet = snippet' := Except.ok.inj (h.source.symm.trans h'.source)
  exact ⟨Except.ok.inj (h.settings.symm.trans h'.settings), rfl⟩

theorem Task.not_misses (h : w.Task o settings b) (m : Mishap) : ¬w.Misses o m := by
  intro misses
  cases misses with
  | source hm => cases h.source.symm.trans (source_eq_error_iff.mpr hm)
  | settings _ hpath hm =>
    cases h.settings.symm.trans (Options.settings_eq_error_iff.mpr ⟨_, hpath, hm⟩)

theorem Task.escapes_iff_of_expand (h : w.Task o settings b) (asked : o.expand = true)
    {m : Mishap} : w.Escapes o m ↔ ∃ text, (settings.runner.expand b).1.result = .ok text ∧
      w.host.mishap? (.text text) = some m := by
  constructor
  · intro escapes
    cases escapes with
    | missed misses => exact absurd misses (h.not_misses m)
    | expansion task _ result hm =>
      obtain ⟨rfl, rfl⟩ := task.unique h
      exact ⟨_, result, hm⟩
    | block _ run => cases asked.symm.trans run
  · rintro ⟨text, result, hm⟩
    exact .expansion h asked result hm

theorem Task.escapes_iff_of_run (h : w.Task o settings b) (asked : o.expand = false)
    {m : Mishap} : w.Escapes o m ↔ settings.runner.Breaks w.site b m := by
  constructor
  · intro escapes
    cases escapes with
    | missed misses => exact absurd misses (h.not_misses m)
    | expansion _ expanded => cases asked.symm.trans expanded
    | block task _ breaks =>
      obtain ⟨rfl, rfl⟩ := task.unique h
      exact breaks
  · exact .block h asked

/-- The texts that the options name can be had if their files can be read: the source is UTF-8, and
the settings file is a document with a value, or breaks the rules of the language. -/
structure Legible (w : Surroundings) (o : Options) : Prop where
  stdin : o.file = stdinName → Text.Utf8.decode? w.stdin ≠ none
  source : o.file ≠ stdinName → ∀ bytes, w.read.Gives o.file bytes →
    Text.Utf8.decode? bytes ≠ none
  settings : ∀ path bytes t, Options.given o.config = some path → w.read.Gives path bytes →
    Yaml.read (.ofBytes bytes) = .error t → t = .invalid

/-- Where the texts can be had, a zero character in a path, a number that is too long to be written
and what the host has against something it is handed are left to end the program without a
status. -/
theorem Legible.of_escapes (h : w.Legible o) {m : Mishap} (escapes : w.Escapes o m) :
    m = .zeroInPath ∨ m = .longNumber ∨ ∃ a, w.host.mishap? a = some m := by
  cases escapes with
  | missed misses =>
    cases misses with
    | source hm =>
      cases hm with
      | stdin hfile hbytes => exact absurd hbytes (h.stdin hfile)
      | file hfile hf =>
        cases hf with
        | zero => exact .inl rfl
        | undecodable gives hbytes => exact absurd hbytes (h.source hfile _ gives)
    | settings _ hpath hm =>
      cases hm with
      | zero => exact .inl rfl
      | longKey => exact .inr (.inl rfl)
      | undecodable gives hyaml => cases h.settings _ _ _ hpath gives hyaml
      | trouble gives hyaml invalid => exact absurd (h.settings _ _ _ hpath gives hyaml) invalid
  | expansion _ _ _ hm => exact .inr (.inr ⟨_, hm⟩)
  | block task _ breaks => exact .inr (.inr (task.exists_argument breaks))

end Surroundings

/-- The report is what the library makes of the block that the options name. -/
structure Report.Agrees (report : Report) (w : Surroundings) (o : Options) : Prop where
  /-- The program succeeds if executing the block does: it prints the value and passes on the error
  output of the process. -/
  executed : o.expand = false → ∀ stdout stderr events,
    report = { ending := .exit 0, stdout, stderr, events } ↔
      ∃ settings b value out err, w.Task o settings b ∧
        (settings.runner.execute w.site b).1.result = .ok value ∧ w.guest = .ends out err 0 ∧
        stdout = o.format.print value ++ "\n" ∧ stderr = captured err ∧
        events = (settings.runner.execute w.site b).1.events
  /-- Where a program is asked for, it succeeds if expanding the block does and the program can be
  printed, and prints just the program. -/
  expanded : o.expand = true → ∀ stdout stderr events,
    report = { ending := .exit 0, stdout, stderr, events } ↔
      ∃ settings b, w.Task o settings b ∧ (settings.runner.expand b).1.result = .ok stdout ∧
        w.host.mishap? (.text stdout) = none ∧ stderr = "" ∧ events = []
  /-- What is asked of the host is what executing the block asks. -/
  events_eq : o.expand = false → ∀ settings b, w.Task o settings b →
    report.events = (settings.runner.execute w.site b).1.events
  /-- Without a block, or where only its program is asked for, nothing is asked of the host. -/
  quiet : (o.expand = true ∨ ¬∃ settings b, w.Task o settings b) → report.events = []
  /-- A program that does not succeed prints a message and nothing else, unless it escapes. -/
  failed : report.ending ≠ .exit 0 → (∀ m, ¬w.Escapes o m) →
    report.ending = .exit 1 ∧ report.stdout = "" ∧ report.stderr ≠ ""
  /-- It escapes for two reasons in the files and else only for what the host has against something
  it is handed, and then prints nothing. -/
  escaped : ∀ m, w.Escapes o m →
    report.ending = .mishap m ∧ report.stdout = "" ∧ report.stderr = "" ∧
      (m = .zeroInPath ∨ m = .longNumber ∨ ∃ a, w.host.mishap? a = some m)

namespace Report

variable {report : Report}

/-- Without a block the program can only fail. -/
theorem agrees_of_not_task (none : ¬∃ settings b, w.Task o settings b)
    (ending : report.ending ≠ .exit 0) (events : report.events = [])
    (failed : (∀ m, ¬w.Misses o m) →
      report.ending = .exit 1 ∧ report.stdout = "" ∧ report.stderr ≠ "")
    (missed : ∀ m, w.Misses o m →
      report = { ending := .mishap m } ∧
        (m = .zeroInPath ∨ m = .longNumber ∨ ∃ a, w.host.mishap? a = some m)) :
    report.Agrees w o where
  executed _ stdout stderr events := by
    constructor
    · rintro rfl
      exact absurd rfl ending
    · rintro ⟨settings, b, -, -, -, task, -⟩
      exact absurd ⟨settings, b, task⟩ none
  expanded _ stdout stderr events := by
    constructor
    · rintro rfl
      exact absurd rfl ending
    · rintro ⟨settings, b, task, -⟩
      exact absurd ⟨settings, b, task⟩ none
  events_eq _ settings b task := absurd ⟨settings, b, task⟩ none
  quiet _ := events
  failed _ stays := failed fun m misses ↦ stays m (.missed misses)
  escaped m escapes := by
    cases escapes with
    | missed misses =>
      obtain ⟨rfl, reason⟩ := missed m misses
      exact ⟨rfl, rfl, rfl, reason⟩
    | expansion task | block task => exact absurd ⟨_, _, task⟩ none

theorem agrees_of_message (message : String) (none : ¬∃ settings b, w.Task o settings b)
    (performed : perform w o = .error message) : (Report.error message).Agrees w o := by
  have stays (m : Mishap) : ¬w.Misses o m := fun misses ↦ by
    cases performed.symm.trans (perform_of_misses misses)
  exact agrees_of_not_task none (by simp [error, failure]) rfl
    (fun _ ↦ ⟨rfl, rfl, by simp [error, failure]⟩) fun m misses ↦ absurd misses (stays m)

theorem agrees_of_expansion (task : w.Task o settings b) (asked : o.expand = true)
    (events : report.events = [])
    (succeeds : ∀ text, (settings.runner.expand b).1.result = .ok text →
      report = match w.host.mishap? (.text text) with
        | some m => { ending := .mishap m }
        | none => { ending := .exit 0, stdout := text })
    (fails : ∀ f, (settings.runner.expand b).1.result = .error f →
      report.ending = .exit 1 ∧ report.stdout = "" ∧ report.stderr ≠ "") :
    report.Agrees w o where
  executed he := absurd (he.symm.trans asked) Bool.false_ne_true
  expanded _ stdout stderr events := by
    constructor
    · rintro rfl
      rcases hresult : (settings.runner.expand b).1.result with f | text
      · cases (fails f hresult).1
      · have printed := succeeds text hresult
        split at printed <;> cases printed
        exact ⟨settings, b, task, hresult, ‹_›, rfl, rfl⟩
    · rintro ⟨settings', b', task', hresult, whole, rfl, rfl⟩
      obtain ⟨rfl, rfl⟩ := task.unique task'
      rw [succeeds stdout hresult, whole]
  events_eq he := absurd (he.symm.trans asked) Bool.false_ne_true
  quiet _ := events
  failed ending stays := by
    rcases hresult : (settings.runner.expand b).1.result with f | text
    · exact fails f hresult
    · have printed := succeeds text hresult
      split at printed
      · rename_i hm
        exact absurd ((task.escapes_iff_of_expand asked).mpr ⟨text, hresult, hm⟩) (stays _)
      · exact absurd (by rw [printed]) ending
  escaped m escapes := by
    obtain ⟨text, hresult, hm⟩ := (task.escapes_iff_of_expand asked).mp escapes
    rw [succeeds text hresult, hm]
    exact ⟨rfl, rfl, rfl, .inr (.inr ⟨_, hm⟩)⟩

theorem agrees_of_execution (task : w.Task o settings b) (asked : o.expand = false)
    (events : report.events = (settings.runner.execute w.site b).1.events)
    (succeeds : ∀ value, (settings.runner.execute w.site b).1.result = .ok value →
      ∃ out err, w.guest = .ends out err 0 ∧ report = {
        ending := .exit 0
        stdout := o.format.print value ++ "\n"
        stderr := captured err
        events := (settings.runner.execute w.site b).1.events })
    (fails : ∀ f, (settings.runner.execute w.site b).1.result = .error f → f.isReported = true →
      report.ending = .exit 1 ∧ report.stdout = "" ∧ report.stderr ≠ "")
    (breaks : ∀ m, (settings.runner.execute w.site b).1.result = .error (.mishap m) →
      report.ending = .mishap m ∧ report.stdout = "" ∧ report.stderr = "") :
    report.Agrees w o where
  executed _ stdout stderr events := by
    constructor
    · rintro rfl
      rcases hresult : (settings.runner.execute w.site b).1.result with f | value
      · rcases f.exists_mishap_or_isReported with ⟨m, rfl⟩ | reported
        · cases (breaks m hresult).1
        · cases (fails f hresult reported).1
      · obtain ⟨out, err, hguest, hreport⟩ := succeeds value hresult
        cases hreport
        exact ⟨settings, b, value, out, err, task, hresult, hguest, rfl, rfl, rfl⟩
    · rintro ⟨settings', b', value, out, err, task', hresult, hguest, rfl, rfl, rfl⟩
      obtain ⟨rfl, rfl⟩ := task.unique task'
      obtain ⟨out', err', hguest', hreport⟩ := succeeds value hresult
      cases hguest.symm.trans hguest'
      exact hreport
  expanded he := absurd (asked.symm.trans he) Bool.false_ne_true
  events_eq _ settings' b' task' := by
    obtain ⟨rfl, rfl⟩ := task.unique task'
    exact events
  quiet h := by
    rcases h with he | none
    · exact absurd (asked.symm.trans he) Bool.false_ne_true
    · exact absurd ⟨settings, b, task⟩ none
  failed ending stays := by
    rcases hresult : (settings.runner.execute w.site b).1.result with f | value
    · rcases f.exists_mishap_or_isReported with ⟨m, rfl⟩ | reported
      · have escapes := (task.escapes_iff_of_run asked).mpr
          (Runner.result_execute_eq_mishap_iff.mp hresult)
        exact absurd escapes (stays m)
      · exact fails f hresult reported
    · obtain ⟨out, err, -, hreport⟩ := succeeds value hresult
      exact absurd (by rw [hreport]) ending
  escaped m escapes := by
    have broken := (task.escapes_iff_of_run asked).mp escapes
    obtain ⟨ending, stdout, stderr⟩ := breaks m (Runner.result_execute_eq_mishap_iff.mpr broken)
    exact ⟨ending, stdout, stderr, .inr (.inr (task.exists_argument broken))⟩

end Report

theorem agrees_of_task (hdebug : w.debug = false) (task : w.Task o settings b) :
    (perform w o).Agrees w o := by
  rw [perform_of_task task]
  rcases asked : o.expand with _ | _
  · rw [if_neg Bool.false_ne_true]
    rcases hresult : (settings.runner.execute w.site b).1.result with f | value
    · rcases f.exists_mishap_or_isReported with ⟨m, rfl⟩ | reported
      · rw [execute_of_mishap o.format hresult, hdebug, Report.after_false]
        refine Report.agrees_of_execution task asked (List.append_nil _) ?_ ?_ ?_
        · intro value hvalue
          cases hresult.symm.trans hvalue
        · intro f' hf' reported
          cases hresult.symm.trans hf'
          cases reported
        · intro m' hm'
          cases hresult.symm.trans hm'
          exact ⟨rfl, rfl, rfl⟩
      · rw [execute_of_error o.format hresult reported, hdebug, Report.after_false]
        refine Report.agrees_of_execution task asked (List.append_nil _) ?_ ?_ ?_
        · intro value hvalue
          cases hresult.symm.trans hvalue
        · intro f' _ _
          exact ⟨rfl, rfl, by simp [Report.failure]⟩
        · intro m hm
          cases hresult.symm.trans hm
          cases reported
    · obtain ⟨out, err, hguest, hexecute⟩ := execute_of_ok o.format hresult
      rw [hexecute, hdebug, Report.after_false]
      refine Report.agrees_of_execution task asked (List.append_nil _) ?_ ?_ ?_
      · intro value' hvalue
        cases hresult.symm.trans hvalue
        exact ⟨out, err, hguest, by simp [Report.success]⟩
      · intro f hf
        cases hresult.symm.trans hf
      · intro m hm
        cases hresult.symm.trans hm
  · rw [if_pos rfl]
    have quiet := settings.runner.events_expand b
    rcases hresult : (settings.runner.expand b).1.result with f | text
    · rw [expand_of_error hresult, Report.ofFault_of_isReported (task.isReported_of_expand hresult),
        hdebug, Report.after_false, quiet]
      refine Report.agrees_of_expansion task asked rfl ?_ ?_
      · intro text htext
        cases hresult.symm.trans htext
      · intro f _
        exact ⟨rfl, rfl, by simp [Report.error, Report.failure]⟩
    · rw [expand_of_ok hresult, hdebug, Report.after_false, quiet]
      refine Report.agrees_of_expansion task asked ?_ ?_ ?_
      · split <;> rfl
      · intro text' htext
        cases hresult.symm.trans htext
        split <;> rfl
      · intro f hf
        cases hresult.symm.trans hf

end CommandLine

end DartBlock
