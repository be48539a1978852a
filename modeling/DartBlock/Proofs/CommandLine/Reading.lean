import DartBlock.CommandLine.Run
import DartBlock.Proofs.Directives
import DartBlock.Proofs.Settings.File

/-!
# What the command line reads

Before a block is expanded or run, its source and its settings are read. Either both are there
(`Surroundings.Task`; the header that the options describe can always be read), or a fault of one of
them is reported, or a mishap with one of them (`Surroundings.Misses`) ends the program without a
status. The lemmas `perform_of_…` say what the program does in each case, and `perform_cases` that
there are no others.
-/

namespace DartBlock.CommandLine

/-! ## The source -/

/-- Why the file with a name gives no source. -/
inductive Surroundings.Unread (w : Surroundings) (file : String) : TextFault → Prop
  | stdin (h : file = stdinName) (hbytes : Text.Utf8.decode? w.stdin = none) :
      Unread w file (.mishap .notUtf8)
  | file {f : TextFault} (h : file ≠ stdinName) (hf : w.read.Unread file f) : Unread w file f

theorem Surroundings.source_eq_error_iff {w : Surroundings} {file : String} {f : TextFault} :
    w.source file = .error f ↔ w.Unread file f := by
  unfold source
  split_ifs with h
  · constructor
    · intro hf
      rcases hm : textOf w.stdin with m | s
      · rw [hm] at hf
        obtain rfl := Except.error.inj hf
        obtain ⟨hbytes, rfl⟩ := textOf_eq_error_iff.mp hm
        exact .stdin h hbytes
      · rw [hm] at hf
        cases hf
    · intro hf
      cases hf with
      | stdin _ hbytes =>
        rw [textOf_eq_error_iff.mpr ⟨hbytes, rfl⟩]
        rfl
      | file ne => exact absurd h ne
  · rw [ReadFile.text_eq_error_iff]
    constructor
    · exact .file h
    · intro hf
      cases hf with
      | stdin eq => exact absurd eq h
      | file _ hf => exact hf

/-- The text that is found under a name, in a file or on the standard input. -/
inductive Surroundings.Holds (w : Surroundings) (file text : String) : Prop
  | stdin (h : file = stdinName) (hw : w.stdin = text.toUTF8)
  | file (h : file ≠ stdinName) (hw : w.read.Gives file text.toUTF8)

theorem Surroundings.Holds.source_eq {w : Surroundings} {file text : String}
    (h : w.Holds file text) : w.source file = .ok text.withLineFeeds := by
  unfold source
  cases h with
  | stdin h hw =>
    rw [if_pos h, hw, textOf_toUTF8]
    rfl
  | file h hw =>
    rw [if_neg h, ReadFile.text_of_gives hw, textOf_toUTF8]
    rfl

/-! ## The settings and the header -/

namespace Options

variable {o : Options} {read : ReadFile}

theorem settings_eq_error_iff {f : Settings.FileFault} :
    o.settings read = .error f ↔
      ∃ path, given o.config = some path ∧ Settings.Unread read path f := by
  unfold settings
  rcases hpath : given o.config with _ | path
  · simp
  · simpa using Settings.ofFile_eq_error_iff

theorem isSome_text?_command {settings : Settings} (h : o.settings read = .ok settings) :
    settings.command.text?.isSome = true := by
  unfold Options.settings at h
  split at h
  · obtain ⟨entries, hentries⟩ := Settings.exists_ofEntries_of_ofFile h
    exact Settings.isSome_text?_command hentries
  · obtain rfl := Except.ok.inj h
    rfl

theorem exists_directives (o : Options) : ∃ d, Directives.ofEntries o.entries = .ok d := by
  rw [Directives.exists_ofEntries_iff]
  intro e he
  obtain ⟨⟨key, value⟩, hkey, hvalue⟩ := List.mem_filterMap.mp he
  obtain ⟨text, -, rfl⟩ := Option.map_eq_some_iff.mp hvalue
  simp only [List.mem_cons, Prod.mk.injEq, List.not_mem_nil, or_false] at hkey
  rcases hkey with ⟨rfl, -⟩ | ⟨rfl, -⟩ | ⟨rfl, -⟩
  · simp [Directives.IsAccepted, Directives.IsRefused, Directives.Draft.isUnreadable, Datum.isLong,
      Datum.hasLongWord, Directives.Key.ofDatum_results]
  · simp [Directives.IsAccepted, Directives.IsRefused, Directives.Draft.isUnreadable, Datum.isLong,
      Directives.Key.ofDatum_command]
  · simp [Directives.IsAccepted, Directives.IsRefused, Directives.Draft.isUnreadable, Datum.isLong,
      Directives.Key.ofDatum_session]

end Options

/-! ## Ways on -/

namespace Surroundings

/-- The block that the options name, and the settings it is run with. -/
structure Task (w : Surroundings) (o : Options) (settings : Settings) (b : Block) : Prop where
  source : w.source o.file = .ok b.snippet
  settings : o.settings w.read = .ok settings
  header : ∃ d, Directives.ofEntries o.entries = .ok d ∧ b.header = .directives d

/-- The mishap there is with what the options name. -/
inductive Misses (w : Surroundings) (o : Options) : Mishap → Prop
  | source {m : Mishap} (h : w.Unread o.file (.mishap m)) : Misses w o m
  /-- The source is there, but the settings cannot be had. -/
  | settings {snippet path : String} {m : Mishap} (hsource : w.source o.file = .ok snippet)
      (hpath : Options.given o.config = some path)
      (h : Settings.Unread w.read path (.mishap m)) : Misses w o m

end Surroundings

variable {w : Surroundings} {o : Options}

theorem run_of_read {arguments : List String} (h : readArguments arguments = .ok (.run o)) :
    run w arguments = perform w o := by
  unfold run
  rw [h]

theorem perform_of_misses {m : Mishap} (h : w.Misses o m) :
    perform w o = { ending := .mishap m } := by
  unfold perform
  cases h with
  | source h => rw [Surroundings.source_eq_error_iff.mpr h]
  | settings hsource hpath h =>
    rw [hsource]
    dsimp only
    rw [Options.settings_eq_error_iff.mpr ⟨_, hpath, h⟩]

theorem perform_of_refused {r : Refusal} (h : w.Unread o.file (.refused r)) :
    perform w o =
      .error ("cannot read " ++ o.file ++ ": " ++ r.message (Path.ofString o.file)) := by
  unfold perform
  rw [Surroundings.source_eq_error_iff.mpr h]

theorem perform_of_cause {snippet path : String} {c : ConfigurationFault}
    (hsource : w.source o.file = .ok snippet) (hpath : Options.given o.config = some path)
    (h : Settings.Unread w.read path (.cause c)) : perform w o = .error c.message := by
  unfold perform
  rw [hsource]
  dsimp only
  rw [Options.settings_eq_error_iff.mpr ⟨_, hpath, h⟩]

theorem perform_of_task {settings : Settings} {b : Block} (h : w.Task o settings b) :
    perform w o =
      if o.expand then expand w settings b else execute w o.format settings b := by
  obtain ⟨d, hd, hheader⟩ := h.header
  obtain ⟨snippet, header⟩ := b
  obtain rfl : header = .directives d := hheader
  unfold perform
  rw [h.source]
  dsimp only
  rw [h.settings]
  dsimp only
  rw [hd]

theorem Surroundings.exists_task_iff :
    (∃ settings b, w.Task o settings b) ↔
      (∃ snippet, w.source o.file = .ok snippet) ∧
        ∃ settings, o.settings w.read = .ok settings := by
  constructor
  · rintro ⟨settings, b, h⟩
    exact ⟨⟨_, h.source⟩, _, h.settings⟩
  · rintro ⟨⟨snippet, hsource⟩, settings, hsettings⟩
    obtain ⟨d, hd⟩ := o.exists_directives
    exact ⟨settings, ⟨snippet, .directives d⟩, hsource, hsettings, d, hd, rfl⟩

theorem perform_cases (w : Surroundings) (o : Options) :
    (∃ m, w.Misses o m) ∨ (∃ r, w.Unread o.file (.refused r)) ∨
      (∃ snippet path c, w.source o.file = .ok snippet ∧ Options.given o.config = some path ∧
        Settings.Unread w.read path (.cause c)) ∨
      ∃ settings b, w.Task o settings b := by
  rcases hsource : w.source o.file with (r | m) | snippet
  · exact .inr (.inl ⟨r, Surroundings.source_eq_error_iff.mp hsource⟩)
  · exact .inl ⟨m, .source (Surroundings.source_eq_error_iff.mp hsource)⟩
  · rcases hsettings : o.settings w.read with (c | m) | settings
    · obtain ⟨path, hpath, h⟩ := Options.settings_eq_error_iff.mp hsettings
      exact .inr (.inr (.inl ⟨snippet, path, c, rfl, hpath, h⟩))
    · obtain ⟨path, hpath, h⟩ := Options.settings_eq_error_iff.mp hsettings
      exact .inl ⟨m, .settings hsource hpath h⟩
    · exact .inr (.inr (.inr (Surroundings.exists_task_iff.mpr
        ⟨⟨snippet, hsource⟩, settings, hsettings⟩)))

end DartBlock.CommandLine
