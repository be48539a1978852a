import DartBlock.Proofs.Runner.Capture

/-!
# What a header asks of the result

The mode and the flags of a block, by the entries of its header. For the mode an entry for the type
of the result goes before all words, of such entries the last one counts, and of words the first
(`Directives.Decides`, `decided_by_entries`). Flags add up: those among the words of the results
stand beside those that are given for the format (`flags_of_entries`).
-/

namespace DartBlock

/-! ## Values that name a mode -/

/-- The value is a mode, or its text names one; blanks around it and the case of its letters do not
matter. -/
def Datum.Names (v : Datum) (m : Mode) : Prop := v = .mode m ∨ v.folded = m.word

theorem Datum.mode?_eq_some_iff {v : Datum} {m : Mode} : v.mode? = some m ↔ v.Names m := by
  cases v with
  | mode m' =>
    -- A mode is shown by the name of its constant, which is the word of no mode.
    have shown : (Datum.mode m').folded = "resulttype." ++ m'.word := by
      cases m' <;> decide +kernel
    have other : (Datum.mode m').folded ≠ m.word := by
      rw [shown]
      cases m' <;> cases m <;> decide
    simp only [mode?, Names, other, or_false, Option.some.injEq, mode.injEq]
  | null | bool | int | float | text | bytes | moment | list | set | mapping | recurring =>
    simp only [mode?, Names, Mode.ofWord?_eq_some_iff, reduceCtorEq, false_or]

/-- No long value would name a mode, if its text could be had. -/
theorem Datum.not_names_of_isLong {v : Datum} (long : v.isLong = true) {m : Mode} :
    ¬v.Names m := by
  rintro (rfl | named)
  · cases long
  · obtain ⟨c, head, alpha⟩ := exists_head?_folded long
    rw [named] at head
    cases m <;> cases head <;> cases alpha

namespace Directives

variable {entries : Entries} {m : Mode}

theorem isRefused_iff {e : Datum × Datum} :
    IsRefused e ↔ Key.ofDatum e.1 = .resultType ∧ ∀ m, ¬e.2.Names m := by
  simp only [IsRefused, Option.eq_none_iff_forall_ne_some, ne_eq, Datum.mode?_eq_some_iff]

theorem isAccepted_iff {e : Datum × Datum} : IsAccepted e ↔
    Draft.isUnreadable e = false ∧ (Key.ofDatum e.1 = .resultType → ∃ m, e.2.Names m) := by
  simp only [IsAccepted, isRefused_iff, not_and, not_forall, not_not]

/-! ## The mode -/

/-- The mode that entries decide on. -/
inductive Decides (entries : Entries) : Mode → Prop
  | typed {before after : Entries} {e : Datum × Datum} {m : Mode}
      (split : entries = before ++ e :: after) (key : Key.ofDatum e.1 = .resultType)
      (names : e.2.Names m) (last : ∀ e' ∈ after, Key.ofDatum e'.1 ≠ .resultType) :
      Decides entries m
  | worded {before after : List String} {word : String} {m : Mode}
      (untyped : ∀ e ∈ entries, Key.ofDatum e.1 ≠ .resultType)
      (split : resultWords entries = before ++ word :: after) (names : word.lowercased = m.word)
      (first : ∀ w ∈ before, ∀ m' : Mode, w.lowercased ≠ m'.word) : Decides entries m
  | unsaid (untyped : ∀ e ∈ entries, Key.ofDatum e.1 ≠ .resultType)
      (silent : ∀ w ∈ resultWords entries, ∀ m' : Mode, w.lowercased ≠ m'.word) :
      Decides entries .value

theorem firstMode?_eq_some_iff {words : List String} : firstMode? words = some m ↔
    ∃ before word after, words = before ++ word :: after ∧ word.lowercased = m.word ∧
      ∀ w ∈ before, ∀ m' : Mode, w.lowercased ≠ m'.word := by
  simp only [firstMode?, List.findSome?_eq_some_iff, Mode.ofWord?_eq_some_iff,
    Mode.ofWord?_eq_none_iff]

theorem firstMode?_eq_none_iff {words : List String} :
    firstMode? words = none ↔ ∀ w ∈ words, ∀ m' : Mode, w.lowercased ≠ m'.word := by
  simp only [firstMode?, List.findSome?_eq_none_iff, Mode.ofWord?_eq_none_iff]

theorem Decides.eq (h : Decides entries m) : (givenMode? entries).getD .value = m := by
  unfold givenMode?
  cases h with
  | @typed before after e _ split key names last =>
    have given : last? .resultType entries = some e.2 :=
      last?_eq_some_iff.mpr ⟨before, e.1, after, split, key, last⟩
    rw [given, Option.bind_some, Datum.mode?_eq_some_iff.mpr names]
    rfl
  | worded untyped split names first =>
    rw [last?_eq_none_iff.mpr untyped, firstMode?_eq_some_iff.mpr ⟨_, _, _, split, names, first⟩]
    rfl
  | unsaid untyped silent =>
    rw [last?_eq_none_iff.mpr untyped, firstMode?_eq_none_iff.mpr silent]
    rfl

theorem decides_givenMode? (accepted : ∀ e ∈ entries, IsAccepted e) :
    Decides entries ((givenMode? entries).getD .value) := by
  unfold givenMode?
  rcases hlast : last? .resultType entries with _ | v
  · have untyped := last?_eq_none_iff.mp hlast
    rcases hwords : firstMode? (resultWords entries) with _ | m
    · exact .unsaid untyped (firstMode?_eq_none_iff.mp hwords)
    · obtain ⟨before, word, after, split, names, first⟩ := firstMode?_eq_some_iff.mp hwords
      exact .worded untyped split names first
  · obtain ⟨before, k, after, split, key, last⟩ := last?_eq_some_iff.mp hlast
    have mem : (k, v) ∈ entries := split ▸ List.mem_append_cons_self
    obtain ⟨m, names⟩ := (isAccepted_iff.mp (accepted _ mem)).2 key
    rw [Option.bind_some, Datum.mode?_eq_some_iff.mpr names]
    exact .typed split key names last

end Directives

theorem Event.mem_filterMap_argv? {argv : List String} {es : List Event} :
    argv ∈ es.filterMap Event.argv? ↔ .run argv ∈ es := by
  rw [List.mem_filterMap]
  constructor
  · rintro ⟨event, mem, started⟩
    cases event with
    | run argv' => exact Option.some.inj started ▸ mem
    | lookup | create | write | remove => cases started
  · exact fun mem ↦ ⟨_, mem, rfl⟩

/-- A process is told the mode of the block by the last word. -/
theorem Runner.Turn.getLast?_argv {r after : Runner} {site : Site} {b : Block}
    {res : Except Fault Shaped} {es : List Event} (h : r.Turn site b res es after)
    {d : Directives} (read : b.header.read = .ok d) {argv : List String} (run : .run argv ∈ es) :
    argv.getLast? = some d.mode.word := by
  obtain ⟨text, run, -⟩ := h.exists_call read run
  rw [Call.events_invoke] at run
  obtain ⟨rfl, -⟩ := Call.passed_of_run run
  simp [Call.argv, Call.mode?, Datum.text?]

/-- **Which mode wins.** The entries of a header are refused for the first of those for the type of
the result with a value that names no mode, unless a number that is too long to be written comes
before it or is in it, and for nothing else. A number of that kind is a mishap, unless an entry that
is refused comes before it. Otherwise the entries are read, and bring the mode they decide on, which
is what a process that is asked for by the block is told. -/
theorem decided_by_entries (entries : Entries) :
    (∀ cause, Directives.ofEntries entries = .error (.configuration cause) ↔
      ∃ before e after, entries = before ++ e :: after ∧
        (Directives.Key.ofDatum e.1 = .resultType ∧ ∀ m, ¬e.2.Names m) ∧
        Directives.Draft.isUnreadable e = false ∧ cause = .badResultType e.2 ∧
        ∀ e' ∈ before, Directives.Draft.isUnreadable e' = false ∧
          (Directives.Key.ofDatum e'.1 = .resultType → ∃ m, e'.2.Names m)) ∧
    (∀ m, Directives.ofEntries entries = .error (.mishap m) ↔
      m = .longNumber ∧ ∃ before e after, entries = before ++ e :: after ∧
        Directives.Draft.isUnreadable e = true ∧
        ∀ e' ∈ before, Directives.Draft.isUnreadable e' = false ∧
          (Directives.Key.ofDatum e'.1 = .resultType → ∃ m, e'.2.Names m)) ∧
    ((∀ e ∈ entries, Directives.Draft.isUnreadable e = false ∧
        (Directives.Key.ofDatum e.1 = .resultType → ∃ m, e.2.Names m)) →
      ∃ d, Directives.ofEntries entries = .ok d ∧
        (∀ m, Directives.Decides entries m ↔ d.mode = m) ∧
        ∀ (r : Runner) (site : Site) (snippet : String) (argv : List String),
          .run argv ∈ (r.execute site ⟨snippet, .entries entries⟩).1.events →
          argv.getLast? = some d.mode.word) := by
  simp only [Directives.ofEntries_eq_error_iff, ← Directives.isAccepted_iff,
    ← Directives.isRefused_iff]
  refine ⟨fun cause ↦ ?_, fun m ↦ ?_, fun accepted ↦ ?_⟩
  · constructor
    · rintro ⟨before, e, after, split, accepted, fails⟩
      cases fails with
      | refused readable refused =>
        exact ⟨before, e, after, split, refused, readable, rfl, accepted⟩
    · rintro ⟨before, e, after, split, refused, readable, rfl, accepted⟩
      exact ⟨before, e, after, split, accepted, .refused readable refused⟩
  · constructor
    · rintro ⟨before, e, after, split, accepted, fails⟩
      cases fails with
      | unreadable unreadable => exact ⟨rfl, before, e, after, split, unreadable, accepted⟩
    · rintro ⟨rfl, before, e, after, split, unreadable, accepted⟩
      exact ⟨before, e, after, split, accepted, .unreadable unreadable⟩
  · obtain ⟨d, read⟩ := Directives.exists_ofEntries_iff.mpr accepted
    obtain ⟨draft, holds, rfl⟩ := Directives.exists_draft read
    have mode : draft.finish.mode = (Directives.givenMode? entries).getD .value := by
      rw [← holds.mode]
      rfl
    refine ⟨_, read, fun m ↦ ⟨fun h ↦ mode.trans h.eq, ?_⟩, ?_⟩
    · rintro rfl
      exact mode ▸ Directives.decides_givenMode? accepted
    · intro r site snippet argv run
      exact (r.turn_execute site ⟨snippet, .entries entries⟩).getLast?_argv read run

/-- Two entries for the type behind a word for a mode, and two that are both refused. -/
theorem decided_by_entries_typed :
    let entries : Entries := [(.text "results", .text "Value"), (.text "result-type", .mode .value),
      (.text ":Result_Type", .text " OUTPUT ")]
    let r : Runner := { settings := { wrapperTemplate := "%s", wrapperImports := "" } }
    let site : Site := {
      host := { which := fun _ ↦ some "/usr/bin/dart" }
      guest := .ends .empty .empty 0 }
    let argv := ["/usr/bin/dart", scratchPath 0, "output"]
    (∃ d, Directives.ofEntries entries = .ok d ∧ d.mode = .output ∧
      .run argv ∈ (r.execute site ⟨"1", .entries entries⟩).1.events ∧
      argv.getLast? = some d.mode.word) ∧
    Directives.ofEntries [(.text "result-type", .text "both"), (.text "result_type", .int 3)] =
      .error (.configuration (.badResultType (.text "both"))) := by
  intro entries r site argv
  have words : Directives.Key.ofDatum (.text "results") ≠ .resultType := by
    rw [Directives.Key.ofDatum_results]
    decide
  have names : (Datum.text " OUTPUT ").Names .output := .inr (by decide +kernel)
  have readable : ∀ e ∈ entries, Directives.Draft.isUnreadable e = false := by decide +kernel
  have named : ∀ e ∈ entries, Directives.Key.ofDatum e.1 = .resultType → ∃ m, e.2.Names m := by
    simp only [entries, List.forall_mem_cons, List.not_mem_nil]
    exact ⟨fun key ↦ absurd key words, fun _ ↦ ⟨.value, .inl rfl⟩, fun _ ↦ ⟨.output, names⟩,
      fun _ ↦ False.elim⟩
  have nameless : ∀ m, ¬(Datum.text "both").Names m := by
    have folded : (Datum.text "both").folded = "both" := by decide +kernel
    intro m
    simp only [Datum.Names, reduceCtorEq, folded, false_or]
    cases m <;> decide
  obtain ⟨d, read, decides, told⟩ := (decided_by_entries entries).2.2
    fun e mem ↦ ⟨readable e mem, named e mem⟩
  have decided : Directives.Decides entries .output := by
    have split : entries = entries.take 2 ++ (.text ":Result_Type", .text " OUTPUT ") :: [] := rfl
    exact .typed split (by decide +kernel) names (by simp)
  have run : .run argv ∈ (r.execute site ⟨"1", .entries entries⟩).1.events :=
    Event.mem_filterMap_argv?.mp (by decide +kernel)
  refine ⟨⟨d, read, (decides .output).mp decided, run, told r site "1" argv run⟩, ?_⟩
  exact ((decided_by_entries _).1 _).mpr
    ⟨[], _, _, rfl, ⟨Directives.Key.ofDatum_resultType, nameless⟩, by decide +kernel, rfl, by simp⟩

/-- A number that is too long to be written names no mode, and still it is not refused. -/
theorem decided_by_entries_long :
    let long : Datum := .int (10 ^ digitLimit : Nat)
    (∀ m, ¬long.Names m) ∧
      Directives.ofEntries [(.text "result-type", long)] = .error (.mishap .longNumber) := by
  intro long
  have fails : Directives.Fails (.text "result-type", long) (.mishap .longNumber) :=
    .of_isLong Datum.isLong_ten_pow (.inl Directives.Key.ofDatum_resultType)
  exact ⟨fun m ↦ Datum.not_names_of_isLong Datum.isLong_ten_pow, fails.ofEntries_cons []⟩

/-! ## The flags -/

def Directives.formatFlags (entries : Entries) : List String :=
  (entries.filter fun e ↦ Key.ofDatum e.1 = .resultFormat).flatMap fun e ↦
    e.2.words.map String.lowercased

theorem Directives.mem_flagsAmong_iff {words : List String} {flag : String} :
    flag ∈ flagsAmong words ↔
      (∃ word ∈ words, word.lowercased = flag) ∧ ∀ m : Mode, flag ≠ m.word := by
  simp only [flagsAmong, List.mem_filter, List.mem_map, Option.isNone_iff_eq_none,
    Mode.ofWord?_eq_none_iff]

theorem Directives.mem_flagsOf_iff {e : Datum × Datum} {flag : String} : flag ∈ flagsOf e ↔
    Key.ofDatum e.1 = .resultFormat ∧ flag ∈ e.2.words.map String.lowercased ∨
      Key.ofDatum e.1 = .results ∧ flag ∈ flagsAmong e.2.words := by
  unfold flagsOf
  cases Key.ofDatum e.1 <;> simp

/-- The flags of the two kinds of entries, taken together. -/
theorem Directives.mem_flatMap_flagsOf_iff {entries : Entries} {flag : String} :
    flag ∈ entries.flatMap flagsOf ↔
      flag ∈ formatFlags entries ∨ flag ∈ flagsAmong (resultWords entries) := by
  have others : flag ∈ flagsAmong (resultWords entries) ↔
      ∃ e ∈ entries, Key.ofDatum e.1 = .results ∧ flag ∈ flagsAmong e.2.words := by
    simp only [mem_flagsAmong_iff, resultWords, List.mem_flatMap, List.mem_filter,
      decide_eq_true_eq]
    constructor
    · rintro ⟨⟨w, ⟨e, ⟨mem, key⟩, hw⟩, lower⟩, nameless⟩
      exact ⟨e, mem, key, ⟨w, hw, lower⟩, nameless⟩
    · rintro ⟨e, mem, key, ⟨w, hw, lower⟩, nameless⟩
      exact ⟨⟨w, ⟨e, ⟨mem, key⟩, hw⟩, lower⟩, nameless⟩
  have given : flag ∈ formatFlags entries ↔
      ∃ e ∈ entries, Key.ofDatum e.1 = .resultFormat ∧ flag ∈ e.2.words.map String.lowercased := by
    simp only [formatFlags, List.mem_flatMap, List.mem_filter, decide_eq_true_eq, and_assoc]
  rw [given, others, List.mem_flatMap]
  simp only [mem_flagsOf_iff, and_or_left, exists_or]

/-- **Flags add up.** The flags of a header that is read are those given for the format and those
among the words of the results, in whatever order its entries stand; so the ones for the format are
all there are only where they have the others among them. What is printed is shaped by both. -/
theorem flags_of_entries {entries : Entries} {d : Directives}
    (read : Directives.ofEntries entries = .ok d) :
    let given := Directives.formatFlags entries
    let others := Directives.flagsAmong (Directives.resultWords entries)
    (∀ flag, flag ∈ d.flags ↔ flag ∈ given ∨ flag ∈ others) ∧
      ((∀ flag, flag ∈ d.flags ↔ flag ∈ given) ↔ others ⊆ given) ∧
      ∀ text, shape d.flags text = shape (given ++ others) text := by
  intro given others
  obtain ⟨draft, holds, rfl⟩ := Directives.exists_draft read
  have flags : ∀ flag, flag ∈ draft.finish.flags ↔ flag ∈ given ∨ flag ∈ others := by
    intro flag
    rw [Directives.Draft.finish, List.mem_eraseDups, holds.flags,
      Directives.mem_flatMap_flagsOf_iff]
  refine ⟨flags, ?_, fun text ↦ shape_congr (fun word _ ↦ ?_) text⟩
  · simp only [flags, or_iff_left_iff_imp]
    rfl
  · simp only [AsksFor, flags, List.mem_append]

/-- Words for a mode and a flag, and one flag that is given for the format as well. -/
theorem flags_of_entries_raw :
    let entries : Entries := [(.text "results", .text "raw Output TABLE"),
      (.text "result-format", .list [.text "table"])]
    ∃ d, Directives.ofEntries entries = .ok d ∧
      (∀ flag, flag ∈ d.flags ↔ flag ∈ ["table"] ∨ flag ∈ ["raw", "table"]) ∧
      ∀ text, shape d.flags text = shape ["table", "raw", "table"] text := by
  intro entries
  have given : Directives.formatFlags entries = ["table"] := by decide +kernel
  have others : Directives.flagsAmong (Directives.resultWords entries) = ["raw", "table"] := by
    decide +kernel
  have accepted : ∀ e ∈ entries, Directives.IsAccepted e := by decide +kernel
  obtain ⟨d, read⟩ := Directives.exists_ofEntries_iff.mpr accepted
  obtain ⟨flags, -, shaped⟩ := flags_of_entries read
  rw [given, others] at flags shaped
  exact ⟨d, read, flags, shaped⟩

/-- A flag among the words of the results stands beside the one that is given for the format, and
keeps the text that would be shaped into a table without it. -/
theorem flags_beside_format :
    let results : Datum × Datum := (.text "results", .text "verbatim")
    let format : Datum × Datum := (.text "result-format", .text "table")
    let r : Runner := { settings := { wrapperTemplate := "%s", wrapperImports := "" } }
    let site : Site := {
      host := { which := fun _ ↦ some "/usr/bin/dart" }
      guest := .ends "[1, 2]".toUTF8 .empty 0 }
    let shaped (entries : Entries) : Option Shaped :=
      (r.execute site ⟨"1", .entries entries⟩).1.result.toOption
    Directives.formatFlags [results, format] = ["table"] ∧
      (Directives.ofEntries [results, format]).toOption.map Directives.flags =
        some ["verbatim", "table"] ∧
      shaped [format] = some (.table [["1", "2"]]) ∧
      shaped [results, format] = some (.text "[1, 2]") := by
  decide +kernel

end DartBlock
