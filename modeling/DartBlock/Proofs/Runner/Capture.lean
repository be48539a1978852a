import DartBlock.Proofs.Runner.Command
import DartBlock.Proofs.Shape
import DartBlock.Proofs.Text.LineBreak
import DartBlock.Proofs.Text.Utf8

/-!
# What is kept of printed text

Nothing a process prints is lost on the way to a result that is a text, but for the spelling of its
line breaks and those at its end. Decoding undoes encoding, so this is a matter of lines; main
theorem: `execute_captured`.
-/

namespace DartBlock

/-- What is left of captured bytes without the breaks at the end. -/
theorem withoutFinalBreaks_captured_iff {bytes : ByteArray} {value : String} :
    (captured bytes).withoutFinalBreaks = value ↔
      ∃ n, Text.SameLines (Text.Utf8.decodeLossy bytes).toList
          (value.toList ++ List.replicate n '\n') ∧ value.toList.getLast? ≠ some '\n' := by
  rw [← Text.dropTail_unifyBreaks_iff, ← String.toList_inj, String.withoutFinalBreaks, captured,
    String.withLineFeeds, String.toList_ofList, String.toList_ofList]

theorem Call.result_of_run {c : Call} {argv : List String} (run : .run argv ∈ c.invoke.events)
    (whole : c.host.mishap? (.words argv) = none) {out err : ByteArray}
    (ends : c.guest = .ends out err 0) : c.invoke.result = .ok c.report := by
  rw [events_invoke] at run
  obtain ⟨rfl, prepared⟩ := passed_of_run run
  have ended : ∀ s ∈ [Stage.start, .exit], c.fault? s = none := by
    simp [fault?, mishap?, whole, failure?, ends]
  have passed : ∀ s ∈ Stage.all, c.fault? s = none :=
    List.forall_mem_append.mpr ⟨prepared, ended⟩
  rw [result_invoke, (verdict_of_passed fun s ↦ passed s s.mem_all).1]

namespace Runner

variable {r : Runner} {site : Site} {b : Block}

theorem Turn.exists_call {res : Except Fault Shaped} {es : List Event} {after : Runner}
    (h : r.Turn site b res es after) {d : Directives} (read : b.header.read = .ok d)
    {argv : List String} (run : .run argv ∈ es) :
    ∃ text, .run argv ∈ (r.call site d text).invoke.events ∧
      res = (r.call site d text).invoke.result.map fun i ↦
        shape d.flags i.stdout.withoutFinalBreaks := by
  cases h with
  | unread | session | untold | noProgram => cases run
  | @invoked d' text read' =>
    obtain rfl := Except.ok.inj (read'.symm.trans read)
    exact ⟨text, run, rfl⟩

theorem Turn.exists_captured {value : String} {es : List Event} {after : Runner}
    (h : r.Turn site b (.ok (.text value)) es after) :
    ∃ out, (captured out).withoutFinalBreaks = value := by
  generalize hres : Except.ok (Shaped.text value) = res at h
  cases h with
  | unread | session | untold | noProgram => cases hres
  | @invoked d text =>
    have course := Invocation.course_invoke site.host site.guest site.made
      (r.settings.withOverrides d) .null (.mode d.mode) text
    rcases hi : (r.invocation site d text).result with f | i
    · rw [hi] at hres
      cases hres
    · rw [hi] at hres course
      obtain ⟨out, -, -, printed, -⟩ := course.of_ok
      exact ⟨out, printed ▸ eq_of_shape_eq_text (Except.ok.inj hres).symm⟩

/-- **Captured text is lossless but for its line breaks.** Let the process of a block be started,
with words the host has nothing against, and end well, under flags that keep the text. If it printed
a text in UTF-8, the result is the one text that has the same lines, followed by some line feeds,
and does not end with one. Whatever bytes were printed, a result that is a text holds no carriage
return and does not end with a line feed. -/
theorem execute_captured (r : Runner) (b : Block) :
    (∀ (site : Site) (d : Directives) (out err : ByteArray) (argv : List String),
      b.header.read = .ok d → wantsScalar d.flags = true → site.guest = .ends out err 0 →
      .run argv ∈ (r.execute site b).1.events → site.host.mishap? (.words argv) = none →
      ∃ value, (r.execute site b).1.result = .ok (.text value) ∧
        ∀ printed : String, out = printed.toUTF8 → ∀ v, v = value ↔
          ∃ n, Text.SameLines printed.toList (v.toList ++ List.replicate n '\n') ∧
            v.toList.getLast? ≠ some '\n') ∧
    ∀ (site : Site) (value : String), (r.execute site b).1.result = .ok (.text value) →
      '\r' ∉ value.toList ∧ value.toList.getLast? ≠ some '\n' := by
  constructor
  · intro site d out err argv read scalar ends run whole
    obtain ⟨text, started, result⟩ := (r.turn_execute site b).exists_call read run
    refine ⟨(captured out).withoutFinalBreaks, ?_, ?_⟩
    · rw [result, Call.result_of_run started whole ends]
      simp only [Except.map, Call.report, ends, Guest.stdout, shape_of_wantsScalar scalar]
    · rintro printed rfl v
      rw [eq_comm, withoutFinalBreaks_captured_iff, Text.Utf8.decodeLossy_toUTF8]
  · intro site value result
    obtain ⟨out, hout⟩ := (result ▸ r.turn_execute site b).exists_captured
    obtain ⟨n, lines, last⟩ := withoutFinalBreaks_captured_iff.mp hout
    exact ⟨fun mem ↦ lines.return_not_mem (List.mem_append_left _ mem), last⟩

/-- All spellings of a line break, blanks at both ends, and two breaks behind them. -/
theorem execute_captured_breaks :
    let r : Runner := {}
    let site : Site := {
      host := { which := fun _ ↦ some "/usr/bin/dart" }
      guest := .ends " é\r\n[1]\rc \r\n\n".toUTF8 .empty 0 }
    let d : Directives := { flags := ["Raw"] }
    let b : Block := { snippet := "main() {}", header := .directives d }
    b.header.read = .ok d ∧ wantsScalar d.flags = true ∧
      .run ["/usr/bin/dart", scratchPath 0, "value"] ∈ (r.execute site b).1.events ∧
      (r.execute site b).1.result = .ok (.text " é\n[1]\nc ") := by
  intro r site d b
  have read : b.header.read = .ok d := rfl
  have scalar : wantsScalar d.flags = true := by decide +kernel
  have runs : r.Runs site b d _ := {
    read
    session := rfl
    program := program_main _
    creates := ⟨rfl, rfl⟩
    stores := ⟨rfl, rfl⟩ }
  have run : .run ["/usr/bin/dart", scratchPath 0, "value"] ∈ (r.execute site b).1.events :=
    run_mem_events_of_runs runs (.dart rfl read rfl) rfl
  have unified : Text.unifyBreaks " é\r\n[1]\rc \r\n\n".toList =
      " é\n[1]\nc ".toList ++ List.replicate 2 '\n' := by decide
  have last : " é\n[1]\nc ".toList.getLast? ≠ some '\n' := by decide
  obtain ⟨value, result, lines⟩ :=
    (execute_captured r b).1 site d _ .empty _ read scalar rfl run (by decide)
  have expected : " é\n[1]\nc " = value := by
    rw [lines " é\r\n[1]\rc \r\n\n" rfl]
    exact ⟨2, unified ▸ Text.sameLines_unifyBreaks _, last⟩
  exact ⟨read, scalar, run, expected ▸ result⟩

end Runner

end DartBlock
