import DartBlock.Proofs.Invocation.Stage
import DartBlock.Proofs.Program
import DartBlock.Proofs.Runner.Turn

/-!
# Expansion and execution

Expanding a block shows the program that executing it runs. Main theorem: `expansion_is_run`. What
an expansion yields depends on the settings and the snippet only; of the header, no more than the
mode and the overridden command reaches the host.
-/

namespace DartBlock

/-- The header asks for no session, as far as it can be read. -/
def Header.IsSessionFree (h : Header) : Prop := ∀ d, h.read = .ok d → d.wantsSession = .ok false

/-! ## What is written -/

/-- Every scratch file that is made is at once written with `text`, hence with as many bytes of
UTF-8, and nothing else is written. -/
structure Writes (text : String) (es : List Event) : Prop where
  at_once : ∀ before directory path later, es = before ++ .create directory (some path) :: later →
    ∃ complete rest, later = .write path text complete :: rest
  text_eq : ∀ path written complete, .write path written complete ∈ es → written = text

namespace Writes
variable {text : String}

theorem of_quiet {es : List Event}
    (h : ∀ e ∈ es, (∃ name, e = .lookup name) ∨ ∃ directory, e = .create directory none) :
    Writes text es where
  at_once before directory path later heq := by
    have hmem : .create directory (some path) ∈ es := heq ▸ List.mem_append_cons_self
    rcases h _ hmem with ⟨_, he⟩ | ⟨_, he⟩ <;> cases he
  text_eq path written complete hw := by
    rcases h _ hw with ⟨_, he⟩ | ⟨_, he⟩ <;> cases he

/-- The file of an invocation is written and then no more than given to a process and removed. -/
theorem of_opening (name path : String) (directory : Datum) (complete : Bool)
    {rest : List Event} (hrest : ∀ e ∈ rest, (∃ argv, e = .run argv) ∨ ∃ path, e = .remove path) :
    Writes text (.lookup name :: .create directory (some path) ::
      .write path text complete :: rest) where
  at_once before directory' path' later heq := by
    rcases before with _ | ⟨e, _ | ⟨e', _ | ⟨e'', before⟩⟩⟩
    · cases heq
    · simp only [List.cons_append, List.nil_append, List.cons.injEq, Event.create.injEq,
        Option.some.injEq] at heq
      obtain ⟨-, ⟨-, rfl⟩, rfl⟩ := heq
      exact ⟨_, _, rfl⟩
    · simp at heq
    · simp only [List.cons_append, List.cons.injEq] at heq
      have hmem : .create directory' (some path') ∈ rest :=
        heq.2.2.2 ▸ List.mem_append_cons_self
      rcases hrest _ hmem with ⟨_, he⟩ | ⟨_, he⟩ <;> cases he
  text_eq path' written complete' hw := by
    rcases List.mem_cons.mp hw with he | hw
    · cases he
    rcases List.mem_cons.mp hw with he | hw
    · cases he
    rcases List.mem_cons.mp hw with he | hw
    · cases he
      rfl
    · rcases hrest _ hw with ⟨_, he⟩ | ⟨_, he⟩ <;> cases he

end Writes

open Invocation in
theorem Invocation.Course.writes {host : Host} {guest : Guest} {made : Nat} {settings : Settings}
    {session mode : Datum} {text : String} {res : Except Fault Invocation} {es : List Event}
    (h : Course host guest made settings session mode text res es) : Writes text es := by
  have hrun : ∀ argv path, ∀ e ∈ .run argv :: disposal settings.keepScratch path,
      (∃ argv, e = .run argv) ∨ ∃ path, e = .remove path := by
    intro argv path
    cases settings.keepScratch <;> simp
  cases h with
  | session | untold | mode | longMode | noText | unparsed | empty => exact .of_quiet (by simp)
  | notFound | misplaced | uncreated => exact .of_quiet (by simp)
  | unencoded | unwritten => exact .of_opening _ _ _ _ (by simp)
  | unworded | unstarted | failed | ended => exact .of_opening _ _ _ _ (hrun _ _)

namespace Runner

variable {r : Runner} {site : Site} {b : Block} {d : Directives}

/-! ## Expanding -/

theorem result_expand_of_unread {f : Fault} (h : b.header.read = .error f) :
    (r.expand b).1.result = .error f := by
  simp only [expand, h]
  rfl

/-- Of a header that can be read nothing shows in the expansion. -/
theorem result_expand_of_read (h : b.header.read = .ok d) :
    (r.expand b).1.result = (program r.settings b.snippet).mapError .configuration := by
  simp only [expand, h]
  rcases hp : program r.settings b.snippet with cause | text
  · exact result_synthesize_error (by rw [program_withOverrides, hp]) _
  · exact result_synthesize_ok (by rw [program_withOverrides, hp]) _

theorem result_expand (h : b.header.read = .ok d) :
    (r.expand b).1.result =
      if hasEntryPoint b.snippet then .ok (r.settings.preludeImports ++ b.snippet)
      else if Template.hasBody r.settings.wrapperTemplate then
        .ok (r.settings.wrapperImports ++
          Template.fill (Template.slots r.settings b.snippet) r.settings.wrapperTemplate)
      else .error (.configuration .noBodySlot) := by
  rw [result_expand_of_read h]
  by_cases he : hasEntryPoint b.snippet = true
  · rw [program_of_entryPoint _ he, if_pos he]
    rfl
  · rw [program_of_body _ (Bool.not_eq_true _ ▸ he), if_neg he]
    split <;> rfl

theorem of_expand_ok {text : String} (h : (r.expand b).1.result = .ok text) :
    ∃ d, b.header.read = .ok d ∧ program r.settings b.snippet = .ok text := by
  rcases hd : b.header.read with cause | d
  · rw [result_expand_of_unread hd] at h
    cases h
  · rw [result_expand_of_read hd] at h
    rcases hp : program r.settings b.snippet with cause | text'
    · rw [hp] at h
      cases h
    · rw [hp] at h
      exact ⟨d, rfl, congrArg _ (Except.ok.inj h)⟩

/-! ## Executing -/

abbrev call (r : Runner) (site : Site) (d : Directives) (text : String) : Call where
  host := site.host
  guest := site.guest
  made := site.made
  settings := r.settings.withOverrides d
  session := .null
  mode := .mode d.mode
  program := text

theorem invoke_call (r : Runner) (site : Site) (d : Directives) (text : String) :
    (r.call site d text).invoke = r.invocation site d text := rfl

/-- A block that asks for no session has no program, or its program is run. -/
theorem Turn.of_read {res : Except Fault Shaped} {es : List Event} {after : Runner}
    (h : r.Turn site b res es after) (hd : b.header.read = .ok d)
    (hs : d.wantsSession = .ok false) :
    (∃ cause, program r.settings b.snippet = .error cause ∧
      res = .error (.configuration cause) ∧ es = [] ∧ after = r.cleared) ∨
    ∃ text, program r.settings b.snippet = .ok text ∧
      res = (r.invocation site d text).result.map (fun i ↦
        shape d.flags i.stdout.withoutFinalBreaks) ∧
      es = (r.invocation site d text).events ∧
      after = { r.cleared with
        lastProgram := some text
        lastInvocation := (r.invocation site d text).result.toOption } := by
  cases h with
  | unread h =>
    rw [h] at hd
    cases hd
  | session hd' h | untold hd' h =>
    obtain rfl := Except.ok.inj (hd'.symm.trans hd)
    rw [h] at hs
    cases hs
  | noProgram hd' _ hp => exact .inl ⟨_, by rwa [program_withOverrides] at hp, rfl, rfl, rfl⟩
  | invoked hd' _ hp =>
    obtain rfl := Except.ok.inj (hd'.symm.trans hd)
    exact .inr ⟨_, by rwa [program_withOverrides] at hp, rfl, rfl, rfl⟩

/-- What a block expands to is remembered when it is executed, and is what is written. -/
theorem execute_of_expand_ok (hs : b.header.IsSessionFree) {text : String}
    (h : (r.expand b).1.result = .ok text) :
    (r.execute site b).2.lastProgram = some text ∧ Writes text (r.execute site b).1.events := by
  obtain ⟨d, hd, hp⟩ := of_expand_ok h
  rcases (r.turn_execute site b).of_read hd (hs d hd) with
    ⟨cause, hp', -⟩ | ⟨text', hp', -, hes, hafter⟩
  · rw [hp] at hp'
    cases hp'
  · obtain rfl := Except.ok.inj (hp.symm.trans hp')
    rw [hafter, hes]
    exact ⟨rfl, (Invocation.course_invoke _ _ _ _ _ _ _).writes⟩

/-- What keeps a block from being expanded keeps it from being executed. -/
theorem execute_of_expand_error (hs : b.header.IsSessionFree) {f : Fault}
    (h : (r.expand b).1.result = .error f) :
    (b.header.read = .error f ∨ ∃ cause, f = .configuration cause) ∧
      (r.execute site b).1.result = .error f ∧ (r.execute site b).1.events = [] ∧
      (r.execute site b).2.lastProgram = none := by
  rcases hd : b.header.read with cause | d
  · obtain rfl := Except.error.inj ((result_expand_of_unread hd).symm.trans h)
    refine ⟨.inl rfl, ?_⟩
    simp only [execute, hd]
    exact ⟨rfl, rfl, rfl⟩
  · rw [result_expand_of_read hd] at h
    rcases (r.turn_execute site b).of_read hd (hs d hd) with
      ⟨cause, hp, hres, hes, hafter⟩ | ⟨text, hp, -⟩
    · rw [hp] at h
      obtain rfl := Except.error.inj h
      rw [hres, hes, hafter]
      exact ⟨.inr ⟨_, rfl⟩, rfl, rfl, rfl⟩
    · rw [hp] at h
      cases h

/-! ## Executing one snippet under two headers -/

/-- What a block comes to under two headers that do not differ in the command: the same program, and
the same requests but for the word of the mode. Under one mode only the shape of the printed text
can differ. -/
structure Alike (d₁ d₂ : Directives) (x₁ x₂ : Outcome Shaped × Runner) : Prop where
  lastProgram : x₁.2.lastProgram = x₂.2.lastProgram
  events : x₁.1.events.map Event.withoutMode = x₂.1.events.map Event.withoutMode
  of_mode_eq : d₁.mode = d₂.mode → x₁.1.events = x₂.1.events ∧ x₁.2 = x₂.2 ∧
    ∃ printed : Except Fault String,
      x₁.1.result = printed.map (shape d₁.flags) ∧ x₂.1.result = printed.map (shape d₂.flags)

/-- The mode shows in the requests of an invocation only as a word of what is started. -/
theorem events_invocation_withoutMode {d₁ d₂ : Directives}
    (hset : r.settings.withOverrides d₁ = r.settings.withOverrides d₂) (text : String) :
    (r.invocation site d₁ text).events.map Event.withoutMode =
      (r.invocation site d₂ text).events.map Event.withoutMode := by
  let c : Call := {
    host := site.host
    guest := site.guest
    made := site.made
    settings := r.settings.withOverrides d₁
    session := .null
    mode := .null
    program := text }
  have h₁ : r.invocation site d₁ text = (c.withMode d₁.mode).invoke := rfl
  have h₂ : r.invocation site d₂ text = (c.withMode d₂.mode).invoke := by
    rw [invocation, ← hset]
    rfl
  rw [h₁, h₂, Call.events_invoke, Call.events_invoke, Call.log_withMode]

theorem alike_execute {snippet : String} {h₁ h₂ : Header} {d₁ d₂ : Directives}
    (hd₁ : h₁.read = .ok d₁) (hd₂ : h₂.read = .ok d₂)
    (hs₁ : d₁.wantsSession = .ok false) (hs₂ : d₂.wantsSession = .ok false)
    (hset : r.settings.withOverrides d₁ = r.settings.withOverrides d₂) :
    Alike d₁ d₂ (r.execute site ⟨snippet, h₁⟩) (r.execute site ⟨snippet, h₂⟩) := by
  rcases (r.turn_execute site ⟨snippet, h₁⟩).of_read hd₁ hs₁ with
    ⟨c₁, hp₁, hres₁, hes₁, ha₁⟩ | ⟨t₁, hp₁, hres₁, hes₁, ha₁⟩ <;>
  rcases (r.turn_execute site ⟨snippet, h₂⟩).of_read hd₂ hs₂ with
    ⟨c₂, hp₂, hres₂, hes₂, ha₂⟩ | ⟨t₂, hp₂, hres₂, hes₂, ha₂⟩
  · obtain rfl := Except.error.inj (hp₁.symm.trans hp₂)
    refine ⟨by rw [ha₁, ha₂], by rw [hes₁, hes₂], fun _ ↦ ?_⟩
    rw [hes₁, hes₂, ha₁, ha₂, hres₁, hres₂]
    exact ⟨rfl, rfl, .error (.configuration c₁), rfl, rfl⟩
  · cases hp₁.symm.trans hp₂
  · cases hp₁.symm.trans hp₂
  · obtain rfl := Except.ok.inj (hp₁.symm.trans hp₂)
    refine ⟨by rw [ha₁, ha₂], ?_, fun hmode ↦ ?_⟩
    · rw [hes₁, hes₂, events_invocation_withoutMode hset]
    · have hinv : r.invocation site d₁ t₁ = r.invocation site d₂ t₁ := by
        rw [invocation, invocation, hset, hmode]
      rw [hes₁, hes₂, ha₁, ha₂, hres₁, hres₂, hinv]
      refine ⟨rfl, rfl, (r.invocation site d₂ t₁).result.map fun i ↦
        i.stdout.withoutFinalBreaks, ?_, ?_⟩ <;>
      cases (r.invocation site d₂ t₁).result <;> rfl

/-- **Expansion shows what is run.** For any runner, site and snippet:
headers that can be read expand to the same; what a block expands to is what is remembered and
written when it is executed; what keeps it from being expanded is the fault of executing it, before
anything is asked for; the expansion is the snippet behind the prelude or the filled wrapper
template; and of two headers that ask for no session, only the command and the mode reach the
host. -/
theorem expansion_is_run (r : Runner) (site : Site) (snippet : String) :
    (∀ h₁ h₂ d₁ d₂, Header.read h₁ = .ok d₁ → Header.read h₂ = .ok d₂ →
      (r.expand ⟨snippet, h₁⟩).1.result = (r.expand ⟨snippet, h₂⟩).1.result) ∧
    (∀ h text, Header.IsSessionFree h → (r.expand ⟨snippet, h⟩).1.result = .ok text →
      (r.execute site ⟨snippet, h⟩).2.lastProgram = some text ∧
        Writes text (r.execute site ⟨snippet, h⟩).1.events) ∧
    (∀ h f, Header.IsSessionFree h → (r.expand ⟨snippet, h⟩).1.result = .error f →
      (h.read = .error f ∨ ∃ cause, f = .configuration cause) ∧
        (r.execute site ⟨snippet, h⟩).1.result = .error f ∧
        (r.execute site ⟨snippet, h⟩).1.events = [] ∧
        (r.execute site ⟨snippet, h⟩).2.lastProgram = none) ∧
    (∀ h d, Header.read h = .ok d → (r.expand ⟨snippet, h⟩).1.result =
      if hasEntryPoint snippet then .ok (r.settings.preludeImports ++ snippet)
      else if Template.hasBody r.settings.wrapperTemplate then
        .ok (r.settings.wrapperImports ++
          Template.fill (Template.slots r.settings snippet) r.settings.wrapperTemplate)
      else .error (.configuration .noBodySlot)) ∧
    ∀ h₁ h₂ d₁ d₂, Header.read h₁ = .ok d₁ → Header.read h₂ = .ok d₂ →
      d₁.wantsSession = .ok false → d₂.wantsSession = .ok false →
      r.settings.withOverrides d₁ = r.settings.withOverrides d₂ →
      Alike d₁ d₂ (r.execute site ⟨snippet, h₁⟩) (r.execute site ⟨snippet, h₂⟩) := by
  refine ⟨?_, fun h text hs hres ↦ execute_of_expand_ok hs hres,
    fun h f hs hres ↦ execute_of_expand_error hs hres, fun h d hd ↦ result_expand hd,
    fun _ _ _ _ hd₁ hd₂ hs₁ hs₂ hset ↦ alike_execute hd₁ hd₂ hs₁ hs₂ hset⟩
  intro h₁ h₂ d₁ d₂ hd₁ hd₂
  rw [result_expand_of_read hd₁, result_expand_of_read hd₂]

/-- A percent sign of the snippet is not read again, and a session named `None` is none. -/
theorem expansion_is_run_percent :
    let r : Runner := { settings := { wrapperTemplate := "%%%s", wrapperImports := "//" } }
    let site : Site := {
      host := { which := fun _ ↦ some "/usr/bin/dart" }
      guest := .ends .empty .empty 0 }
    let d : Directives := { flags := ["raw"], session := .text "None" }
    (r.expand ⟨"5%s", .directives d⟩).1.result = .ok "//%5%s" ∧
      (r.execute site ⟨"5%s", .directives d⟩).2.lastProgram = some "//%5%s" ∧
      Writes "//%5%s" (r.execute site ⟨"5%s", .directives d⟩).1.events ∧
      Alike {} d (r.execute site ⟨"5%s", .absent⟩) (r.execute site ⟨"5%s", .directives d⟩) := by
  intro r site d
  have hd : Header.read (.directives d) = .ok d := rfl
  have hs : d.wantsSession = .ok false := congrArg Except.ok (by decide)
  have hfree : Header.IsSessionFree (.directives d) := fun d' hd' ↦ by
    obtain rfl := Except.ok.inj (hd.symm.trans hd')
    exact hs
  obtain ⟨-, hrun, -, hexpand, halike⟩ := expansion_is_run r site "5%s"
  have hprogram : (r.expand ⟨"5%s", .directives d⟩).1.result = .ok "//%5%s" := by
    rw [hexpand _ d hd, if_neg (by decide), if_pos (by decide)]
    exact congrArg Except.ok (by decide)
  obtain ⟨hlast, hwrites⟩ := hrun _ _ hfree hprogram
  exact ⟨hprogram, hlast, hwrites, halike _ _ _ _ rfl hd rfl hs rfl⟩

end Runner

end DartBlock
