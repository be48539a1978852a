import DartBlock.Proofs.Invocation.Course
import DartBlock.Runner

/-!
# What a runner does with a block

`Runner.Turn` lists how a block can be executed: its header cannot be read, it asks for a session or
it cannot be told whether it does, it has no program, or its program is run. A case states the
result, the requests and the runner afterwards. None of them reads what the runner remembers.
-/

namespace DartBlock

@[simp] theorem Settings.keepScratch_withOverrides (s : Settings) (d : Directives) :
    (s.withOverrides d).keepScratch = s.keepScratch := by
  unfold withOverrides
  cases d.override? <;> rfl

@[simp] theorem Settings.scratchDirectory_withOverrides (s : Settings) (d : Directives) :
    (s.withOverrides d).scratchDirectory = s.scratchDirectory := by
  unfold withOverrides
  cases d.override? <;> rfl

/-- What is executed of a block with directives `d` and program `text`. -/
abbrev Runner.invocation (r : Runner) (site : Site) (d : Directives) (text : String) :
    Outcome Invocation :=
  invoke site.host site.guest site.made (r.settings.withOverrides d) .null (.mode d.mode) text

/-- What executing a block yields, the requests it makes, and the runner after it. -/
inductive Runner.Turn (r : Runner) (site : Site) (b : Block) :
    Except Fault Shaped → List Event → Runner → Prop
  | unread {f : Fault} (h : b.header.read = .error f) : Turn r site b (.error f) [] r.cleared
  | session {d : Directives} (hd : b.header.read = .ok d) (h : d.wantsSession = .ok true) :
      Turn r site b (.error (.session (.text d.session.display))) [] r.cleared
  /-- It cannot be told whether one is. -/
  | untold {d : Directives} {m : Mishap} (hd : b.header.read = .ok d)
      (h : d.wantsSession = .error m) : Turn r site b (.error (.mishap m)) [] r.cleared
  | noProgram {d : Directives} {c : ConfigurationFault} (hd : b.header.read = .ok d)
      (hs : d.wantsSession = .ok false)
      (h : program (r.settings.withOverrides d) b.snippet = .error c) :
      Turn r site b (.error (.configuration c)) [] r.cleared
  | invoked {d : Directives} {text : String} (hd : b.header.read = .ok d)
      (hs : d.wantsSession = .ok false)
      (hp : program (r.settings.withOverrides d) b.snippet = .ok text) :
      Turn r site b
        ((r.invocation site d text).result.map fun i ↦
          shape d.flags i.stdout.withoutFinalBreaks)
        (r.invocation site d text).events
        { r.cleared with
          lastProgram := some text
          lastInvocation := (r.invocation site d text).result.toOption }

namespace Runner

theorem events_synthesize (settings : Settings) (mode : Mode) (snippet : String) :
    (synthesize settings mode snippet).events = [] := by
  simp only [synthesize, Outcome.events_ofExcept]

theorem result_synthesize_ok {settings : Settings} {snippet text : String}
    (h : program settings snippet = .ok text) (mode : Mode) :
    (synthesize settings mode snippet).result = .ok text := by
  simp [synthesize, h]

theorem result_synthesize_error {settings : Settings} {snippet : String}
    {c : ConfigurationFault} (h : program settings snippet = .error c) (mode : Mode) :
    (synthesize settings mode snippet).result = .error (.configuration c) := by
  simp [synthesize, h]

/-- The program of a block that asks for no session is run as it is. -/
theorem turn_perform (r : Runner) (site : Site) {b : Block} {d : Directives}
    (hd : b.header.read = .ok d) (hs : d.wantsSession = .ok false) :
    Turn r site b (r.perform site d b.snippet).1.result (r.perform site d b.snippet).1.events
      (r.perform site d b.snippet).2 := by
  unfold perform
  rcases hp : program (r.settings.withOverrides d) b.snippet with c | text
  · simp only [result_synthesize_error hp, events_synthesize]
    exact .noProgram hd hs hp
  · have hprog := result_synthesize_ok hp d.mode
    simp only [hprog]
    rw [Outcome.bind_of_ok hprog, events_synthesize, List.nil_append]
    rw [Outcome.events_bind_of_forall_nil _ fun _ ↦ rfl]
    have hres : (r.invocation site d text >>= fun i ↦ i.shaped d.flags).result =
        (r.invocation site d text).result.map fun i ↦
          shape d.flags i.stdout.withoutFinalBreaks := by
      rcases h : (r.invocation site d text).result with f | i
      · rw [Outcome.bind_of_error h]
        rfl
      · rw [Outcome.bind_of_ok h]
        rfl
    exact hres ▸ .invoked hd hs hp

/-- Executing a block is one of the turns. -/
theorem turn_execute (r : Runner) (site : Site) (b : Block) :
    Turn r site b (r.execute site b).1.result (r.execute site b).1.events
      (r.execute site b).2 := by
  unfold execute
  rcases hd : b.header.read with f | d
  · exact .unread hd
  · rcases hs : d.wantsSession with m | _ | _ <;> simp only [hs]
    · exact .untold hd hs
    · exact r.turn_perform site hd hs
    · exact .session hd hs

theorem Turn.settings {r after : Runner} {site : Site} {b : Block} {res : Except Fault Shaped}
    {es : List Event} (h : Turn r site b res es after) : after.settings = r.settings := by
  cases h <;> rfl

theorem settings_expand (r : Runner) (b : Block) : (r.expand b).2.settings = r.settings := by
  unfold expand
  split
  · rfl
  · dsimp only
    split <;> rfl

theorem events_expand (r : Runner) (b : Block) : (r.expand b).1.events = [] := by
  unfold expand
  split
  · rfl
  · exact events_synthesize _ _ _

end Runner

end DartBlock
