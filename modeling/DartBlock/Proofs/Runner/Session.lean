import DartBlock.Proofs.Directives
import DartBlock.Proofs.Runner.Expansion

/-!
# Sessions

Sessions are refused at two gates, before a block is executed and before a program is invoked. Each
looks at the value for the session by itself; they refuse the same values with the same fault
(`invoke_eq_fail`, `execute_eq_fail`), meet with the same mishap where the text of a value cannot be
had (`invoke_eq_mishap`, `execute_eq_mishap`), and no other fault is one of a session
(`result_invoke_eq_session_iff`, `result_execute_eq_session_iff`). Main theorem:
`sessions_refused_alike`.
-/

namespace DartBlock

/-- The value asks for a session: there is one whose text can be had, and its text is neither empty
nor the word for none, whatever blanks are around it and whatever the case of its letters is. -/
structure Datum.IsSession (v : Datum) : Prop where
  short : v.isLong = false
  ne_null : v ≠ .null
  ne_empty : v.folded ≠ ""
  ne_none : v.folded ≠ "none"

theorem Datum.wantsSession_iff {v : Datum} : v.wantsSession = .ok true ↔ v.IsSession := by
  unfold wantsSession
  constructor
  · intro h
    split_ifs at h with long
    have short : v.isLong = false := Bool.eq_false_iff.mpr long
    cases v with
    | null => cases h
    | bool | int | float | text | mode | bytes | moment | list | set | mapping | recurring =>
      obtain ⟨ne_empty, ne_none⟩ := (Bool.and_eq_true _ _).mp (Except.ok.inj h)
      exact ⟨short, nofun, bne_iff_ne.mp ne_empty, bne_iff_ne.mp ne_none⟩
  · rintro ⟨short, ne_null, ne_empty, ne_none⟩
    cases v with
    | null => exact absurd rfl ne_null
    | bool | int | float | text | mode | bytes | moment | list | set | mapping | recurring =>
      simp [short, ne_empty, ne_none]

theorem Datum.wantsSession_eq_error_iff {v : Datum} {m : Mishap} :
    v.wantsSession = .error m ↔ v.isLong = true ∧ m = .longNumber := by
  unfold wantsSession
  split_ifs with long
  · rw [Except.error.injEq, eq_comm, and_iff_right long]
  · cases v <;> simp [long]

/-! ## The gate of an invocation -/

namespace Invocation

theorem Course.wantsSession {host : Host} {guest : Guest} {made : Nat} {settings : Settings}
    {session mode name : Datum} {program : String} {res : Except Fault Invocation}
    {es : List Event} (h : Course host guest made settings session mode program res es)
    (hres : res = .error (.session name)) : session.wantsSession = .ok true := by
  cases h with
  | session hs => exact hs
  | untold | mode | longMode | noText | unparsed | empty | notFound => cases hres
  | misplaced | uncreated | unencoded | unwritten | unworded | unstarted | ended => cases hres
  | failed _ _ _ _ hf =>
    unfold judge at hf
    split_ifs at hf <;> cases hf <;> cases hres

end Invocation

namespace Call

variable {c : Call} {name : Datum}

/-- A session is refused before anything else is looked at. -/
theorem invoke_eq_fail (h : c.session.IsSession) :
    c.invoke = .fail (.session (.text c.session.display)) := by
  rw [invoke, Invocation.invoke_eq, Invocation.checkSession_eq, Datum.wantsSession_iff.mpr h]
  rfl

theorem invoke_eq_mishap {m : Mishap} (h : c.session.wantsSession = .error m) :
    c.invoke = .fail (.mishap m) := by
  rw [invoke, Invocation.invoke_eq, Invocation.checkSession_eq, h]
  rfl

theorem result_invoke_eq_session_iff : c.invoke.result = .error (.session name) ↔
    c.session.IsSession ∧ name = .text c.session.display := by
  constructor
  · intro h
    have session := Datum.wantsSession_iff.mp
      ((Invocation.course_invoke _ _ _ _ _ _ _).wantsSession h)
    rw [invoke_eq_fail session] at h
    cases h
    exact ⟨session, rfl⟩
  · rintro ⟨session, rfl⟩
    rw [invoke_eq_fail session]
    rfl

end Call

/-! ## The gate of a runner -/

namespace Runner

variable {r : Runner} {site : Site} {b : Block} {d : Directives} {name : Datum}

/-- A session is refused as soon as the header is read, and what the runner remembers is lost. -/
theorem execute_eq_fail (read : b.header.read = .ok d) (h : d.session.IsSession) :
    r.execute site b = (.fail (.session (.text d.session.display)), r.cleared) := by
  have wants : d.wantsSession = .ok true := Datum.wantsSession_iff.mpr h
  simp only [execute, read, wants]

theorem execute_eq_mishap (read : b.header.read = .ok d) {m : Mishap}
    (h : d.wantsSession = .error m) : r.execute site b = (.fail (.mishap m), r.cleared) := by
  simp only [execute, read, h]

theorem Turn.exists_session {res : Except Fault Shaped} {es : List Event} {after : Runner}
    (h : r.Turn site b res es after) (hres : res = .error (.session name)) :
    ∃ d, b.header.read = .ok d ∧ d.session.IsSession ∧ name = .text d.session.display := by
  cases h with
  | unread h =>
    cases hres
    obtain ⟨cause, hcause⟩ | hlong := Header.of_read_error h
    · cases hcause
    · cases hlong
  | noProgram | untold => cases hres
  | session read wants =>
    cases hres
    exact ⟨_, read, Datum.wantsSession_iff.mp wants, rfl⟩
  | @invoked d text =>
    -- The invocation is handed no session, so the fault cannot come from there.
    rcases hinv : (r.invocation site d text).result with f | i
    · rw [hinv] at hres
      cases hres
      cases (Invocation.course_invoke _ _ _ _ _ _ _).wantsSession hinv
    · rw [hinv] at hres
      cases hres

theorem result_execute_eq_session_iff : (r.execute site b).1.result = .error (.session name) ↔
    ∃ d, b.header.read = .ok d ∧ d.session.IsSession ∧ name = .text d.session.display := by
  constructor
  · exact fun h ↦ (r.turn_execute site b).exists_session h
  · rintro ⟨d, read, session, rfl⟩
    rw [execute_eq_fail read session]
    rfl

/-- A session does not show when a block is expanded. -/
theorem expand_session (r : Runner) (d : Directives) (session : Datum) (snippet : String) :
    r.expand ⟨snippet, .directives { d with session }⟩ =
      r.expand ⟨snippet, .directives { d with session := .null }⟩ := by
  have overrides : r.settings.withOverrides { d with session } =
      r.settings.withOverrides { d with session := .null } := rfl
  simp only [expand, Header.read, overrides]

end Runner

/-! ## Sessions of a header -/

namespace Directives

variable {entries : Entries} {d : Directives}

theorem isSession_sessionOf_iff {v : Datum} (short : v.isLong = false) :
    (sessionOf v).IsSession ↔ v.IsSession := by
  cases v with
  | null => rfl
  | bool | int | float | text | mode | bytes | moment | list | set | mapping | recurring =>
    exact ⟨fun h ↦ ⟨short, nofun, h.ne_empty, h.ne_none⟩,
      fun h ↦ ⟨rfl, nofun, h.ne_empty, h.ne_none⟩⟩

theorem display_sessionOf {v : Datum} (h : v.IsSession) : (sessionOf v).display = v.display := by
  cases v with
  | null => exact absurd rfl h.ne_null
  | bool | int | float | text | mode | bytes | moment | list | set | mapping | recurring => rfl

theorem isLong_last?_session (h : ofEntries entries = .ok d) {v : Datum}
    (last : last? .session entries = some v) : v.isLong = false := by
  obtain ⟨before, k, after, rfl, key, -⟩ := last?_eq_some_iff.mp last
  have accepted := exists_ofEntries_iff.mp ⟨d, h⟩ (k, v) List.mem_append_cons_self
  have readable := accepted.1
  simp only [Draft.isUnreadable, key, Bool.or_eq_false_iff] at readable
  exact readable.2

/-- A header asks for a session by the last entry for one. -/
theorem isSession_iff (h : ofEntries entries = .ok d) {name : Datum} :
    (d.session.IsSession ∧ name = .text d.session.display) ↔
      ∃ v, last? .session entries = some v ∧ v.IsSession ∧ name = .text v.display := by
  rw [session_ofEntries h]
  rcases last : last? .session entries with _ | v
  · refine ⟨fun ⟨asks, _⟩ ↦ absurd rfl asks.ne_null, ?_⟩
    rintro ⟨v, none, -⟩
    cases none
  · have short := isLong_last?_session h last
    simp only [Option.map_some, Option.getD_some, isSession_sessionOf_iff short, Option.some.injEq,
      exists_eq_left']
    exact and_congr_right fun session ↦ by rw [display_sessionOf session]

end Directives

/-- **Both gates refuse the same sessions, before anything else.** Directives ask for a session if
an invocation refuses it, whatever else it is given. A session that is refused is named in the
fault; neither gate asks the host for anything, and a runner remembers nothing then, but expands the
block as without it. A value that is too long to be written comes to the same mishap at both gates,
as early and with as little left behind. The entries of a header are refused for the last one for
the session, if its value asks for one, and for no other. -/
theorem sessions_refused_alike (v : Datum) :
    (∀ (d : Directives) (c : Call), d.session = v → c.session = v →
      (d.wantsSession = .ok true ↔ ∃ name, c.invoke.result = .error (.session name)) ∧
      (d.wantsSession = .ok true → c.invoke.result = .error (.session (.text v.display)) ∧
        c.invoke.events = [] ∧
        ∀ (r : Runner) (site : Site) (snippet : String),
          let x := r.execute site ⟨snippet, .directives d⟩
          x.1.result = .error (.session (.text v.display)) ∧ x.1.events = [] ∧
            x.2.lastProgram = none ∧ x.2.lastInvocation = none) ∧
      (∀ m, d.wantsSession = .error m ↔ v.isLong = true ∧ m = .longNumber) ∧
      (v.isLong = true → c.invoke.result = .error (.mishap .longNumber) ∧
        c.invoke.events = [] ∧
        ∀ (r : Runner) (site : Site) (snippet : String),
          let x := r.execute site ⟨snippet, .directives d⟩
          x.1.result = .error (.mishap .longNumber) ∧ x.1.events = [] ∧
            x.2.lastProgram = none ∧ x.2.lastInvocation = none) ∧
      ∀ (r : Runner) (snippet : String), r.expand ⟨snippet, .directives d⟩ =
        r.expand ⟨snippet, .directives { d with session := .null }⟩) ∧
    ∀ (r : Runner) (site : Site) (snippet : String) (entries : Entries),
      Directives.last? .session entries = some v →
      ∀ name, (r.execute site ⟨snippet, .entries entries⟩).1.result = .error (.session name) ↔
        (∃ d, Directives.ofEntries entries = .ok d) ∧ v.IsSession ∧ name = .text v.display := by
  constructor
  · rintro d c rfl session
    refine ⟨?_, fun wants ↦ ?_, fun m ↦ Datum.wantsSession_eq_error_iff, fun long ↦ ?_,
      fun r snippet ↦ ?_⟩
    · change d.session.wantsSession = .ok true ↔ _
      simp only [Datum.wantsSession_iff, Call.result_invoke_eq_session_iff, session,
        exists_and_left, exists_eq, and_true]
    · have asks : d.session.IsSession := Datum.wantsSession_iff.mp wants
      rw [Call.invoke_eq_fail (session ▸ asks), session]
      refine ⟨rfl, rfl, fun r site snippet ↦ ?_⟩
      rw [Runner.execute_eq_fail rfl asks]
      exact ⟨rfl, rfl, rfl, rfl⟩
    · have untold : d.session.wantsSession = .error .longNumber :=
        Datum.wantsSession_eq_error_iff.mpr ⟨long, rfl⟩
      rw [Call.invoke_eq_mishap (session.symm ▸ untold)]
      refine ⟨rfl, rfl, fun r site snippet ↦ ?_⟩
      rw [Runner.execute_eq_mishap rfl untold]
      exact ⟨rfl, rfl, rfl, rfl⟩
    · exact r.expand_session d d.session snippet
  · intro r site snippet entries last name
    rw [Runner.result_execute_eq_session_iff]
    constructor
    · rintro ⟨d, read, asks⟩
      obtain ⟨v', last', asks⟩ := (Directives.isSession_iff read).mp asks
      obtain rfl := Option.some.inj (last.symm.trans last')
      exact ⟨⟨d, read⟩, asks⟩
    · rintro ⟨⟨d, read⟩, asks⟩
      exact ⟨d, read, (Directives.isSession_iff read).mpr ⟨v, last, asks⟩⟩

/-- A session beside a mode, a command and a template that are all refused themselves. -/
theorem sessions_refused_alike_first :
    let v : Datum := .text " Main "
    let settings : Settings := { command := .text "'", wrapperTemplate := "" }
    let site : Site := { host := { which := fun _ ↦ none }, guest := .unstartable "denied" }
    let d : Directives := { session := v }
    let c : Call := {
      host := site.host
      guest := site.guest
      made := 0
      settings
      session := v
      mode := .text "both"
      program := "1" }
    let r : Runner := { settings, lastProgram := some "1" }
    let entries : Entries := [(.text ":Session", v)]
    d.session = v ∧ c.session = v ∧ d.wantsSession = .ok true ∧
      Directives.last? .session entries = some v ∧
      c.invoke.result = .error (.session (.text " Main ")) ∧
      (r.execute site ⟨"2", .directives d⟩).1.result = .error (.session (.text " Main ")) ∧
      (r.execute site ⟨"2", .directives d⟩).2.lastProgram = none ∧
      (r.execute site ⟨"2", .entries entries⟩).1.result = .error (.session (.text " Main ")) := by
  intro v settings site d c r entries
  have wants : d.wantsSession = .ok true := congrArg Except.ok (by decide +kernel)
  have key : Directives.Key.ofDatum (.text ":Session") = .session := by decide +kernel
  have last : Directives.last? .session entries = some v := by
    simp [Directives.last?, entries, key]
  have accepted : ∀ e ∈ entries, Directives.IsAccepted e := by
    simp [entries, v, Directives.IsAccepted, Directives.Draft.isUnreadable, Directives.IsRefused,
      Datum.isLong, key]
  obtain ⟨directives, header⟩ := sessions_refused_alike v
  obtain ⟨-, refused, -⟩ := directives d c rfl rfl
  obtain ⟨invoked, -, executed⟩ := refused wants
  obtain ⟨result, -, program, -⟩ := executed r site "2"
  refine ⟨rfl, rfl, wants, last, invoked, result, program, ?_⟩
  exact (header r site "2" entries last _).mpr
    ⟨Directives.exists_ofEntries_iff.mpr accepted, Datum.wantsSession_iff.mp wants, rfl⟩

end DartBlock
