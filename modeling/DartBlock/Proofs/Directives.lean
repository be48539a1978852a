import DartBlock.Directives
import DartBlock.Proofs.Entries
import Mathlib.Data.List.Induction
import Mathlib.Data.List.Nodup
import Mathlib.Tactic.SplitIfs

/-!
# What a header comes to

An entry fails if a text it has to be read off cannot be had, or if it is for the type of the result
and names no mode; the first such entry is the fault of a header (`ofEntries_eq_error_iff`). A
header that is read says of each field of the directives which entries it is made of
(`Draft.Holds`): the last one for the type, the command, the session or the name of an extra entry,
and the words of all those for the results and the flags. One entry changes of each field what
`Draft.Adds` says, which carries the induction (`Draft.Holds.add`).
-/

namespace DartBlock

namespace Directives

/-! ## Keys as they are written -/

theorem Key.ofDatum_results : ofDatum (.text "results") = .results := by decide +kernel

theorem Key.ofDatum_resultType : ofDatum (.text "result-type") = .resultType := by decide +kernel

theorem Key.ofDatum_command : ofDatum (.text "cmd") = .command := by decide +kernel

theorem Key.ofDatum_session : ofDatum (.text "session") = .session := by decide +kernel

/-! ## The last entry for a key -/

def last? (key : Key) (entries : Entries) : Option Datum :=
  (entries.reverse.find? fun e ↦ Key.ofDatum e.1 = key).map (·.2)

@[simp] theorem last?_nil (key : Key) : last? key [] = none := rfl

theorem last?_concat (key : Key) (entries : Entries) (e : Datum × Datum) :
    last? key (entries ++ [e]) =
      if Key.ofDatum e.1 = key then some e.2 else last? key entries := by
  unfold last?
  split_ifs with h <;> simp [h]

theorem last?_eq_some_iff {key : Key} {entries : Entries} {v : Datum} :
    last? key entries = some v ↔ ∃ before k after, entries = before ++ (k, v) :: after ∧
      Key.ofDatum k = key ∧ ∀ e ∈ after, Key.ofDatum e.1 ≠ key :=
  Entries.last?_eq_some_iff

theorem last?_eq_none_iff {key : Key} {entries : Entries} :
    last? key entries = none ↔ ∀ e ∈ entries, Key.ofDatum e.1 ≠ key :=
  Entries.last?_eq_none_iff

/-! ## What entries bring -/

def commandText? : Datum → Option String
  | .null => none
  | v => some v.display.stripped

/-- What is kept of a value for the session. -/
def sessionOf : Datum → Datum
  | .null => .null
  | v => .text v.display

/-- The words of the results, in order. -/
def resultWords (entries : Entries) : List String :=
  (entries.filter fun e ↦ Key.ofDatum e.1 = .results).flatMap fun e ↦ e.2.words

def firstMode? (words : List String) : Option Mode :=
  words.findSome? fun word ↦ Mode.ofWord? word.lowercased

theorem resultWords_append (entries entries' : Entries) :
    resultWords (entries ++ entries') = resultWords entries ++ resultWords entries' := by
  simp [resultWords]

theorem firstMode?_append (words words' : List String) :
    firstMode? (words ++ words') = (firstMode? words).or (firstMode? words') :=
  List.findSome?_append

/-- The mode that entries bring: that of the last one for the type of the result, or else of the
first word for one. -/
def givenMode? (entries : Entries) : Option Mode :=
  ((last? .resultType entries).bind Datum.mode?).or (firstMode? (resultWords entries))

/-- The flags among words: those that name no mode. -/
def flagsAmong (words : List String) : List String :=
  (words.map String.lowercased).filter fun w ↦ (Mode.ofWord? w).isNone

def flagsOf (e : Datum × Datum) : List String :=
  match Key.ofDatum e.1 with
  | .results => flagsAmong e.2.words
  | .resultFormat => e.2.words.map String.lowercased
  | .resultType | .command | .session | .extra _ => []

namespace Draft

variable {d d' : Draft} {entries : Entries} {e : Datum × Datum}

/-- Words bring a mode, if there is none yet, and flags. -/
theorem foldl_addWord (words : List String) (d : Draft) :
    words.foldl addWord d = { d with
      mode := d.mode.or (firstMode? words)
      flags := d.flags ++ flagsAmong words } := by
  induction words generalizing d with
  | nil => simp [firstMode?, flagsAmong]
  | cons word words ih =>
    rw [List.foldl_cons, ih, addWord]
    rcases h : Mode.ofWord? word.lowercased with _ | m <;>
      cases d.mode <;> simp [firstMode?, flagsAmong, h]

/-- What taking in an entry does to a draft. -/
structure Adds (d : Draft) (e : Datum × Datum) (d' : Draft) : Prop where
  mode_of_type : Key.ofDatum e.1 = .resultType → ∃ m, e.2.mode? = some m ∧ d'.mode = some m
  mode : Key.ofDatum e.1 ≠ .resultType → d'.mode = d.mode.or (firstMode? (resultWords [e]))
  flags : d'.flags = d.flags ++ flagsOf e
  command : d'.command = if Key.ofDatum e.1 = .command then commandText? e.2 else d.command
  session : d'.session = if Key.ofDatum e.1 = .session then sessionOf e.2 else d.session
  extra : d'.extra = match Key.ofDatum e.1 with
    | .extra name => putExtra name e.2 d.extra
    | _ => d.extra

theorem adds_of_add (h : d.add e = .ok d') : d.Adds e d' := by
  unfold add at h
  dsimp only at h
  split_ifs at h
  cases hkey : Key.ofDatum e.1 with
  | results =>
    simp only [hkey, foldl_addWord] at h
    obtain rfl := Except.ok.inj h
    constructor <;> simp [hkey, resultWords, flagsOf]
  | resultType =>
    simp only [hkey] at h
    rcases hmode : e.2.mode? with _ | m
    · simp only [hmode] at h
      cases h
    · simp only [hmode] at h
      obtain rfl := Except.ok.inj h
      constructor <;> simp [hkey, hmode, flagsOf]
  | command =>
    simp only [hkey] at h
    obtain rfl := Except.ok.inj h
    constructor <;> simp [hkey, resultWords, firstMode?, flagsOf]
    cases e.2 <;> rfl
  | session =>
    simp only [hkey] at h
    obtain rfl := Except.ok.inj h
    constructor <;> simp [hkey, resultWords, firstMode?, flagsOf]
    cases e.2 <;> rfl
  | resultFormat | extra =>
    simp only [hkey] at h
    obtain rfl := Except.ok.inj h
    constructor <;> simp [hkey, resultWords, firstMode?, flagsOf]

/-! ## The extra entries -/

theorem names_putExtra (name : String) (v : Datum) (l : List (String × Datum)) :
    (putExtra name v l).map (·.1) =
      if name ∈ l.map (·.1) then l.map (·.1) else l.map (·.1) ++ [name] := by
  induction l with
  | nil => rfl
  | cons x l ih =>
    unfold putExtra
    by_cases h : x.1 = name
    · simp [h]
    · rw [if_neg h, List.map_cons, ih]
      split_ifs <;> simp_all

theorem nodup_names_putExtra {l : List (String × Datum)} (h : (l.map (·.1)).Nodup) (name : String)
    (v : Datum) : ((putExtra name v l).map (·.1)).Nodup := by
  rw [names_putExtra]
  split_ifs with mem
  · exact h
  · simpa using List.Nodup.concat mem h

theorem mem_putExtra {l : List (String × Datum)} (h : (l.map (·.1)).Nodup) {name n : String}
    {v w : Datum} : (n, w) ∈ putExtra name v l ↔ if n = name then w = v else (n, w) ∈ l := by
  induction l with
  | nil => simp [putExtra]
  | cons x l ih =>
    obtain ⟨k, u⟩ := x
    obtain ⟨fresh, hl⟩ := List.nodup_cons.mp h
    have absent : ∀ w, (k, w) ∉ l := fun w hw ↦ fresh (List.mem_map.mpr ⟨_, hw, rfl⟩)
    unfold putExtra
    by_cases hk : k = name
    · subst hk
      by_cases hn : n = k
      · subst hn
        simp [absent w]
      · simp [hn]
    · rw [if_neg hk, List.mem_cons, ih hl]
      by_cases hn : n = name
      · subst hn
        simp [Ne.symm hk]
      · simp [hn]

structure Holds (entries : Entries) (d : Draft) : Prop where
  mode : d.mode = givenMode? entries
  flags : d.flags = entries.flatMap flagsOf
  command : d.command = (last? .command entries).bind commandText?
  session : d.session = ((last? .session entries).map sessionOf).getD .null
  extra_nodup : (d.extra.map (·.1)).Nodup
  extra : ∀ name v, (name, v) ∈ d.extra ↔ last? (.extra name) entries = some v

theorem Holds.nil : Holds [] {} where
  mode := rfl
  flags := rfl
  command := rfl
  session := rfl
  extra_nodup := List.nodup_nil
  extra := by simp

theorem Holds.add (h : Holds entries d) (step : d.Adds e d') : Holds (entries ++ [e]) d' where
  mode := by
    rw [givenMode?, last?_concat]
    split_ifs with hkey
    · obtain ⟨m, hm, hmode⟩ := step.mode_of_type hkey
      rw [hmode, Option.bind_some, hm, Option.some_or]
    · rw [step.mode hkey, h.mode, givenMode?, resultWords_append, firstMode?_append,
        Option.or_assoc]
  flags := by rw [step.flags, h.flags, List.flatMap_append, List.flatMap_singleton]
  command := by
    rw [step.command, h.command, last?_concat]
    split_ifs <;> rfl
  session := by
    rw [step.session, h.session, last?_concat]
    split_ifs <;> rfl
  extra_nodup := by
    rw [step.extra]
    split
    · exact nodup_names_putExtra h.extra_nodup _ _
    · exact h.extra_nodup
  extra name v := by
    rw [step.extra, last?_concat]
    split
    · rename_i name' hkey
      rw [mem_putExtra h.extra_nodup, h.extra, hkey]
      by_cases hname : name = name'
      · simp [hname, eq_comm]
      · simp [hname, Ne.symm hname]
    · rename_i hkey
      rw [h.extra, if_neg (hkey name)]

theorem holds_foldlM (h : entries.foldlM Draft.add {} = .ok d) : Holds entries d := by
  induction entries using List.reverseRecOn generalizing d with
  | nil =>
    obtain rfl := Except.ok.inj h
    exact .nil
  | append_singleton entries e ih =>
    rw [List.foldlM_append] at h
    rcases hmid : entries.foldlM Draft.add {} with cause | mid
    · rw [hmid] at h
      cases h
    · rw [hmid] at h
      have last : mid.add e = .ok d := by
        rcases hadd : mid.add e with cause | last
        · simp [hadd, bind, Except.bind] at h
        · simpa [hadd, bind, Except.bind, pure, Except.pure] using h
      exact (ih hmid).add (adds_of_add last)

end Draft

/-! ## Reading a header -/

def IsRefused (e : Datum × Datum) : Prop := Key.ofDatum e.1 = .resultType ∧ e.2.mode? = none

instance : DecidablePred IsRefused := fun _ ↦ inferInstanceAs (Decidable (_ ∧ _))

/-- The fault of an entry. That a text cannot be had shows before the text is looked at. -/
inductive Fails (e : Datum × Datum) : Fault → Prop
  | unreadable (h : Draft.isUnreadable e = true) : Fails e (.mishap .longNumber)
  | refused (readable : Draft.isUnreadable e = false) (h : IsRefused e) :
      Fails e (.configuration (.badResultType e.2))

def IsAccepted (e : Datum × Datum) : Prop := Draft.isUnreadable e = false ∧ ¬IsRefused e

instance : DecidablePred IsAccepted := fun _ ↦ inferInstanceAs (Decidable (_ ∧ _))

namespace Draft

variable {e : Datum × Datum} {f : Fault}

theorem add_eq_error_iff {d : Draft} : d.add e = .error f ↔ Fails e f := by
  constructor
  · intro h
    unfold add at h
    dsimp only at h
    split_ifs at h with unreadable
    · obtain rfl := Except.error.inj h
      exact .unreadable unreadable
    · cases hkey : Key.ofDatum e.1 with
      | resultType =>
        rcases hmode : e.2.mode? with _ | m
        · simp only [hkey, hmode] at h
          obtain rfl := Except.error.inj h
          exact .refused (Bool.not_eq_true _ ▸ unreadable) ⟨hkey, hmode⟩
        · simp only [hkey, hmode] at h
          cases h
      | results | resultFormat | command | session | extra =>
        simp only [hkey] at h
        cases h
  · intro h
    cases h with
    | unreadable h => simp only [add, h, if_true]
    | refused readable h => simp only [add, readable, h.1, h.2, Bool.false_eq_true, if_false]

end Draft

theorem exists_fails_iff {e : Datum × Datum} : (∃ f, Fails e f) ↔ ¬IsAccepted e := by
  constructor
  · rintro ⟨f, fails⟩ ⟨readable, accepted⟩
    cases fails with
    | unreadable unreadable =>
      rw [readable] at unreadable
      cases unreadable
    | refused _ refused => exact accepted refused
  · intro none
    by_cases unreadable : Draft.isUnreadable e = true
    · exact ⟨_, .unreadable unreadable⟩
    · have readable : Draft.isUnreadable e = false := Bool.not_eq_true _ ▸ unreadable
      exact ⟨_, .refused readable (not_not.mp fun accepted ↦ none ⟨readable, accepted⟩)⟩

theorem Fails.not_isAccepted {e : Datum × Datum} {f : Fault} (h : Fails e f) : ¬IsAccepted e :=
  exists_fails_iff.mp ⟨f, h⟩

theorem Fails.of_isLong {key v : Datum} (long : v.isLong = true)
    (hkey : Key.ofDatum key = .resultType ∨ Key.ofDatum key = .session) :
    Fails (key, v) (.mishap .longNumber) := by
  refine .unreadable ?_
  rcases hkey with hkey | hkey <;> simp only [Draft.isUnreadable, hkey, long, Bool.or_true]

theorem Draft.isAccepted_of_add {d d' : Draft} {e : Datum × Datum} (h : d.add e = .ok d') :
    IsAccepted e := by
  by_contra fails
  obtain ⟨f, fails⟩ := exists_fails_iff.mpr fails
  rw [add_eq_error_iff.mpr fails] at h
  cases h

def FailsFirst (entries : Entries) (f : Fault) : Prop :=
  ∃ before e after, entries = before ++ e :: after ∧ (∀ e' ∈ before, IsAccepted e') ∧ Fails e f

theorem exists_failsFirst_iff {entries : Entries} :
    (∃ f, FailsFirst entries f) ↔ ∃ e ∈ entries, ¬IsAccepted e := by
  constructor
  · rintro ⟨f, before, e, after, rfl, -, fails⟩
    exact ⟨e, List.mem_append_cons_self, fails.not_isAccepted⟩
  · intro some
    have exists_first : (entries.find? fun e ↦ ¬IsAccepted e).isSome = true := by simpa using some
    obtain ⟨e, found⟩ := Option.isSome_iff_exists.mp exists_first
    obtain ⟨none, before, after, split, accepted⟩ := List.find?_eq_some_iff_append.mp found
    obtain ⟨f, fails⟩ := exists_fails_iff.mpr (of_decide_eq_true none)
    exact ⟨f, before, e, after, split, fun e' mem ↦ by simpa using accepted e' mem, fails⟩

theorem failsFirst_cons_iff {e : Datum × Datum} {entries : Entries} {f : Fault} :
    FailsFirst (e :: entries) f ↔ Fails e f ∨ IsAccepted e ∧ FailsFirst entries f := by
  constructor
  · rintro ⟨_ | ⟨e', before⟩, e'', after, split, accepted, fails⟩
    · obtain ⟨rfl, rfl⟩ := List.cons.inj split
      exact .inl fails
    · obtain ⟨rfl, rfl⟩ := List.cons.inj split
      obtain ⟨first, accepted⟩ := List.forall_mem_cons.mp accepted
      exact .inr ⟨first, before, e'', after, rfl, accepted, fails⟩
  · rintro (fails | ⟨first, before, e', after, rfl, accepted, fails⟩)
    · exact ⟨[], e, entries, rfl, by simp, fails⟩
    · exact ⟨e :: before, e', after, rfl, List.forall_mem_cons.mpr ⟨first, accepted⟩, fails⟩

theorem Draft.foldlM_eq_error_iff {entries : Entries} {d : Draft} {f : Fault} :
    entries.foldlM add d = .error f ↔ FailsFirst entries f := by
  induction entries generalizing d with
  | nil => simp [FailsFirst, pure, Except.pure]
  | cons e entries ih =>
    rw [List.foldlM_cons, failsFirst_cons_iff, ← add_eq_error_iff (d := d)]
    rcases hadd : d.add e with f' | next
    · have fails := (add_eq_error_iff.mp hadd).not_isAccepted
      simp [bind, Except.bind, fails]
    · have accepted := isAccepted_of_add hadd
      simp [bind, Except.bind, accepted, ih]

variable {entries : Entries} {d : Directives}

/-- The first entry that fails is the fault of a header. -/
theorem ofEntries_eq_error_iff {f : Fault} :
    ofEntries entries = .error f ↔ FailsFirst entries f := by
  rw [← Draft.foldlM_eq_error_iff (d := {}), ofEntries]
  cases entries.foldlM Draft.add {} <;> simp [Except.map]

theorem Fails.ofEntries_cons {e : Datum × Datum} {f : Fault} (h : Fails e f) (entries : Entries) :
    ofEntries (e :: entries) = .error f :=
  ofEntries_eq_error_iff.mpr ⟨[], e, entries, rfl, by simp, h⟩

theorem exists_draft (h : ofEntries entries = .ok d) : ∃ draft : Draft,
    draft.Holds entries ∧ d = draft.finish := by
  unfold ofEntries at h
  rcases hfold : entries.foldlM Draft.add {} with cause | draft
  · rw [hfold] at h
    cases h
  · rw [hfold] at h
    exact ⟨draft, Draft.holds_foldlM hfold, (Except.ok.inj h).symm⟩

theorem exists_ofEntries_iff : (∃ d, ofEntries entries = .ok d) ↔ ∀ e ∈ entries, IsAccepted e := by
  constructor
  · rintro ⟨d, read⟩
    by_contra some
    obtain ⟨f, fails⟩ := exists_failsFirst_iff.mpr (by simpa using some)
    rw [ofEntries_eq_error_iff.mpr fails] at read
    cases read
  · intro accepted
    rcases read : ofEntries entries with f | d
    · obtain ⟨e, mem, fails⟩ := exists_failsFirst_iff.mp ⟨f, ofEntries_eq_error_iff.mp read⟩
      exact absurd (accepted e mem) fails
    · exact ⟨d, rfl⟩

theorem command_ofEntries (h : ofEntries entries = .ok d) :
    d.command =
      match (last? .command entries).bind commandText? with
      | some text => if text = "" then .null else .text text
      | none => .null := by
  obtain ⟨draft, holds, rfl⟩ := exists_draft h
  rw [← holds.command]
  rfl

/-- A header that was read from entries brings a text as the command, or none. -/
theorem isText_command_ofEntries (h : ofEntries entries = .ok d) :
    d.command = .null ∨ ∃ text, d.command = .text text := by
  rw [command_ofEntries h]
  split
  · split_ifs
    · exact .inl rfl
    · exact .inr ⟨_, rfl⟩
  · exact .inl rfl

theorem session_ofEntries (h : ofEntries entries = .ok d) :
    d.session = ((last? .session entries).map sessionOf).getD .null := by
  obtain ⟨draft, holds, rfl⟩ := exists_draft h
  exact holds.session

theorem isText_session_ofEntries (h : ofEntries entries = .ok d) :
    d.session = .null ∨ ∃ text, d.session = .text text := by
  rw [session_ofEntries h]
  rcases last? .session entries with _ | v
  · exact .inl rfl
  · cases v with
    | null => exact .inl rfl
    | bool | int | float | text | mode | bytes | moment | list | set | mapping | recurring =>
      exact .inr ⟨_, rfl⟩

/-- A text takes the place of the configured command unless it is empty. -/
theorem override?_of_text {text : String} (h : d.command = .text text) (ne : text ≠ "") :
    d.override? = some (.text text) := by
  have nonempty : text.isEmpty = false := by simpa using ne
  simp [override?, h, Datum.isTrue, nonempty]

end Directives

/-- A header that cannot be read is told, or holds a number that is too long to be written. -/
theorem Header.of_read_error {h : Header} {f : Fault} (hf : h.read = .error f) :
    (∃ cause, f = .configuration cause) ∨ f = .mishap .longNumber := by
  cases h with
  | absent | directives => cases hf
  | other kind => exact .inl ⟨_, (Except.error.inj hf).symm⟩
  | entries es =>
    obtain ⟨before, e, after, -, -, fails⟩ := Directives.ofEntries_eq_error_iff.mp hf
    cases fails with
    | unreadable => exact .inr rfl
    | refused => exact .inl ⟨_, rfl⟩

/-! ## The command that is run -/

theorem Settings.withOverrides_of_none (s : Settings) {d : Directives} (h : d.override? = none) :
    s.withOverrides d = s := by
  rw [withOverrides, h]

theorem Settings.command_withOverrides (s : Settings) {d : Directives} {command : Datum}
    (h : d.override? = some command) : (s.withOverrides d).command = command := by
  rw [withOverrides, h]

end DartBlock
