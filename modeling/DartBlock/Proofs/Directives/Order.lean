import DartBlock.Proofs.Datum
import DartBlock.Proofs.Directives
import Mathlib.Data.List.Perm.Basic

/-!
# The order of a header

Where no two entries set the same, the entry for a key is the last one for it, wherever it stands
(`IsDistinct.last?_eq_some_iff`), so each field is made of the same entry in any order. Only one
entry can then be refused (`IsDistinct.failsFirst_iff`), but any number of entries can hold a number
that is too long to be written. Main theorem: `ofEntries_perm`.
-/

namespace DartBlock

namespace Directives

/-! ## Names of keys -/

def Key.reserved : List String :=
  ["results", "result-type", "result_type", "result-format", "result_format", "cmd", "command",
    "external-command-override", "external_command_override", "session"]

/-- The entries with any other name are the extra ones. -/
theorem Key.ofDatum_eq_extra_iff {key : Datum} {name : String} :
    ofDatum key = .extra name ↔ nameOf key = name ∧ name ∉ reserved := by
  unfold ofDatum
  generalize nameOf key = n
  dsimp only
  constructor
  · split_ifs with h₁ h₂ h₃ h₄ h₅ <;> rintro ⟨⟩
    simp only [not_or] at h₂ h₃ h₄
    simp [reserved, h₁, h₂, h₃, h₄, h₅]
  · rintro ⟨rfl, free⟩
    simp only [reserved, List.mem_cons, List.not_mem_nil, or_false, not_or] at free
    simp [free]

/-! ## Entries that set different things -/

def IsDistinct (entries : Entries) : Prop := (entries.map fun e ↦ Key.ofDatum e.1).Nodup

namespace IsDistinct

variable {entries entries' : Entries} {key : Key} {v : Datum}

theorem perm (h : IsDistinct entries) (perm : entries.Perm entries') : IsDistinct entries' :=
  (perm.map _).nodup_iff.mp h

theorem eq_of_mem (h : IsDistinct entries) {e e' : Datum × Datum} (he : e ∈ entries)
    (he' : e' ∈ entries) (hkey : Key.ofDatum e.1 = Key.ofDatum e'.1) : e = e' :=
  Entries.eq_of_mem h he he' hkey

/-- The last entry for a key is the only one. -/
theorem last?_eq_some_iff (h : IsDistinct entries) :
    last? key entries = some v ↔ ∃ k, (k, v) ∈ entries ∧ Key.ofDatum k = key :=
  Entries.last?_eq_some_iff_mem h

theorem last?_perm (h : IsDistinct entries) (perm : entries.Perm entries') (key : Key) :
    last? key entries = last? key entries' :=
  Entries.last?_perm h perm key

theorem resultWords_eq (h : IsDistinct entries) :
    resultWords entries = ((last? .results entries).map Datum.words).getD [] := by
  unfold resultWords
  rcases hlast : last? .results entries with _ | v
  · have others : ∀ e ∈ entries, ¬decide (Key.ofDatum e.1 = .results) = true := by
      simpa using last?_eq_none_iff.mp hlast
    rw [List.filter_eq_nil_iff.mpr others]
    rfl
  · obtain ⟨before, k, after, rfl, hk, hafter⟩ := Directives.last?_eq_some_iff.mp hlast
    have hbefore : ∀ e ∈ before, Key.ofDatum e.1 ≠ .results := by
      rw [IsDistinct, List.map_append, List.map_cons, hk] at h
      intro e he
      exact (List.nodup_append.mp h).2.2 _ (List.mem_map_of_mem he) _ List.mem_cons_self
    rw [List.filter_append, List.filter_eq_nil_iff.mpr (by simpa using hbefore),
      List.filter_cons_of_pos (by simpa using hk),
      List.filter_eq_nil_iff.mpr (by simpa using hafter)]
    simp

theorem resultWords_perm (h : IsDistinct entries) (perm : entries.Perm entries') :
    resultWords entries = resultWords entries' := by
  rw [h.resultWords_eq, (h.perm perm).resultWords_eq, h.last?_perm perm]

/-- Where all texts can be had, one entry at most can be refused, so it is the fault wherever it
stands. -/
theorem failsFirst_iff (h : IsDistinct entries)
    (readable : ∀ e ∈ entries, Draft.isUnreadable e = false) {f : Fault} :
    FailsFirst entries f ↔ ∃ e ∈ entries, Fails e f := by
  constructor
  · rintro ⟨before, e, after, rfl, -, fails⟩
    exact ⟨e, List.mem_append_cons_self, fails⟩
  · rintro ⟨e, mem, fails⟩
    obtain ⟨f', first⟩ := exists_failsFirst_iff.mpr ⟨e, mem, fails.not_isAccepted⟩
    obtain ⟨before, e', after, split, accepted, fails'⟩ := first
    have mem' : e' ∈ entries := split ▸ List.mem_append_cons_self
    cases fails with
    | unreadable unreadable =>
      rw [readable e mem] at unreadable
      cases unreadable
    | refused _ refused =>
      cases fails' with
      | unreadable unreadable =>
        rw [readable e' mem'] at unreadable
        cases unreadable
      | refused readable' refused' =>
        -- Both are for the type of the result, and only one entry is.
        obtain rfl := h.eq_of_mem mem mem' (refused.1.trans refused'.1.symm)
        exact ⟨before, e, after, split, accepted, .refused readable' refused'⟩

theorem failsFirst_perm (h : IsDistinct entries)
    (readable : ∀ e ∈ entries, Draft.isUnreadable e = false) (perm : entries.Perm entries')
    {f : Fault} : FailsFirst entries f ↔ FailsFirst entries' f := by
  have readable' : ∀ e ∈ entries', Draft.isUnreadable e = false := fun e mem ↦
    readable e (perm.mem_iff.mpr mem)
  rw [h.failsFirst_iff readable, (h.perm perm).failsFirst_iff readable']
  simp only [perm.mem_iff]

end IsDistinct

/-! ## The same reading -/

/-- Directives that ask for the same. The flags are taken as a set and the extra entries as a
mapping. -/
structure Same (d d' : Directives) : Prop where
  mode : d.mode = d'.mode
  flags : ∀ flag, flag ∈ d.flags ↔ flag ∈ d'.flags
  command : d.command = d'.command
  session : d.session = d'.session
  extra : d.extra.Perm d'.extra

/-- What two headers come to: the same fault, or directives that ask for the same. -/
inductive SameReading : Except Fault Directives → Except Fault Directives → Prop
  | error (f : Fault) : SameReading (.error f) (.error f)
  | ok {d d' : Directives} (h : d.Same d') : SameReading (.ok d) (.ok d')

variable {entries entries' : Entries}

theorem Draft.Holds.same {d d' : Draft} (hd : d.Holds entries) (hd' : d'.Holds entries')
    (distinct : IsDistinct entries) (perm : entries.Perm entries') : d.finish.Same d'.finish where
  mode := by
    simp only [finish, hd.mode, hd'.mode, givenMode?, distinct.last?_perm perm,
      distinct.resultWords_perm perm]
  flags flag := by
    simp only [finish, List.mem_eraseDups, hd.flags, hd'.flags, List.mem_flatMap, perm.mem_iff]
  command := by
    simp only [finish, hd.command, hd'.command, distinct.last?_perm perm]
  session := by
    simp only [finish, hd.session, hd'.session, distinct.last?_perm perm]
  extra := by
    refine (List.perm_ext_iff_of_nodup hd.extra_nodup.of_map hd'.extra_nodup.of_map).mpr ?_
    rintro ⟨name, v⟩
    rw [hd.extra, hd'.extra, distinct.last?_perm perm]

/-- **The order of a header does not matter** where all texts it is read off can be had. If no two
entries set the same, the entries in any other order then come to the same fault or to directives
that ask for the same. Where a text cannot be had, the header fails in any order, though not always
with the same fault. The extra entries of a header that is read are those with a name that is not
reserved, each with its own value under its name, and no name stands twice. -/
theorem ofEntries_perm (distinct : IsDistinct entries) (perm : entries.Perm entries') :
    ((∀ e ∈ entries, Draft.isUnreadable e = false) →
      SameReading (ofEntries entries) (ofEntries entries')) ∧
    (∀ e ∈ entries, Draft.isUnreadable e = true → ∃ f, ofEntries entries' = .error f) ∧
    ∀ d, ofEntries entries = .ok d →
      (∃ d', ofEntries entries' = .ok d' ∧ d.Same d') ∧ (d.extra.map (·.1)).Nodup ∧
        ∀ name v, (name, v) ∈ d.extra ↔
          name ∉ Key.reserved ∧ ∃ key, (key, v) ∈ entries ∧ Key.nameOf key = name := by
  have same : ∀ d, ofEntries entries = .ok d → ∃ d', ofEntries entries' = .ok d' ∧ d.Same d' := by
    intro d hread
    have accepted := exists_ofEntries_iff.mp ⟨d, hread⟩
    obtain ⟨d', hread'⟩ := exists_ofEntries_iff.mpr fun e mem ↦ accepted e (perm.mem_iff.mpr mem)
    obtain ⟨draft, holds, rfl⟩ := exists_draft hread
    obtain ⟨draft', holds', rfl⟩ := exists_draft hread'
    exact ⟨_, hread', holds.same holds' distinct perm⟩
  refine ⟨fun readable ↦ ?_, fun e mem unreadable ↦ ?_, fun d hread ↦ ⟨same d hread, ?_⟩⟩
  · rcases hread : ofEntries entries with f | d
    · have first := (distinct.failsFirst_perm readable perm).mp (ofEntries_eq_error_iff.mp hread)
      rw [ofEntries_eq_error_iff.mpr first]
      exact .error f
    · obtain ⟨d', hread', h⟩ := same d hread
      rw [hread']
      exact .ok h
  · have fails : ¬IsAccepted e := exists_fails_iff.mp ⟨_, .unreadable unreadable⟩
    obtain ⟨f, first⟩ := exists_failsFirst_iff.mpr ⟨e, perm.mem_iff.mp mem, fails⟩
    exact ⟨f, ofEntries_eq_error_iff.mpr first⟩
  · obtain ⟨draft, holds, rfl⟩ := exists_draft hread
    refine ⟨holds.extra_nodup, fun name v ↦ ?_⟩
    rw [Draft.finish, holds.extra, distinct.last?_eq_some_iff]
    simp only [Key.ofDatum_eq_extra_iff]
    constructor
    · rintro ⟨key, mem, hname, free⟩
      exact ⟨free, key, mem, hname⟩
    · rintro ⟨free, key, mem, hname⟩
      exact ⟨key, mem, hname, free⟩

/-- A type that is given behind words for another one and a flag still overrides them when the
entries are turned around. -/
theorem ofEntries_perm_reversed :
    let entries : Entries := [
      (.text ":Results", .text "Output RAW"), (.text "result_type", .mode .value),
      (.text ":Var", .int 1)]
    IsDistinct entries ∧ entries.Perm entries.reverse ∧
      ∃ d, ofEntries entries.reverse = .ok d ∧ d.mode = .value ∧
        (∀ flag, flag ∈ d.flags ↔ flag = "raw") ∧ d.extra = [("var", .int 1)] := by
  intro entries
  have distinct : IsDistinct entries := by
    unfold IsDistinct
    decide +kernel
  have perm : entries.Perm entries.reverse := (List.reverse_perm entries).symm
  have read : ofEntries entries = .ok
      { mode := .value, flags := ["raw"], extra := [("var", .int 1)] } := by
    rfl
  have readable : ∀ e ∈ entries, Draft.isUnreadable e = false := by decide +kernel
  have reading := (ofEntries_perm distinct perm).1 readable
  rw [read] at reading
  generalize hturned : ofEntries entries.reverse = turned at reading
  cases reading with
  | ok same =>
    refine ⟨distinct, perm, _, rfl, same.mode.symm, fun flag ↦ ?_, ?_⟩
    · rw [← same.flags, List.mem_singleton]
    · exact List.perm_singleton.mp same.extra.symm

/-- A type that is refused and a session that is too long to be written: whichever of the two stands
first is the fault. -/
theorem ofEntries_long_session :
    let type : Datum × Datum := (.text "result-type", .text "both")
    let session : Datum × Datum := (.text "session", .int (10 ^ digitLimit : Nat))
    IsDistinct [type, session] ∧
      ofEntries [type, session] = .error (.configuration (.badResultType (.text "both"))) ∧
      ofEntries [session, type] = .error (.mishap .longNumber) := by
  intro type session
  have nameless : (Datum.text "both").mode? = none := by decide +kernel
  have refused : Fails type (.configuration (.badResultType (.text "both"))) := by
    refine .refused ?_ ⟨Key.ofDatum_resultType, nameless⟩
    simp only [type, Draft.isUnreadable, Key.ofDatum_resultType]
    rfl
  have unreadable : Fails session (.mishap .longNumber) :=
    .of_isLong Datum.isLong_ten_pow (.inr Key.ofDatum_session)
  refine ⟨?_, refused.ofEntries_cons _, unreadable.ofEntries_cons _⟩
  show [Key.ofDatum (.text "result-type"), Key.ofDatum (.text "session")].Nodup
  rw [Key.ofDatum_resultType, Key.ofDatum_session]
  decide

end Directives

end DartBlock
