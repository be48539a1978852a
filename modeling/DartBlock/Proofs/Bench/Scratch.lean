import DartBlock.Proofs.Bench.Steps
import Mathlib.Data.List.Nodup
import Mathlib.Data.List.Pairwise

/-!
# The life of scratch files

A scratch file is made, written, given to one process and removed, all within one step, and no two
steps share a file; only a file whose text has no UTF-8 is left where it is. `ScratchCycle` says
what this means for the record of one step, and `scratch_files_of_steps` that it holds of every step
of every run, whatever the hosts refuse and whatever the processes do.
-/

namespace DartBlock

namespace Event

def created? : Event → Option String
  | .create _ path? => path?
  | _ => none

def isRun : Event → Bool
  | .run _ => true
  | _ => false

theorem creates_eq_isSome (e : Event) : e.creates = e.created?.isSome := by
  rcases e with _ | ⟨_, _ | _⟩ | _ | _ | _ <;> rfl

end Event

/-- The order of requests in the record `es` of a step that works on a block. -/
structure ScratchCycle (host : Host) (settings : Settings) (b : Block) (es : List Event) :
    Prop where
  /-- At most one file is made. -/
  create_once : (es.filterMap Event.created?).length ≤ 1
  /-- A file is written directly after it was made. -/
  write_after_create : ∀ before path text complete after,
    es = before ++ .write path text complete :: after →
    ∃ earlier directory, before = earlier ++ [.create directory (some path)]
  /-- At most one process is started. -/
  run_once : es.countP Event.isRun ≤ 1
  /-- A process is started when all of the program has been written, and is given the file and the
  mode. -/
  run_after_write : ∀ before argv after, es = before ++ .run argv :: after →
    ∃ d text path base, b.header.read = .ok d ∧
      program (settings.withOverrides d) b.snippet = .ok text ∧
      before.filterMap Event.created? = [path] ∧ .write path text true ∈ before ∧
      argv = base ++ [path, d.mode.word]
  /-- The removal of a file is the last request, and the only one of its kind, unless the file was
  written and is to be kept, or its text has no UTF-8. -/
  remove_last : ∀ before directory path after,
    es = before ++ .create directory (some path) :: after →
    (settings.keepScratch = true → ∀ text, .write path text true ∉ after) →
    (∀ text complete, .write path text complete ∈ after → host.mishap? (.text text) = none) →
    ∃ between, after = between ++ [.remove path] ∧ .remove path ∉ between
  /-- Nothing comes after a text that has no UTF-8, so its file is left. -/
  left : ∀ before path text complete after, es = before ++ .write path text complete :: after →
    host.mishap? (.text text) ≠ none → after = []
  /-- A file that is to be kept and was written is not removed. -/
  kept : ∀ path text, settings.keepScratch = true → .write path text true ∈ es →
    .remove path ∉ es
  /-- Only a file made before is removed. -/
  remove_after_create : ∀ before path after, es = before ++ .remove path :: after →
    path ∈ before.filterMap Event.created?

namespace ScratchCycle

variable {host : Host} {settings : Settings} {b : Block}

theorem created_of_write {es : List Event} (h : ScratchCycle host settings b es)
    {path text : String} {complete : Bool} (hw : .write path text complete ∈ es) :
    path ∈ es.filterMap Event.created? := by
  obtain ⟨before, after, heq⟩ := List.append_of_mem hw
  obtain ⟨earlier, directory, rfl⟩ := h.write_after_create _ _ _ _ _ heq
  exact List.mem_filterMap.mpr ⟨.create directory (some path), by simp [heq], rfl⟩

theorem created_of_remove {es : List Event} (h : ScratchCycle host settings b es) {path : String}
    (hr : .remove path ∈ es) : path ∈ es.filterMap Event.created? := by
  obtain ⟨before, after, heq⟩ := List.append_of_mem hr
  have hbefore := h.remove_after_create _ _ _ heq
  rw [heq, List.filterMap_append]
  exact List.mem_append_left _ hbefore

theorem of_quiet {es : List Event}
    (h : ∀ e ∈ es, (∃ name, e = .lookup name) ∨ ∃ directory, e = .create directory none) :
    ScratchCycle host settings b es := by
  have hmem : ∀ {e : Event} {before after : List Event}, es = before ++ e :: after → e ∈ es :=
    fun heq ↦ heq ▸ List.mem_append_cons_self
  have hwrite : ∀ path text complete, .write path text complete ∉ es := fun _ _ _ hw ↦ by
    rcases h _ hw with ⟨_, he⟩ | ⟨_, he⟩ <;> cases he
  have hrun : ∀ argv, .run argv ∉ es := fun _ hr ↦ by
    rcases h _ hr with ⟨_, he⟩ | ⟨_, he⟩ <;> cases he
  have hremove : ∀ path, .remove path ∉ es := fun _ hr ↦ by
    rcases h _ hr with ⟨_, he⟩ | ⟨_, he⟩ <;> cases he
  have hcreate : es.filterMap Event.created? = [] := by
    rw [List.filterMap_eq_nil_iff]
    intro e he
    rcases h e he with ⟨_, rfl⟩ | ⟨_, rfl⟩ <;> rfl
  refine {
    create_once := by simp [hcreate]
    write_after_create := fun _ _ _ _ _ heq ↦ absurd (hmem heq) (hwrite _ _ _)
    run_once := ?_
    run_after_write := fun _ _ _ heq ↦ absurd (hmem heq) (hrun _)
    remove_last := ?_
    left := fun _ _ _ _ _ heq ↦ absurd (hmem heq) (hwrite _ _ _)
    kept := fun _ _ _ hw ↦ absurd hw (hwrite _ _ _)
    remove_after_create := fun _ _ _ heq ↦ absurd (hmem heq) (hremove _) }
  · rw [List.countP_eq_zero.mpr]
    · exact Nat.zero_le 1
    · intro e he
      rcases h e he with ⟨_, rfl⟩ | ⟨_, rfl⟩ <;> simp [Event.isRun]
  · intro before directory path after heq
    rw [heq] at hcreate
    simp [Event.created?] at hcreate

theorem of_unencoded {text : String} (ht : host.mishap? (.text text) ≠ none) (name path : String)
    (directory : Datum) :
    ScratchCycle host settings b
      [.lookup name, .create directory (some path), .write path text false] where
  create_once := by simp [List.filterMap_cons, Event.created?]
  write_after_create := by
    intro before p t complete after h
    have hw : before = [.lookup name, .create directory (some path)] ∧
        (p = path ∧ t = text ∧ complete = false) ∧ after = [] := by
      simpa [List.cons_eq_append_iff] using h
    obtain ⟨rfl, ⟨rfl, -, -⟩, -⟩ := hw
    exact ⟨[.lookup name], directory, rfl⟩
  run_once := by simp [Event.isRun]
  run_after_write := by
    intro before argv after h
    simp [List.cons_eq_append_iff] at h
  remove_last := by
    intro before d p after h _ whole
    have hc : before = [.lookup name] ∧ (d = directory ∧ p = path) ∧
        after = [.write path text false] := by
      simpa [List.cons_eq_append_iff] using h
    obtain ⟨-, ⟨-, rfl⟩, rfl⟩ := hc
    exact absurd (whole _ _ List.mem_cons_self) ht
  left := by
    intro before p t complete after h _
    have hw : before = [.lookup name, .create directory (some path)] ∧
        (p = path ∧ t = text ∧ complete = false) ∧ after = [] := by
      simpa [List.cons_eq_append_iff] using h
    exact hw.2.2
  kept := by
    intro p t _ h
    simp at h
  remove_after_create := by
    intro before p after h
    simp [List.cons_eq_append_iff] at h

theorem of_unwritten {text : String} (ht : host.mishap? (.text text) = none) (name path : String)
    (directory : Datum) :
    ScratchCycle host settings b
      [.lookup name, .create directory (some path), .write path text false, .remove path] where
  create_once := by simp [List.filterMap_cons, Event.created?]
  write_after_create := by
    intro before p t complete after h
    have hw : before = [.lookup name, .create directory (some path)] ∧
        (p = path ∧ t = text ∧ complete = false) ∧ after = [.remove path] := by
      simpa [List.cons_eq_append_iff] using h
    obtain ⟨rfl, ⟨rfl, -, -⟩, -⟩ := hw
    exact ⟨[.lookup name], directory, rfl⟩
  run_once := by simp [Event.isRun]
  run_after_write := by
    intro before argv after h
    simp [List.cons_eq_append_iff] at h
  remove_last := by
    intro before d p after h _ _
    have hc : before = [.lookup name] ∧ (d = directory ∧ p = path) ∧
        after = [.write path text false, .remove path] := by
      simpa [List.cons_eq_append_iff] using h
    obtain ⟨-, ⟨-, rfl⟩, rfl⟩ := hc
    exact ⟨[.write p text false], rfl, by simp⟩
  left := by
    intro before p t complete after h broken
    have hw : before = [.lookup name, .create directory (some path)] ∧
        (p = path ∧ t = text ∧ complete = false) ∧ after = [.remove path] := by
      simpa [List.cons_eq_append_iff] using h
    obtain ⟨-, ⟨-, rfl, -⟩, -⟩ := hw
    exact absurd ht broken
  kept := by
    intro p t _ h
    simp at h
  remove_after_create := by
    intro before p after h
    have hr : before = [.lookup name, .create directory (some path), .write path text false] ∧
        p = path ∧ after = [] := by
      simpa [List.cons_eq_append_iff] using h
    obtain ⟨rfl, rfl, -⟩ := hr
    simp [List.filterMap_cons, Event.created?]

theorem of_run {d : Directives} {text : String} (hd : b.header.read = .ok d)
    (hp : program (settings.withOverrides d) b.snippet = .ok text)
    (ht : host.mishap? (.text text) = none) (name path : String) (directory : Datum)
    (base : List String) :
    ScratchCycle host settings b
      (.lookup name :: .create directory (some path) :: .write path text true ::
        .run (base ++ [path, d.mode.word]) :: Invocation.disposal settings.keepScratch path) where
  create_once := by
    cases settings.keepScratch <;> simp [List.filterMap_cons, Event.created?]
  write_after_create := by
    intro before p t complete after h
    have hw : before = [.lookup name, .create directory (some path)] ∧ p = path := by
      cases hk : settings.keepScratch <;> simp [hk, List.cons_eq_append_iff] at h <;>
        exact ⟨h.1, h.2.1.1⟩
    obtain ⟨rfl, rfl⟩ := hw
    exact ⟨[.lookup name], directory, rfl⟩
  run_once := by
    cases settings.keepScratch <;> simp [List.countP_cons, Event.isRun]
  run_after_write := by
    intro before argv after h
    have hr : before = [.lookup name, .create directory (some path), .write path text true] ∧
        argv = base ++ [path, d.mode.word] := by
      cases hk : settings.keepScratch <;> simp [hk, List.cons_eq_append_iff] at h <;>
        exact ⟨h.1, h.2.1⟩
    obtain ⟨rfl, rfl⟩ := hr
    exact ⟨d, text, path, base, hd, hp, rfl, by simp, rfl⟩
  remove_last := by
    intro before d' p after h hkeep _
    have hc : p = path ∧ after = .write path text true ::
        .run (base ++ [path, d.mode.word]) :: Invocation.disposal settings.keepScratch path := by
      cases hk : settings.keepScratch <;> simp [hk, List.cons_eq_append_iff] at h <;>
        exact ⟨h.2.1.2, by simpa using h.2.2⟩
    obtain ⟨rfl, rfl⟩ := hc
    cases hk : settings.keepScratch with
    | false => exact ⟨[.write p text true, .run (base ++ [p, d.mode.word])], rfl, by simp⟩
    | true => exact absurd List.mem_cons_self (hkeep hk text)
  left := by
    intro before p t complete after h broken
    have hw : t = text := by
      cases hk : settings.keepScratch <;> simp [hk, List.cons_eq_append_iff] at h <;>
        exact h.2.1.2.1
    rw [hw] at broken
    exact absurd ht broken
  kept := by
    intro p t hk _
    simp [hk]
  remove_after_create := by
    intro before p after h
    cases hk : settings.keepScratch with
    | false =>
      have hr : before = [.lookup name, .create directory (some path), .write path text true,
          .run (base ++ [path, d.mode.word])] ∧ p = path ∧ after = [] := by
        simpa [hk, List.cons_eq_append_iff] using h
      obtain ⟨rfl, rfl, -⟩ := hr
      simp [List.filterMap_cons, Event.created?]
    | true => simp [hk, List.cons_eq_append_iff] at h

end ScratchCycle

/-! ## The record of one step -/

theorem Invocation.Course.scratchCycle {host : Host} {guest : Guest} {made : Nat}
    {settings : Settings} {b : Block} {d : Directives} {text : String}
    {res : Except Fault Invocation} {es : List Event}
    (h : Course host guest made (settings.withOverrides d) .null (.mode d.mode) text res es)
    (hd : b.header.read = .ok d) (hp : program (settings.withOverrides d) b.snippet = .ok text) :
    ScratchCycle host settings b es := by
  have hrun : ∀ {m : Mode} {name exe : String} {rest : List String},
      Ready host (settings.withOverrides d) .null (.mode d.mode) text m name exe rest →
      ScratchCycle host settings b (openingLog (settings.withOverrides d) name made ++
        runLog (settings.withOverrides d) made text (argvOf exe rest made m)) := by
    intro m name exe rest hr
    rw [hr.toAdmitted.mode_eq, runLog, Settings.keepScratch_withOverrides]
    exact .of_run hd hp hr.stores.encoded name _ _ (exe :: rest)
  cases h with
  | session | untold | mode | longMode | noText | unparsed | empty => exact .of_quiet (by simp)
  | notFound | misplaced | uncreated => exact .of_quiet (by simp)
  | unencoded _ _ _ h => exact .of_unencoded (by simp [h]) _ _ _
  | unwritten _ _ _ hp => exact .of_unwritten hp _ _ _
  | unworded hr | unstarted hr | failed hr | ended hr => exact hrun hr

theorem Invocation.created_runLog (settings : Settings) (name text : String) (made : Nat)
    (argv : List String) :
    (openingLog settings name made ++ runLog settings made text argv).filterMap Event.created? =
      [scratchPath made] := by
  have hd : (disposal settings.keepScratch (scratchPath made)).filterMap Event.created? = [] := by
    cases settings.keepScratch <;> rfl
  rw [List.filterMap_append, runLog, List.filterMap_cons_none rfl, List.filterMap_cons_none rfl,
    hd, List.append_nil]
  rfl

/-- An invocation makes the next scratch file or none. -/
theorem Invocation.Course.created {host : Host} {guest : Guest} {made : Nat}
    {settings : Settings} {session mode : Datum} {text : String}
    {res : Except Fault Invocation} {es : List Event}
    (h : Course host guest made settings session mode text res es) :
    es.filterMap Event.created? = [] ∨ es.filterMap Event.created? = [scratchPath made] := by
  cases h with
  | session | untold | mode | longMode | noText | unparsed | empty => exact .inl rfl
  | notFound | misplaced | uncreated => exact .inl rfl
  | unencoded | unwritten => exact .inr rfl
  | unworded | unstarted | failed | ended => exact .inr (created_runLog _ _ _ _ _)

namespace Bench

theorem scratchCycle_step (b : Bench) (s : Step) :
    ScratchCycle s.host b.runner.settings s.block (b.step s).1.events := by
  rcases b.step_cases s with h | ⟨d, text, res, hd, hp, h⟩
  · rw [h]
    exact .of_quiet (by simp)
  · exact h.scratchCycle hd hp

theorem created_step (b : Bench) (s : Step) :
    (b.step s).1.events.filterMap Event.created? =
      (List.range' b.made ((b.step s).2.made - b.made)).map scratchPath := by
  have hcount : (b.step s).2.made - b.made =
      ((b.step s).1.events.filterMap Event.created?).length := by
    rw [made_step, Nat.add_sub_cancel_left, List.length_filterMap_eq_countP]
    exact List.countP_congr fun e _ ↦ by rw [e.creates_eq_isSome]
  have hcreated : (b.step s).1.events.filterMap Event.created? = [] ∨
      (b.step s).1.events.filterMap Event.created? = [scratchPath b.made] := by
    rcases b.step_cases s with h | ⟨d, text, res, hd, hp, h⟩
    · exact .inl (by rw [h]; rfl)
    · exact h.created
  rw [hcount]
  rcases hcreated with h | h <;> rw [h] <;> rfl

/-! ## The record of a run -/

theorem scratchPath_injective : Function.Injective scratchPath := by
  intro m n h
  unfold scratchPath at h
  have hlist := congrArg String.toList h
  rw [String.toList_append, String.toList_append, String.toList_append, String.toList_append]
    at hlist
  have hnumber := List.append_cancel_left (List.append_cancel_right hlist)
  have hdigits : Nat.toDigits 10 (m + 1) = Nat.toDigits 10 (n + 1) := by
    rwa [Nat.toString_eq_repr, Nat.toString_eq_repr, Nat.toList_repr, Nat.toList_repr] at hnumber
  have hnum := congrArg (Nat.ofDigitChars 10 · 0) hdigits
  simp only [Nat.ofDigitChars_ten_toDigits] at hnum
  exact Nat.succ.inj hnum

/-- The scratch files a run makes are the next ones in the count. -/
theorem created_log (b : Bench) (ss : List Step) :
    ∃ n, (b.log ss).filterMap Event.created? = (List.range' b.made n).map scratchPath := by
  induction ss generalizing b with
  | nil => exact ⟨0, rfl⟩
  | cons s ss ih =>
    obtain ⟨n, hn⟩ := ih (b.step s).2
    refine ⟨(b.step s).2.made - b.made + n, ?_⟩
    have hmade : b.made + ((b.step s).2.made - b.made) = (b.step s).2.made := by
      rw [made_step]
      omega
    rw [log_cons, List.filterMap_append, created_step, hn, ← List.map_append,
      ← List.range'_append_1, hmade]

theorem nodup_created_log (b : Bench) (ss : List Step) :
    ((b.log ss).filterMap Event.created?).Nodup := by
  obtain ⟨n, hn⟩ := b.created_log ss
  rw [hn]
  exact (List.nodup_range').map scratchPath_injective

/-- Two steps of a run that make the same scratch file have the same record. -/
theorem events_eq_of_created {b : Bench} {ss : List Step} {t u : Outcome Reply × Bench}
    (ht : t ∈ b.steps ss) (hu : u ∈ b.steps ss) {path : String}
    (htp : path ∈ t.1.events.filterMap Event.created?)
    (hup : path ∈ u.1.events.filterMap Event.created?) : t.1.events = u.1.events := by
  have hnodup := b.nodup_created_log ss
  rw [log, List.filterMap_flatMap, List.nodup_flatMap] at hnodup
  have : Std.Symm (Function.onFun List.Disjoint
      fun t : Outcome Reply × Bench ↦ t.1.events.filterMap Event.created?) :=
    ⟨fun _ _ h _ hx hy ↦ h hy hx⟩
  by_contra hne
  have hdisjoint := hnodup.2.forall ht hu fun h ↦ hne (h ▸ rfl)
  exact hdisjoint htp hup

end Bench

end DartBlock
