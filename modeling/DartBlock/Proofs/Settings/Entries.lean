import DartBlock.Proofs.Entries
import DartBlock.Proofs.Settings.File
import DartBlock.Proofs.Yaml.Key
import Mathlib.Data.String.Basic
import Mathlib.Data.List.Sort

/-!
# What entries are read as

Entries that set the same are told apart by the names of their keys, and the last one counts
(`Gives`). `Reads` lists what becomes of a mapping, with a message if it is refused: unknown keys
come before all else, then the first text key with another value. Main theorem: `reads_mapping`.
-/

namespace DartBlock.Settings

variable {entries entries' : Entries} {name : String}

/-! ## What is given -/

/-- The value given under a name is that of the last entry with a key of this name. -/
def Gives (entries : Entries) (name : String) (v : Datum) : Prop :=
  ∃ before key after, entries = before ++ (key, v) :: after ∧ keyOf key = name ∧
    ∀ e ∈ after, keyOf e.1 ≠ name

def IsUnknown (entries : Entries) (name : String) : Prop :=
  name ∉ keys ∧ ∃ e ∈ entries, keyOf e.1 = name

def IsMisfit (entries : Entries) (name : String) : Prop :=
  ∃ v, Gives entries name v ∧ v.text? = none

theorem given?_eq (entries : Entries) (name : String) :
    given? entries name = Entries.last? keyOf name entries := rfl

theorem given?_eq_some_iff {v : Datum} : given? entries name = some v ↔ Gives entries name v := by
  rw [given?_eq, Entries.last?_eq_some_iff, Gives]

theorem given?_eq_none_iff : given? entries name = none ↔ ∀ e ∈ entries, keyOf e.1 ≠ name := by
  rw [given?_eq, Entries.last?_eq_none_iff]

/-! ## Unknown keys -/

theorem nodup_eraseDups {α : Type} [DecidableEq α] : ∀ as : List α, as.eraseDups.Nodup
  | [] => List.nodup_nil
  | a :: as => by
    rw [List.eraseDups_cons, List.nodup_cons]
    exact ⟨by simp, nodup_eraseDups _⟩
termination_by as => as.length
decreasing_by exact Nat.lt_succ_of_le (List.length_filter_le _ _)

theorem unknownKeys_eq_iff {names : List String} :
    unknownKeys entries = names ↔
      names.Pairwise (· < ·) ∧ ∀ name, name ∈ names ↔ IsUnknown entries name := by
  have mem (name : String) : name ∈ unknownKeys entries ↔ IsUnknown entries name := by
    simp [unknownKeys, IsUnknown, and_comm]
  have sorted : (unknownKeys entries).Pairwise (· < ·) := by
    have ordered : (unknownKeys entries).Pairwise (· ≤ ·) :=
      List.sortedLE_mergeSort.pairwise
    have distinct : (unknownKeys entries).Nodup :=
      (List.mergeSort_perm _ _).nodup_iff.mpr (nodup_eraseDups _)
    exact (ordered.and distinct).imp fun h ↦ lt_of_le_of_ne h.1 h.2
  constructor
  · rintro rfl
    exact ⟨sorted, mem⟩
  · rintro ⟨hsorted, hmem⟩
    exact sorted.sortedLT.eq_of_mem_iff hsorted.sortedLT
      fun name ↦ (mem name).trans (hmem name).symm

theorem unknownKeys_eq_nil_iff : unknownKeys entries = [] ↔ ∀ name, ¬IsUnknown entries name := by
  simp [unknownKeys_eq_iff]

/-! ## Values that are no texts -/

theorem any_isNone_text?_iff :
    ((given? entries name).any fun v ↦ v.text?.isNone) = true ↔ IsMisfit entries name := by
  simp [IsMisfit, ← given?_eq_some_iff, Option.any_eq_true]

theorem misfit?_eq_some_iff :
    misfit? entries = some name ↔ ∃ before after, textKeys = before ++ name :: after ∧
      IsMisfit entries name ∧ ∀ key ∈ before, ¬IsMisfit entries key := by
  simp only [misfit?, List.find?_eq_some_iff_append, any_isNone_text?_iff, Bool.not_eq_true',
    ← Bool.not_eq_true]
  constructor
  · rintro ⟨misfit, before, after, split, fits⟩
    exact ⟨before, after, split, misfit, fits⟩
  · rintro ⟨before, after, split, misfit, fits⟩
    exact ⟨misfit, before, after, split, fits⟩

theorem misfit?_eq_none_iff :
    misfit? entries = none ↔ ∀ key ∈ textKeys, ¬IsMisfit entries key := by
  simp only [misfit?, List.find?_eq_none, any_isNone_text?_iff]

/-! ## Fields -/

/-- What a field holds: what is made of the value given under its name, or its default if no value
is. -/
def IsField {α : Type} (entries : Entries) (name : String) (made : Datum → Option α)
    (default value : α) : Prop :=
  (∃ v, Gives entries name v ∧ made v = some value) ∨
    (∀ e ∈ entries, keyOf e.1 ≠ name) ∧ value = default

namespace IsField

variable {α : Type} {made : Datum → Option α} {default x y : α}

/-- Where something is made of each value, a field holds what it should. -/
theorem getD (fits : ∀ v, Gives entries name v → made v ≠ none) :
    IsField entries name made default (((given? entries name).bind made).getD default) := by
  rcases hgiven : given? entries name with _ | v
  · exact .inr ⟨given?_eq_none_iff.mp hgiven, rfl⟩
  · have gives := given?_eq_some_iff.mp hgiven
    obtain ⟨x, hx⟩ := Option.ne_none_iff_exists'.mp (fits v gives)
    exact .inl ⟨v, gives, by simp [hx]⟩

theorem unique (h : IsField entries name made default x)
    (h' : IsField entries name made default y) : x = y := by
  unfold IsField at h h'
  simp only [← given?_eq_some_iff, ← given?_eq_none_iff] at h h'
  obtain ⟨v, hv, hx⟩ | ⟨hnone, rfl⟩ := h <;> obtain ⟨v', hv', hy⟩ | ⟨hnone', rfl⟩ := h'
  · obtain rfl := Option.some.inj (hv.symm.trans hv')
    exact Option.some.inj (hx.symm.trans hy)
  · cases hv.symm.trans hnone'
  · cases hv'.symm.trans hnone
  · rfl

end IsField

/-- Settings hold what the entries give, and the defaults for the rest. -/
structure Holds (entries : Entries) (s : Settings) : Prop where
  command : IsField entries "command" some (.text "dart") s.command
  wrapperTemplate :
    IsField entries "wrapper_template" Datum.text? Scaffold.template s.wrapperTemplate
  wrapperImports :
    IsField entries "wrapper_imports" Datum.text? Scaffold.wrapperImports s.wrapperImports
  preludeImports :
    IsField entries "prelude_imports" Datum.text? Scaffold.preludeImports s.preludeImports
  asyncMarker : IsField entries "async_marker" Datum.text? "async" s.asyncMarker
  awaitMarker : IsField entries "await_marker" Datum.text? "await" s.awaitMarker
  scratchDirectory : IsField entries "scratch_dir" some .null s.scratchDirectory
  keepScratch : IsField entries "keep_scratch" (fun v ↦ some v.isTrue) false s.keepScratch

theorem Holds.unique {s s' : Settings} (h : Holds entries s) (h' : Holds entries s') :
    s = s' := by
  cases s
  cases s'
  rw [mk.injEq]
  exact ⟨h.command.unique h'.command, h.wrapperTemplate.unique h'.wrapperTemplate,
    h.wrapperImports.unique h'.wrapperImports, h.preludeImports.unique h'.preludeImports,
    h.asyncMarker.unique h'.asyncMarker, h.awaitMarker.unique h'.awaitMarker,
    h.scratchDirectory.unique h'.scratchDirectory, h.keepScratch.unique h'.keepScratch⟩

theorem exists_holds (known : unknownKeys entries = []) (fits : misfit? entries = none) :
    ∃ s, ofEntries entries = .ok s ∧ Holds entries s := by
  have text {key : String} (hkey : key ∈ textKeys) (v : Datum) (gives : Gives entries key v) :
      v.text? ≠ none := fun none ↦ misfit?_eq_none_iff.mp fits key hkey ⟨v, gives, none⟩
  have anything (key : String) (default : Datum) :
      IsField entries key some default ((given? entries key).getD default) := by
    have field : IsField entries key some default (((given? entries key).bind some).getD default) :=
      .getD fun v _ ↦ Option.some_ne_none v
    rwa [Option.bind_fun_some] at field
  have truth : IsField entries "keep_scratch" (fun v ↦ some v.isTrue) false
      (((given? entries "keep_scratch").map Datum.isTrue).getD false) := by
    rw [Option.map_eq_bind]
    exact .getD fun v _ ↦ Option.some_ne_none v.isTrue
  rw [ofEntries, if_neg (not_not.mpr known), fits]
  exact ⟨_, rfl, {
    command := anything "command" (.text "dart")
    wrapperTemplate := .getD (text (by simp [textKeys]))
    wrapperImports := .getD (text (by simp [textKeys]))
    preludeImports := .getD (text (by simp [textKeys]))
    asyncMarker := .getD (text (by simp [textKeys]))
    awaitMarker := .getD (text (by simp [textKeys]))
    scratchDirectory := anything "scratch_dir" .null
    keepScratch := truth }⟩

/-! ## The outcome -/

/-- What a mapping is read as, or the message it is refused with. -/
inductive Reads (entries : Entries) : Except String Settings → Prop
  | unknown {names : List String} (some : names ≠ []) (sorted : names.Pairwise (· < ·))
      (mem : ∀ name, name ∈ names ↔ IsUnknown entries name) :
      Reads entries (.error ("Unknown configuration keys: " ++ ", ".intercalate names))
  /-- All keys are known, and this text key is the first with another value. -/
  | misfit {before after : List String} {key : String} (known : ∀ name, ¬IsUnknown entries name)
      (split : textKeys = before ++ key :: after) (misfit : IsMisfit entries key)
      (fits : ∀ key ∈ before, ¬IsMisfit entries key) :
      Reads entries (.error ("Configuration key '" ++ key ++ "' must be a string"))
  | settings {s : Settings} (known : ∀ name, ¬IsUnknown entries name)
      (fits : ∀ key ∈ textKeys, ¬IsMisfit entries key) (holds : Holds entries s) :
      Reads entries (.ok s)

theorem ofEntries_of_unknown (h : unknownKeys entries ≠ []) :
    ofEntries entries = .error (.unknownKeys (unknownKeys entries)) := by
  rw [ofEntries, if_pos h]

theorem ofEntries_of_misfit (known : unknownKeys entries = []) {key : String}
    (h : misfit? entries = some key) : ofEntries entries = .error (.notText key) := by
  rw [ofEntries, if_neg (not_not.mpr known), h]

theorem reads_ofEntries (entries : Entries) :
    Reads entries ((ofEntries entries).mapError ConfigurationFault.message) := by
  by_cases known : unknownKeys entries = []
  · have none := unknownKeys_eq_nil_iff.mp known
    rcases hmisfit : misfit? entries with _ | key
    · obtain ⟨s, hs, holds⟩ := exists_holds known hmisfit
      rw [hs]
      exact .settings none (misfit?_eq_none_iff.mp hmisfit) holds
    · obtain ⟨before, after, split, misfit, fits⟩ := misfit?_eq_some_iff.mp hmisfit
      rw [ofEntries_of_misfit known hmisfit]
      exact .misfit none split misfit fits
  · obtain ⟨sorted, mem⟩ := unknownKeys_eq_iff.mp (rfl : unknownKeys entries = _)
    rw [ofEntries_of_unknown known]
    exact .unknown known sorted mem

theorem eq_ofEntries_of_reads {r : Except String Settings} (h : Reads entries r) :
    (ofEntries entries).mapError ConfigurationFault.message = r := by
  cases h with
  | @unknown names some sorted mem =>
    obtain rfl := unknownKeys_eq_iff.mpr ⟨sorted, mem⟩
    rw [ofEntries_of_unknown some]
    rfl
  | misfit known split misfit fits =>
    rw [ofEntries_of_misfit (unknownKeys_eq_nil_iff.mpr known)
      (misfit?_eq_some_iff.mpr ⟨_, _, split, misfit, fits⟩)]
    rfl
  | settings known fits holds =>
    obtain ⟨s, hs, holds'⟩ :=
      exists_holds (unknownKeys_eq_nil_iff.mpr known) (misfit?_eq_none_iff.mpr fits)
    -- The entries leave no choice, so these are the settings that are read.
    rw [hs, holds'.unique holds]
    rfl

theorem ofEntries_eq_iff {r : Except String Settings} :
    (ofEntries entries).mapError ConfigurationFault.message = r ↔ Reads entries r :=
  ⟨fun h ↦ h ▸ reads_ofEntries entries, eq_ofEntries_of_reads⟩

theorem exists_isUnknown_iff :
    (∃ name, IsUnknown entries name) ↔ ∃ e ∈ entries, keyOf e.1 ∉ keys := by
  constructor
  · rintro ⟨name, none, e, mem, rfl⟩
    exact ⟨e, mem, none⟩
  · rintro ⟨e, mem, none⟩
    exact ⟨keyOf e.1, none, e, mem, rfl⟩

/-- A mapping is refused for nothing but an unknown key or a text key with another value. -/
theorem Reads.exists_error_iff {r : Except String Settings} (h : Reads entries r) :
    (∃ message, r = .error message) ↔
      (∃ e ∈ entries, keyOf e.1 ∉ keys) ∨ ∃ key ∈ textKeys, IsMisfit entries key := by
  rw [← exists_isUnknown_iff]
  cases h with
  | @unknown names some sorted mem =>
    obtain ⟨name, hname⟩ := List.exists_mem_of_ne_nil names some
    exact iff_of_true ⟨_, rfl⟩ (.inl ⟨name, (mem name).mp hname⟩)
  | @misfit before after key known split misfit fits =>
    exact iff_of_true ⟨_, rfl⟩ (.inr ⟨key, by simp [split], misfit⟩)
  | settings known fits holds =>
    refine iff_of_false (by rintro ⟨message, ⟨⟩⟩) ?_
    rintro (⟨name, unknown⟩ | ⟨key, mem, misfit⟩)
    · exact known name unknown
    · exact fits key mem misfit

theorem exists_ofEntries_error_iff :
    (∃ c, ofEntries entries = .error c) ↔
      (∃ e ∈ entries, keyOf e.1 ∉ keys) ∨ ∃ key ∈ textKeys, IsMisfit entries key := by
  rw [← (reads_ofEntries entries).exists_error_iff]
  rcases ofEntries entries with c | s
  · exact iff_of_true ⟨c, rfl⟩ ⟨c.message, rfl⟩
  · exact iff_of_false (by rintro ⟨c, ⟨⟩⟩) (by rintro ⟨message, ⟨⟩⟩)

theorem ofEntries_of_perm (distinct : (entries.map fun e ↦ keyOf e.1).Nodup)
    (h : entries.Perm entries') : ofEntries entries' = ofEntries entries := by
  have given (name : String) : given? entries' name = given? entries name := by
    rw [given?_eq, given?_eq, Entries.last?_perm distinct h]
  have unknown : unknownKeys entries' = unknownKeys entries := by
    obtain ⟨sorted, mem⟩ := unknownKeys_eq_iff.mp (rfl : unknownKeys entries = _)
    refine unknownKeys_eq_iff.mpr ⟨sorted, fun name ↦ ?_⟩
    rw [mem, IsUnknown, IsUnknown]
    simp only [h.mem_iff]
  simp only [ofEntries, unknown, misfit?, textFor, given]

/-! ## Long keys

A key that is too long to be written has no text to be compared with the names of the settings: the
mapping is given up before any key is looked at. No setting is meant by such a key, since none has a
name of this length. -/

theorem length_keyOf (key : Datum) : (keyOf key).toList.length = key.display.toList.length := by
  simp [keyOf]

theorem keyOf_not_mem_of_isLong {key : Datum} (h : key.isLong = true) : keyOf key ∉ keys := by
  have short : ∀ name ∈ keys, name.toList.length ≤ digitLimit := by decide
  intro mem
  have le := short _ mem
  rw [length_keyOf] at le
  exact absurd (Datum.lt_length_display h) (not_lt.mpr le)

theorem ofDatum_of_perm (title : String) (distinct : (entries.map fun e ↦ keyOf e.1).Nodup)
    (h : entries.Perm entries') :
    ofDatum title (.mapping entries') = ofDatum title (.mapping entries) := by
  have long : (entries'.any fun e ↦ e.1.isLong) = entries.any fun e ↦ e.1.isLong := by
    rw [Bool.eq_iff_iff]
    simp only [List.any_eq_true, h.mem_iff]
  rw [ofDatum_mapping, ofDatum_mapping, long, ofEntries_of_perm distinct h]

/-- What becomes of a mapping: a long key ends it with a mishap, though no setting has its name.
Without one it is refused just for an unknown key or a text key with another value, with the message
that `Reads` says, and else gives settings that hold the last values and the defaults. Where no two
keys have the same name, their order does not matter. -/
theorem reads_mapping (title : String) (entries : Entries) :
    ((∃ e ∈ entries, e.1.isLong = true) →
      (∃ e ∈ entries, keyOf e.1 ∉ keys) ∧
        ofDatum title (.mapping entries) = .error (.mishap .longNumber)) ∧
    ((∀ e ∈ entries, e.1.isLong = false) →
      ofDatum title (.mapping entries) = (ofEntries entries).mapError .cause) ∧
    ((∃ c, ofEntries entries = .error c) ↔
      (∃ e ∈ entries, keyOf e.1 ∉ keys) ∨ ∃ key ∈ textKeys, IsMisfit entries key) ∧
    (∀ r, (ofEntries entries).mapError ConfigurationFault.message = r ↔ Reads entries r) ∧
    ∀ entries', (entries.map fun e ↦ keyOf e.1).Nodup → entries.Perm entries' →
      ofDatum title (.mapping entries') = ofDatum title (.mapping entries) := by
  refine ⟨?_, ?_, exists_ofEntries_error_iff, fun _ ↦ ofEntries_eq_iff,
    fun _ ↦ ofDatum_of_perm title⟩
  · rintro ⟨e, mem, long⟩
    have some : (entries.any fun e ↦ e.1.isLong) = true := List.any_eq_true.mpr ⟨e, mem, long⟩
    exact ⟨⟨e, mem, keyOf_not_mem_of_isLong long⟩, by rw [ofDatum_mapping, if_pos some]⟩
  · intro short
    have none : ¬(entries.any fun e ↦ e.1.isLong) = true := by simpa using short
    rw [ofDatum_mapping, if_neg none]

/-- The unknown keys are told in order, wherever they stand and whatever else is wrong. -/
theorem reads_mapping_unknown :
    ofDatum "c.yaml" (.mapping [(.int 1, .null), (.text "command", .int 5),
        (.text "shell-mode", .null)]) =
      (ofEntries [(.text "shell-mode", .null), (.int 1, .null), (.text "command", .int 5)]).mapError
        .cause ∧
    (ofEntries [(.text "shell-mode", .null), (.int 1, .null), (.text "command", .int 5)]).mapError
        ConfigurationFault.message = .error "Unknown configuration keys: 1, shell_mode" ∧
    ofDatum "c.yaml" (.mapping [(.int (10 ^ digitLimit : Nat), .null)]) =
      .error (.mishap .longNumber) := by
  obtain ⟨-, short, -, reads, perm⟩ := reads_mapping "c.yaml"
    [(.text "shell-mode", .null), (.int 1, .null), (.text "command", .int 5)]
  have names : ([(.text "shell-mode", .null), (.int 1, .null), (.text "command", .int 5)] :
      Entries).map (fun e ↦ keyOf e.1) = ["shell_mode", "1", "command"] := by decide +kernel
  have unknown (name : String) : name ∈ ["1", "shell_mode"] ↔ IsUnknown
      [(.text "shell-mode", .null), (.int 1, .null), (.text "command", .int 5)] name := by
    rw [IsUnknown, ← List.mem_map, names]
    simp only [List.mem_cons, List.not_mem_nil, or_false]
    constructor
    · rintro (rfl | rfl) <;> decide
    · rintro ⟨none, rfl | rfl | rfl⟩
      · exact .inr rfl
      · exact .inl rfl
      · exact absurd (by decide) none
  refine ⟨?_, (reads _).mpr (.unknown (List.cons_ne_nil _ _) (by decide) unknown), ?_⟩
  · rw [← short (by decide)]
    exact perm _ (names ▸ by decide) ((List.Perm.swap _ _ _).trans (.cons _ (.swap _ _ _)))
  · refine ((reads_mapping "c.yaml" _).1 ⟨_, List.mem_singleton_self _, ?_⟩).2
    exact Datum.isLong_ten_pow

/-- A long key is unknown to the settings, and yet this is not what the user is told. -/
theorem ofDatum_long_key :
    ∃ entries,
      Yaml.read (.ofBytes (String.ofList (Yaml.hexKey (List.replicate 3600 'f'))).toUTF8) =
        .ok (.mapping entries) ∧
      (∃ e ∈ entries, keyOf e.1 ∉ keys) ∧
      ¬∃ c, ofDatum "c.yaml" (.mapping entries) = .error (.cause c) := by
  obtain ⟨n, long, document⟩ := Yaml.exists_read_replicate (show digitLimit ≤ 6 * 720 by decide)
  have hlong : (Datum.int n).isLong = true := Datum.isLong_int_iff.mpr long
  refine ⟨_, document, ⟨_, List.mem_singleton_self _, keyOf_not_mem_of_isLong hlong⟩, ?_⟩
  rintro ⟨c, hc⟩
  rw [ofDatum_mapping, if_pos (by simpa using hlong)] at hc
  cases hc

end DartBlock.Settings
