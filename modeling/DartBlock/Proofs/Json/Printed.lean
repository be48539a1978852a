import DartBlock.Format
import DartBlock.Proofs.CommandLine.Report
import DartBlock.Proofs.Json.Reading

/-!
# Printed JSON

What is printed in JSON stands for the printed value. Strings are written with the escapes that the
grammar has for their characters, and arrays with their items on lines of their own, for which the
grammar allows white space. As a text stands for one value at most, the printed value can be told
from the text. Main theorem: `isText_print`.
-/

namespace DartBlock

namespace Json

/-! ## Strings -/

theorem isSymbol_escapeChar (c : Char) : IsSymbol (escapeChar c) c := by
  unfold escapeChar
  split_ifs with mark feed ret tab back form control
  · rcases mark with rfl | rfl <;> exact .short rfl
  · exact feed ▸ .short rfl
  · exact ret ▸ .short rfl
  · exact tab ▸ .short rfl
  · exact back ▸ .short rfl
  · exact form ▸ .short rfl
  · have digits := isNumeral_hexDigits 3 c.toNat
    rw [Nat.mod_eq_of_lt (by omega : c.toNat < 16 ^ (3 + 1))] at digits
    exact .unit ⟨digits, rfl⟩
  · rw [not_or] at mark
    exact .plain (by omega) mark.1 mark.2

theorem isString_flatMap_escapeChar (s : List Char) : IsString (s.flatMap escapeChar) s := by
  induction s with
  | nil => exact .nil
  | cons c s ih => exact .cons (isSymbol_escapeChar c) ih

theorem isValue_write_string (depth : Nat) (s : String) :
    IsValue (write depth (.string s)) (.string s) := by
  have value := IsValue.string (isString_flatMap_escapeChar s.toList)
  rwa [String.ofList_toList] at value

/-! ## Arrays -/

theorem isGaps_newline (depth : Nat) : IsGaps (newline depth) := by
  refine List.forall_mem_cons.mpr ⟨rfl, fun c hc ↦ ?_⟩
  rw [List.eq_of_mem_replicate hc]
  rfl

/-- Items are written one after the other, each after a line break, and a line break is written
after the last one. -/
theorem areItems_write {depth : Nat} {v : Value} {vs : List Value}
    (h : ∀ u ∈ v :: vs, IsValue (write (depth + 1) u) u) :
    AreItems (newline (depth + 1) ++ write (depth + 1) v ++ writeItems depth vs ++ newline depth)
      (v :: vs) := by
  induction vs generalizing v with
  | nil =>
    have value := h v List.mem_cons_self
    simpa [writeItems] using AreItems.one (isGaps_newline _) value (isGaps_newline _)
  | cons w vs ih =>
    obtain ⟨value, others⟩ := List.forall_mem_cons.mp h
    simpa [writeItems] using AreItems.cons (isGaps_newline _) value isGaps_nil (ih others)

theorem isValue_write_array {depth : Nat} {vs : List Value}
    (h : ∀ v ∈ vs, IsValue (write (depth + 1) v) v) :
    IsValue (write depth (.array vs)) (.array vs) := by
  cases vs with
  | nil => exact .noItems isGaps_nil
  | cons v vs => simpa [write] using IsValue.items (areItems_write h)

end Json

/-! ## Results -/

/-- Different results are different values. -/
theorem Shaped.toJson_injective : Function.Injective Shaped.toJson := by
  have row : Function.Injective fun row : List String ↦ Json.Value.array (row.map .string) :=
    fun _ _ h ↦ List.map_injective_iff.mpr (fun _ _ ↦ Json.Value.string.inj)
      (Json.Value.array.inj h)
  intro v v' h
  cases v with
  | text s =>
    cases v' with
    | text s' => exact congrArg text (Json.Value.string.inj h)
    | table rows' => cases h
  | table rows =>
    cases v' with
    | text s' => cases h
    | table rows' =>
      exact congrArg table (List.map_injective_iff.mpr row (Json.Value.array.inj h))

theorem Shaped.isValue_write (v : Shaped) : Json.IsValue (Json.write 0 v.toJson) v.toJson := by
  cases v with
  | text s => exact Json.isValue_write_string 0 s
  | table rows =>
    refine Json.isValue_write_array (List.forall_mem_map.mpr fun row _ ↦ ?_)
    refine Json.isValue_write_array (List.forall_mem_map.mpr fun cell _ ↦ ?_)
    exact Json.isValue_write_string _ cell

/-- The text of a result stands for it, whatever white space follows it. -/
theorem Shaped.isText_print_append (v : Shaped) {ending : String}
    (h : Json.IsGaps ending.toList) : Json.IsText (Format.json.print v ++ ending) v.toJson := by
  refine ⟨[], _, _, Json.isGaps_nil, v.isValue_write, h, ?_⟩
  simp [Format.print, Json.Value.text]

theorem CommandLine.stdout_run {w : Surroundings} {arguments : List String} {o : Options}
    {settings : Settings} {b : Block} {v : Shaped} (hargs : readArguments arguments = .ok (.run o))
    (hexpand : o.expand = false) (task : w.Task o settings b)
    (h : (settings.runner.execute w.site b).1.result = .ok v) :
    (run w arguments).stdout = o.format.print v ++ "\n" := by
  obtain ⟨out, err, -, hexecute⟩ := execute_of_ok o.format h
  rw [run_of_read hargs, perform_of_task task, hexpand, if_neg Bool.false_ne_true, hexecute]
  rfl

/-- **Printed JSON stands for the result.** What is printed in JSON, with a line feed behind it or
without, is a JSON text for the printed result and for nothing else, so no two results are printed
alike; and with a line feed behind it, it is all that the command line prints for a block that
succeeds. -/
theorem isText_print (v : Shaped) :
    (∀ ending ∈ ["", "\n"],
      (∀ u, Json.IsText (Format.json.print v ++ ending) u ↔ u = v.toJson) ∧
      ∀ v' : Shaped, ∀ ending' ∈ ["", "\n"],
        Format.json.print v' ++ ending' = Format.json.print v ++ ending → v' = v) ∧
    ∀ w arguments o settings b, CommandLine.readArguments arguments = .ok (.run o) →
      o.format = .json → o.expand = false → w.Task o settings b →
      (settings.runner.execute w.site b).1.result = .ok v →
      (CommandLine.run w arguments).stdout = Format.json.print v ++ "\n" := by
  have gaps : ∀ ending ∈ ["", "\n"], Json.IsGaps ending.toList := by
    simp [Json.IsGaps, Json.isSpace]
  constructor
  · intro ending hending
    have text := v.isText_print_append (gaps ending hending)
    refine ⟨fun u ↦ ⟨fun h ↦ h.unique text, fun h ↦ h ▸ text⟩, fun v' ending' hending' same ↦ ?_⟩
    have text' := v'.isText_print_append (gaps ending' hending')
    rw [same] at text'
    exact Shaped.toJson_injective (text'.unique text)
  · intro w arguments o settings b hargs hformat hexpand task h
    rw [CommandLine.stdout_run hargs hexpand task h, hformat]

/-- A table with marks, a control character and a character that takes two units among its cells,
printed for a block. -/
theorem isText_print_table :
    let v : Shaped := .table [["a\"b", "\x01\\😀"]]
    let text := "[\n  [\n    \"a\\\"b\",\n    \"\\u0001\\\\😀\"\n  ]\n]\n"
    let w : CommandLine.Surroundings := {
      read := fun _ ↦ .error .missing
      stdin := "main() {}".toUTF8
      host := { which := fun _ ↦ some "/usr/bin/dart" }
      guest := .ends "[a\"b, \x01\\😀]\n".toUTF8 .empty 0 }
    let arguments := ["-", "--format", "json"]
    let o : CommandLine.Options := { file := "-", format := .json }
    let settings : Settings := {}
    let b : Block := { snippet := "main() {}", header := .directives {} }
    CommandLine.readArguments arguments = .ok (.run o) ∧ w.Task o settings b ∧
      (settings.runner.execute w.site b).1.result = .ok v ∧
      (CommandLine.run w arguments).stdout = text ∧
      ∀ u, Json.IsText text u ↔ u = v.toJson := by
  intro v text w arguments o settings b
  have accepted : CommandLine.readArguments arguments = .ok (.run o) := rfl
  have task : w.Task o settings b := {
    source := rfl
    settings := rfl
    header := ⟨{}, rfl, rfl⟩ }
  have read : b.header.read = .ok {} := rfl
  have runs : settings.runner.Runs w.site b {} _ := {
    read
    session := rfl
    program := program_main _
    creates := ⟨rfl, rfl⟩
    stores := ⟨rfl, rfl⟩ }
  have started : .run ["/usr/bin/dart", scratchPath 0, "value"] ∈
      (settings.runner.execute w.site b).1.events :=
    Runner.run_mem_events_of_runs runs (.dart rfl read rfl) rfl
  obtain ⟨_, started, result⟩ :=
    (settings.runner.turn_execute w.site b).exists_call read started
  have whole : w.host.mishap? (.words ["/usr/bin/dart", scratchPath 0, "value"]) = none := by decide
  rw [Call.result_of_run started whole rfl] at result
  have shaped : shape [] (captured "[a\"b, \x01\\😀]\n".toUTF8).withoutFinalBreaks = v := by
    decide +kernel
  have value : (settings.runner.execute w.site b).1.result = .ok v :=
    result.trans (congrArg Except.ok shaped)
  have printed : Format.json.print v ++ "\n" = text := by decide +kernel
  obtain ⟨texts, stdout⟩ := isText_print v
  rw [printed] at stdout
  have reads := (texts "\n" (.tail _ (.head _))).1
  rw [printed] at reads
  exact ⟨accepted, task, value, stdout w arguments o settings b accepted rfl rfl task value, reads⟩

end DartBlock
