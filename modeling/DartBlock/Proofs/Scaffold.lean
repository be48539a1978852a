import DartBlock.Proofs.EntryPoint
import DartBlock.Proofs.Runner.Expansion
import DartBlock.Proofs.Template

/-!
# The entry point of an expanded program

The scaffold declares an entry point on a line of its own, whatever snippet it is filled with, and
an entry point that a snippet brings is not lost behind a prelude of whole lines. So every program
that a snippet expands to declares one (`hasEntryPoint_program`), and expanding it again finds it
there (`expand_expand`).
-/

namespace DartBlock

namespace EntryPoint

theorem startsWith_append {cs : List Char} (h : startsWith cs) (rest : List Char) :
    startsWith (cs ++ rest) := by
  obtain ⟨d, after, rfl⟩ := startsWith_iff.mp h
  rw [List.append_assoc]
  exact startsWith_text d (after ++ rest)

theorem followsLineFeed_append {cs : List Char} (h : followsLineFeed cs) (front : List Char) :
    followsLineFeed (front ++ cs) := by
  obtain ⟨before, rest, rfl, hrest⟩ := followsLineFeed_iff.mp h
  exact followsLineFeed_iff.mpr ⟨front ++ before, rest, (List.append_assoc ..).symm, hrest⟩

end EntryPoint

open EntryPoint

/-- A declaration on a line of its own is found, whatever stands before and after it. -/
theorem hasEntryPoint_of_line {line : String} (h : startsWith line.toList) (front rest : String) :
    hasEntryPoint (front ++ "\n" ++ line ++ rest) := by
  have later : followsLineFeed (front ++ "\n" ++ line ++ rest).toList :=
    followsLineFeed_iff.mpr ⟨front.toList, line.toList ++ rest.toList, by simp,
      startsWith_append h _⟩
  rw [hasEntryPoint, later, Bool.or_true]

/-- An entry point is found behind whole lines of text. -/
theorem hasEntryPoint_append {front snippet : String}
    (hfront : front = "" ∨ ∃ lines, front = lines ++ "\n") (h : hasEntryPoint snippet) :
    hasEntryPoint (front ++ snippet) := by
  obtain rfl | ⟨lines, rfl⟩ := hfront
  · rwa [String.empty_append]
  · rw [hasEntryPoint, Bool.or_eq_true] at h
    rcases h with first | later
    · simpa using hasEntryPoint_of_line first lines ""
    · rw [hasEntryPoint, String.toList_append, followsLineFeed_append later, Bool.or_true]

/-! ## The scaffold -/

namespace Scaffold

open Template

/-- The line that declares the entry point of the scaffold, up to the marker. -/
def mainLine : String := "Future<void> main(List<String> args) "

theorem startsWith_mainLine : startsWith (mainLine ++ "async \x7b").toList := by decide

set_option maxRecDepth 2000 in
theorem exists_dispatcher_eq : ∃ rest, dispatcher = mainLine ++ ("%a \x7b" ++ rest) := by
  -- The texts are compared as lists of characters, which need not be decoded.
  have chars : ∃ rest,
      dispatcher = .ofList (mainLine.toList ++ '%' :: 'a' :: ' ' :: '{' :: rest) := ⟨_, rfl⟩
  obtain ⟨rest, heq⟩ := chars
  exact ⟨.ofList rest, by rw [heq, ← String.toList_inj]; simp⟩

theorem fill_marker (table : Slot → String) (rest : String) :
    fill table ("%a \x7b" ++ rest) = table .asyncMarker ++ " \x7b" ++ fill table rest := by
  have reading : read ('%' :: 'a' :: ' ' :: '{' :: rest.toList) =
      .slot .asyncMarker :: .char ' ' :: .char '{' :: read rest.toList := rfl
  simp [← String.toList_inj, toList_fill, reading]

theorem hasBody_template : hasBody template = true := by
  have inside : hasBody blockClass = true := by decide
  have cut : template = blockClass ++ "\n" ++ (runners ++ "\n" ++ dispatcher) := by
    simp only [template, String.append_assoc]
  rw [cut, hasBody_line, inside, Bool.true_or]

/-- The entry point stands on a line of its own, behind the snippet. -/
theorem exists_fill_template (table : Slot → String) :
    ∃ front rest, fill table template =
      front ++ "\n" ++ (mainLine ++ (table .asyncMarker ++ " \x7b")) ++ rest := by
  obtain ⟨rest, heq⟩ := exists_dispatcher_eq
  have plain : ∀ c ∈ mainLine.toList, c ≠ '%' := by
    have all : mainLine.toList.all (· != '%') = true := by decide
    simpa using all
  have last : ∀ c ∈ mainLine.toList.getLast?, c ≠ '%' := fun c hc ↦
    plain c (List.mem_of_getLast? hc)
  refine ⟨fill table (blockClass ++ "\n" ++ runners), fill table rest, ?_⟩
  rw [template, fill_line, heq, fill_append table last, fill_of_forall_ne table plain, fill_marker]
  simp only [String.append_assoc]

end Scaffold

/-! ## Programs -/

/-- Every snippet has a program behind the prelude or in the scaffold, and it has an entry point. -/
theorem hasEntryPoint_program {settings : Settings}
    (htemplate : settings.wrapperTemplate = Scaffold.template)
    (hmarker : settings.asyncMarker = "async")
    (hprelude : settings.preludeImports = "" ∨ ∃ lines, settings.preludeImports = lines ++ "\n")
    (snippet : String) :
    ∃ text, program settings snippet = .ok text ∧ hasEntryPoint text := by
  by_cases own : hasEntryPoint snippet = true
  · exact ⟨_, program_of_entryPoint settings own, hasEntryPoint_append hprelude own⟩
  · obtain ⟨front, rest, hfill⟩ :=
      Scaffold.exists_fill_template (Template.slots settings snippet)
    refine ⟨_, ?_, hasEntryPoint_of_line Scaffold.startsWith_mainLine
      (settings.wrapperImports ++ front) rest⟩
    rw [program_of_body settings (Bool.not_eq_true _ ▸ own), htemplate,
      if_pos Scaffold.hasBody_template, hfill, Template.slots, hmarker]
    simp only [String.append_assoc]
    rfl

namespace Runner

/-- **An expanded program is complete.** Where the wrapper is the scaffold with its own marker and
the prelude is empty or ends with its line, every snippet can be expanded, whatever is imported for
a wrapped one; what it expands to declares an entry point; and so it is never wrapped again:
expanding it puts the prelude in front, and nothing more. -/
theorem expand_expand (r : Runner) (htemplate : r.settings.wrapperTemplate = Scaffold.template)
    (hmarker : r.settings.asyncMarker = "async")
    (hprelude : r.settings.preludeImports = "" ∨
      ∃ lines, r.settings.preludeImports = lines ++ "\n")
    {h h' : Header} {d d' : Directives} (hd : h.read = .ok d) (hd' : h'.read = .ok d')
    (snippet : String) :
    ∃ text, (r.expand ⟨snippet, h⟩).1.result = .ok text ∧ hasEntryPoint text ∧
      (r.expand ⟨text, h'⟩).1.result = .ok (r.settings.preludeImports ++ text) := by
  obtain ⟨text, hprogram, complete⟩ := hasEntryPoint_program htemplate hmarker hprelude snippet
  refine ⟨text, ?_, complete, ?_⟩
  · rw [result_expand_of_read hd, hprogram]
    rfl
  · rw [result_expand_of_read hd', program_of_entryPoint r.settings complete]
    rfl

/-- A snippet that looks like a declaration cut short is wrapped once, also where nothing is put in
front of it. -/
theorem expand_expand_cut_short :
    let r : Runner := { settings := { preludeImports := "", wrapperImports := "// %s" } }
    let snippet := "void main(\x7b%s) \x7b"
    ∃ text, (r.expand ⟨snippet, .absent⟩).1.result = .ok text ∧ hasEntryPoint text ∧
      (r.expand ⟨text, .absent⟩).1.result = .ok text := by
  intro r snippet
  have read : Header.absent.read = .ok {} := rfl
  obtain ⟨text, once, complete, twice⟩ :=
    expand_expand r rfl rfl (.inl rfl) read read snippet
  exact ⟨text, once, complete, by rw [twice]; exact congrArg _ String.empty_append⟩

end Runner

end DartBlock
