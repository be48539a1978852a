import DartBlock.Proofs.CommandLine.Reading
import DartBlock.Proofs.EntryPoint
import DartBlock.Proofs.Text.LineBreak

/-!
# Entry points and line breaks

The scan does not look at how the lines of a snippet end. With every line feed written as a pair,
each step of the scan leaves the same text behind as before, written in the same way: a carriage
return is white space like the line feed it stands before, and a type argument, which ends no later
than its line, is left by neither. So the scan comes to the same verdict (`startsWith_pairBreaks`,
`followsLineFeed_pairBreaks`).
-/

namespace DartBlock

namespace EntryPoint

open Text (pairBreaks pairBreaks_feed pairBreaks_other dropWhile_pairBreaks)

/-! ## Steps of the scan

Every step looks for words and skips runs of characters. -/

theorem isPrefixOf?_eq_none {word cs : List Char} (h : ∀ rest, cs = word ++ rest → False) :
    word.isPrefixOf? cs = none := by
  refine Option.eq_none_iff_forall_ne_some.mpr fun rest hrest ↦ h rest ?_
  exact (List.isPrefixOf?_eq_some_iff_append_eq.mp hrest).symm

def afterBracket? (cs : List Char) : Option (List Char) :=
  ['>'].isPrefixOf? (cs.dropWhile fun c ↦ c != '>' && c != '\n')

theorem afterTypeArgument_eq (cs : List Char) :
    afterTypeArgument cs =
      ((['<'].isPrefixOf? (cs.dropWhile Text.isBlank)).bind afterBracket?).getD cs := by
  unfold afterTypeArgument
  split
  case h_1 inside start =>
    rw [start]
    change _ = (afterBracket? inside).getD cs
    unfold afterBracket?
    split
    case h_1 rest stop =>
      rw [stop]
      rfl
    case h_2 noBracket =>
      rw [isPrefixOf?_eq_none noBracket]
      rfl
  case h_2 none =>
    rw [isPrefixOf?_eq_none none]
    rfl

theorem afterParameters?_eq (cs : List Char) :
    afterParameters? cs =
      (['('].isPrefixOf? cs).bind fun inside ↦ [')'].isPrefixOf? (inside.dropWhile (· != ')')) := by
  unfold afterParameters?
  split
  case h_1 inside =>
    change _ = [')'].isPrefixOf? (inside.dropWhile (· != ')'))
    split
    case h_1 rest stop =>
      rw [stop]
      rfl
    case h_2 noBracket => rw [isPrefixOf?_eq_none noBracket]
  case h_2 none =>
    rw [isPrefixOf?_eq_none none]
    rfl

theorem afterMarker_eq (cs : List Char) :
    afterMarker cs = ((['a', 's', 'y', 'n', 'c'].isPrefixOf? cs).map fun rest ↦
      ((['*'].isPrefixOf? rest).getD rest).dropWhile Text.isBlank).getD cs := by
  unfold afterMarker
  split
  case h_1 rest word =>
    rw [word]
    rfl
  case h_2 rest noStar word =>
    rw [word, Option.map_some, isPrefixOf?_eq_none noStar]
    rfl
  case h_3 word =>
    rw [word]
    rfl

theorem opensBody_eq (cs : List Char) :
    opensBody cs =
      ((['{'].isPrefixOf? cs).isSome || (['=', '>'].isPrefixOf? cs).isSome) := by
  unfold opensBody
  split
  case h_1 | h_2 => rfl
  case h_3 brace arrow =>
    rw [isPrefixOf?_eq_none brace, isPrefixOf?_eq_none arrow]
    rfl

/-! ## Pairs of breaks -/

/-- A word without line ends is found in both texts or in neither. -/
theorem isPrefixOf?_pairBreaks {word : List Char} (line : word.all fun c ↦ !Text.isBreak c)
    (cs : List Char) : word.isPrefixOf? (pairBreaks cs) = (word.isPrefixOf? cs).map pairBreaks := by
  induction word generalizing cs with
  | nil => rfl
  | cons d word ih =>
    obtain ⟨hd, line⟩ := Bool.and_eq_true_iff.mp line
    have noBreak : ∀ b, Text.isBreak b → d ≠ b := by
      rintro b hb rfl
      exact absurd hb (by simpa using hd)
    cases cs with
    | nil => rfl
    | cons c cs =>
      by_cases hc : c = '\n'
      · subst hc
        rw [pairBreaks_feed, isPrefixOf?_of_head_ne (noBreak _ rfl),
          isPrefixOf?_of_head_ne (noBreak _ rfl)]
        rfl
      · rw [pairBreaks_other hc, List.isPrefixOf?, List.isPrefixOf?]
        split
        · exact ih line cs
        · rfl

theorem dropWhile_isBlank_pairBreaks (cs : List Char) :
    (pairBreaks cs).dropWhile Text.isBlank = pairBreaks (cs.dropWhile Text.isBlank) :=
  dropWhile_pairBreaks rfl cs

theorem afterSpace?_pairBreaks (cs : List Char) :
    afterSpace? (pairBreaks cs) = (afterSpace? cs).map pairBreaks := by
  cases cs with
  | nil => rfl
  | cons c cs =>
    by_cases hc : c = '\n'
    · subst hc
      exact congrArg some (dropWhile_isBlank_pairBreaks cs)
    · rw [pairBreaks_other hc, afterSpace?, afterSpace?, dropWhile_isBlank_pairBreaks]
      split <;> rfl

/-- A type argument ends on its line or not at all, however the line ends. -/
theorem afterBracket?_pairBreaks (cs : List Char) :
    afterBracket? (pairBreaks cs) = (afterBracket? cs).map pairBreaks := by
  have skip {c : Char} (close : c ≠ '>') (feed : c ≠ '\n') (cs : List Char) :
      afterBracket? (c :: cs) = afterBracket? cs := by
    rw [afterBracket?, List.dropWhile_cons_of_pos (by simp [close, feed]), afterBracket?]
  induction cs with
  | nil => rfl
  | cons c cs ih =>
    by_cases feed : c = '\n'
    · subst feed
      rfl
    · rw [pairBreaks_other feed]
      by_cases close : c = '>'
      · subst close
        rfl
      · rw [skip close feed, skip close feed, ih]

theorem afterTypeArgument_pairBreaks (cs : List Char) :
    afterTypeArgument (pairBreaks cs) = pairBreaks (afterTypeArgument cs) := by
  rw [afterTypeArgument_eq, afterTypeArgument_eq, dropWhile_isBlank_pairBreaks,
    isPrefixOf?_pairBreaks rfl]
  cases ['<'].isPrefixOf? (cs.dropWhile Text.isBlank) with
  | none => rfl
  | some inside =>
    rw [Option.map_some, Option.bind_some, Option.bind_some, afterBracket?_pairBreaks,
      Option.getD_map]

theorem afterReturnType?_pairBreaks (cs : List Char) :
    afterReturnType? (pairBreaks cs) = (afterReturnType? cs).map pairBreaks := by
  rw [afterReturnType?, afterReturnType?, isPrefixOf?_pairBreaks rfl, isPrefixOf?_pairBreaks rfl]
  cases ['v', 'o', 'i', 'd'].isPrefixOf? cs with
  | some rest => exact afterSpace?_pairBreaks rest
  | none =>
    cases ['F', 'u', 't', 'u', 'r', 'e'].isPrefixOf? cs with
    | none => rfl
    | some rest =>
      simp only [Option.map_none, Option.map_some]
      rw [isPrefixOf?_pairBreaks rfl, Option.getD_map, afterTypeArgument_pairBreaks,
        afterSpace?_pairBreaks]

theorem afterParameters?_pairBreaks (cs : List Char) :
    afterParameters? (pairBreaks cs) = (afterParameters? cs).map pairBreaks := by
  rw [afterParameters?_eq, afterParameters?_eq, isPrefixOf?_pairBreaks rfl]
  cases ['('].isPrefixOf? cs with
  | none => rfl
  | some inside =>
    rw [Option.map_some, Option.bind_some, Option.bind_some, dropWhile_pairBreaks rfl,
      isPrefixOf?_pairBreaks rfl]

theorem afterMarker_pairBreaks (cs : List Char) :
    afterMarker (pairBreaks cs) = pairBreaks (afterMarker cs) := by
  rw [afterMarker_eq, afterMarker_eq, isPrefixOf?_pairBreaks rfl]
  cases ['a', 's', 'y', 'n', 'c'].isPrefixOf? cs with
  | none => rfl
  | some rest =>
    simp only [Option.map_some, Option.getD_some]
    rw [isPrefixOf?_pairBreaks rfl, Option.getD_map, dropWhile_isBlank_pairBreaks]

theorem opensBody_pairBreaks (cs : List Char) : opensBody (pairBreaks cs) = opensBody cs := by
  rw [opensBody_eq, opensBody_eq, isPrefixOf?_pairBreaks rfl, isPrefixOf?_pairBreaks rfl,
    Option.isSome_map, Option.isSome_map]

/-! ## The scan -/

theorem startsWith_pairBreaks (cs : List Char) : startsWith (pairBreaks cs) = startsWith cs := by
  rw [startsWith, startsWith, dropWhile_pairBreaks rfl, afterReturnType?_pairBreaks]
  cases afterReturnType? (cs.dropWhile isIndent) with
  | none => rfl
  | some named =>
    simp only [Option.map_some]
    rw [isPrefixOf?_pairBreaks rfl]
    cases ['m', 'a', 'i', 'n'].isPrefixOf? named with
    | none => rfl
    | some behind =>
      simp only [Option.map_some]
      rw [dropWhile_isBlank_pairBreaks, afterParameters?_pairBreaks]
      cases afterParameters? (behind.dropWhile Text.isBlank) with
      | none => rfl
      | some rest =>
        simp only [Option.map_some]
        rw [dropWhile_isBlank_pairBreaks, afterMarker_pairBreaks, opensBody_pairBreaks]

theorem followsLineFeed_pairBreaks (cs : List Char) :
    followsLineFeed (pairBreaks cs) = followsLineFeed cs := by
  induction cs with
  | nil => rfl
  | cons c cs ih =>
    by_cases feed : c = '\n'
    · subst feed
      rw [pairBreaks_feed, followsLineFeed, followsLineFeed, followsLineFeed, ih,
        startsWith_pairBreaks]
      rfl
    · have other : (c == '\n') = false := by simp [feed]
      rw [pairBreaks_other feed, followsLineFeed, followsLineFeed, ih, other, Bool.false_and,
        Bool.false_and]

end EntryPoint

open EntryPoint CommandLine

/-- **Line ends do not matter.** A snippet with its line feeds written as pairs has an entry point
if and only if it has one as it is, and a program of the same parts is made of it. If there are no
other carriage returns in it, then the command line that finds it so written reads it as it is; so
what is run does not depend on how the snippet comes in. -/
theorem ofSnippet_withPairedBreaks (snippet : String) :
    hasEntryPoint snippet.withPairedBreaks = hasEntryPoint snippet ∧
    (∀ settings, Split.ofSnippet settings snippet.withPairedBreaks =
      { Split.ofSnippet settings snippet with main := snippet.withPairedBreaks }) ∧
    ('\r' ∉ snippet.toList → ∀ (w : Surroundings) (file : String),
      w.Holds file snippet.withPairedBreaks → w.source file = .ok snippet) := by
  have chars : snippet.withPairedBreaks.toList = Text.pairBreaks snippet.toList :=
    String.toList_ofList
  have same : hasEntryPoint snippet.withPairedBreaks = hasEntryPoint snippet := by
    rw [hasEntryPoint, chars, startsWith_pairBreaks, followsLineFeed_pairBreaks, hasEntryPoint]
  refine ⟨same, fun settings ↦ ?_, fun noReturn w file holds ↦ ?_⟩
  · rw [Split.ofSnippet, Split.ofSnippet, same]
    split <;> rfl
  · rw [holds.source_eq, String.withLineFeeds, chars, Text.unifyBreaks_pairBreaks noReturn,
      String.ofList_toList]

/-- Every gap of a declaration runs over a line end. -/
theorem ofSnippet_withPairedBreaks_gaps :
    let snippet := "x;\n\tFutureOr\n<int>\nmain\n(\n)\nasync\n=> x;\n"
    let w : Surroundings := {
      read := fun _ ↦ .ok snippet.withPairedBreaks.toUTF8
      stdin := .empty
      host := { which := fun _ ↦ none }
      guest := .unstartable "" }
    '\r' ∉ snippet.toList ∧ w.Holds "x.dart" snippet.withPairedBreaks ∧
      w.source "x.dart" = .ok snippet ∧ hasEntryPoint snippet.withPairedBreaks = true := by
  intro snippet w
  have noReturn : '\r' ∉ snippet.toList := by decide
  have holds : w.Holds "x.dart" snippet.withPairedBreaks := .file (by decide) ⟨by decide, rfl⟩
  obtain ⟨same, -, reads⟩ := ofSnippet_withPairedBreaks snippet
  have declared : hasEntryPoint snippet = true := by decide
  exact ⟨noReturn, holds, reads noReturn w _ holds, same.trans declared⟩

end DartBlock
