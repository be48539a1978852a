import DartBlock.Program
import DartBlock.Proofs.Text.Run
import Mathlib.Data.List.Basic

/-!
# The language of entry points

`Declaration` is the text of a declaration as it may be cut into parts, with nothing said about
how the cut is found. The scan takes every part as long as it can get; it misses nothing, since
each part is followed by a character that the part before cannot hold. `Declares` looks for a
declaration at the start of any line, and `ofSnippet_iff_declares` says that the scan and the
program that is made of a snippet follow it.
-/

namespace DartBlock

namespace EntryPoint

/-! ## Parts of a declaration -/

def IsBlanks (cs : List Char) : Prop := ∀ c ∈ cs, Text.isBlank c

/-- The optional type argument of a future. -/
inductive IsTypeArgument : List Char → Prop
  | /-- No argument. -/
    none : IsTypeArgument []
  | /-- Anything on the line up to the first closing bracket. -/
    given {gap argument : List Char} : IsBlanks gap → (∀ c ∈ argument, c ≠ '>' ∧ c ≠ '\n') →
      IsTypeArgument (gap ++ '<' :: (argument ++ ['>']))

/-- The optional return type, with the white space that sets it off. -/
inductive IsReturnType : List Char → Prop
  | /-- No return type. -/
    none : IsReturnType []
  | /-- No result. -/
    void {space : List Char} : space ≠ [] → IsBlanks space →
      IsReturnType (['v', 'o', 'i', 'd'] ++ space)
  | /-- A future, or what may be one. -/
    future {suffix argument space : List Char} : suffix = [] ∨ suffix = ['O', 'r'] →
      IsTypeArgument argument → space ≠ [] → IsBlanks space →
      IsReturnType (['F', 'u', 't', 'u', 'r', 'e'] ++ suffix ++ argument ++ space)

/-- The optional marker of an asynchronous body, with the white space after it. -/
inductive IsMarker : List Char → Prop
  | /-- No marker. -/
    none : IsMarker []
  | /-- A marker with or without a star. -/
    async {star gap : List Char} : star = [] ∨ star = ['*'] → IsBlanks gap →
      IsMarker (['a', 's', 'y', 'n', 'c'] ++ star ++ gap)

/-- The parts of a text that declares an entry point. -/
structure Declaration where
  indent : List Char
  returnType : List Char
  gapBefore : List Char
  parameters : List Char
  gapAfter : List Char
  marker : List Char
  body : List Char
  isIndent : ∀ c ∈ indent, c = ' ' ∨ c = '\t'
  isReturnType : IsReturnType returnType
  isBlanks_gapBefore : IsBlanks gapBefore
  isParameters : ∀ c ∈ parameters, c ≠ ')'
  isBlanks_gapAfter : IsBlanks gapAfter
  isMarker : IsMarker marker
  isBody : body = ['{'] ∨ body = ['=', '>']

def Declaration.text (d : Declaration) : List Char :=
  d.indent ++ d.returnType ++ ['m', 'a', 'i', 'n'] ++ d.gapBefore ++ ['('] ++ d.parameters ++
    [')'] ++ d.gapAfter ++ d.marker ++ d.body

/-- Whether a snippet has a declaration at the start of one of its lines. -/
def Declares (snippet : String) : Prop :=
  ∃ before after : List Char, ∃ d : Declaration, snippet.toList = before ++ d.text ++ after ∧
    (before = [] ∨ ∃ front, before = front ++ ['\n'])

/-! ## White space -/

theorem ne_of_isBlank {c d : Char} (h : Text.isBlank c) (hd : Text.isBlank d = false) : c ≠ d := by
  rintro rfl
  rw [h] at hd
  cases hd

theorem IsBlanks.isBlank_head {space : List Char} (h : IsBlanks space) (ne : space ≠ [])
    (cs : List Char) : ∃ c rest, space ++ cs = c :: rest ∧ Text.isBlank c := by
  obtain ⟨c, space, rfl⟩ := List.exists_cons_of_ne_nil ne
  exact ⟨c, space ++ cs, rfl, h c List.mem_cons_self⟩

theorem afterSpace?_sound {cs rest : List Char} (h : afterSpace? cs = some rest) :
    ∃ space, space ≠ [] ∧ IsBlanks space ∧ cs = space ++ rest := by
  cases cs with
  | nil => cases h
  | cons c cs =>
    rw [afterSpace?] at h
    split_ifs at h with hc
    cases h
    obtain ⟨run, hrun, hcs⟩ := Text.exists_run Text.isBlank cs
    exact ⟨c :: run, List.cons_ne_nil _ _, List.forall_mem_cons.2 ⟨hc, hrun⟩,
      congrArg (c :: ·) hcs⟩

theorem afterSpace?_append {space rest : List Char} (h : IsBlanks space) (ne : space ≠ [])
    (stop : ∀ c ∈ rest.head?, Text.isBlank c = false) :
    afterSpace? (space ++ rest) = some rest := by
  obtain ⟨c, space, rfl⟩ := List.exists_cons_of_ne_nil ne
  obtain ⟨hc, hspace⟩ := List.forall_mem_cons.1 h
  rw [List.cons_append, afterSpace?, if_pos hc, Text.dropWhile_append_of_stop hspace stop]

/-! ## The return type -/

/-- A complete argument is skipped, and nothing else is. -/
theorem afterTypeArgument_sound (cs : List Char) :
    ∃ argument, IsTypeArgument argument ∧ cs = argument ++ afterTypeArgument cs := by
  obtain ⟨gap, hgap, hcs⟩ := Text.exists_run Text.isBlank cs
  unfold afterTypeArgument
  split
  case h_1 inside start =>
    obtain ⟨argument, hargument, hinside⟩ :=
      Text.exists_run (fun c ↦ c != '>' && c != '\n') inside
    split
    case h_1 rest stop =>
      refine ⟨gap ++ '<' :: (argument ++ ['>']), .given hgap fun c hc ↦ ?_, ?_⟩
      · simpa using hargument c hc
      · rw [hcs, start, hinside, stop]
        simp
    · exact ⟨[], .none, rfl⟩
  · exact ⟨[], .none, rfl⟩

theorem afterTypeArgument_given {gap argument : List Char} (hgap : IsBlanks gap)
    (hargument : ∀ c ∈ argument, c ≠ '>' ∧ c ≠ '\n') (rest : List Char) :
    afterTypeArgument (gap ++ '<' :: (argument ++ '>' :: rest)) = rest := by
  have opens : (gap ++ '<' :: (argument ++ '>' :: rest)).dropWhile Text.isBlank =
      '<' :: (argument ++ '>' :: rest) := by
    apply Text.dropWhile_append_of_stop hgap
    rintro c ⟨⟩
    rfl
  have closes : (argument ++ '>' :: rest).dropWhile (fun c ↦ c != '>' && c != '\n') =
      '>' :: rest := by
    apply Text.dropWhile_append_of_stop
    · intro c hc
      simpa using hargument c hc
    · rintro c ⟨⟩
      rfl
  simp [afterTypeArgument, opens, closes]

theorem afterTypeArgument_append {argument rest behind : List Char} {c : Char}
    (h : IsTypeArgument argument) (start : rest.dropWhile Text.isBlank = c :: behind)
    (hc : c ≠ '<') : afterTypeArgument (argument ++ rest) = rest := by
  cases h with
  | none => simp [afterTypeArgument, start, hc]
  | given hgap hargument => simpa using afterTypeArgument_given hgap hargument rest

/-- What stands between a future and the name begins with white space or a bracket. -/
theorem IsTypeArgument.head_ne {argument space : List Char} (h : IsTypeArgument argument)
    (hspace : IsBlanks space) (ne : space ≠ []) (cs : List Char) :
    ∃ c rest, argument ++ (space ++ cs) = c :: rest ∧ c ≠ 'O' := by
  cases h with
  | none =>
    obtain ⟨c, rest, hrest, hc⟩ := hspace.isBlank_head ne cs
    exact ⟨c, rest, hrest, ne_of_isBlank hc rfl⟩
  | @given gap argument hgap _ =>
    cases gap with
    | nil => exact ⟨_, _, rfl, by decide⟩
    | cons c gap => exact ⟨_, _, rfl, ne_of_isBlank (hgap c List.mem_cons_self) rfl⟩

theorem isPrefixOf?_of_head_ne {c d : Char} (h : c ≠ d) (word cs : List Char) :
    (c :: word).isPrefixOf? (d :: cs) = none := by
  simp [List.isPrefixOf?, h]

theorem isPrefixOf?_append (word cs : List Char) : word.isPrefixOf? (word ++ cs) = some cs :=
  List.isPrefixOf?_eq_some_iff_append_eq.2 rfl

theorem afterReturnType?_sound {cs rest : List Char} (h : afterReturnType? cs = some rest) :
    ∃ returnType, IsReturnType returnType ∧ cs = returnType ++ rest := by
  unfold afterReturnType? at h
  split at h
  case h_1 behind word =>
    obtain ⟨space, ne, hspace, rfl⟩ := afterSpace?_sound h
    refine ⟨_, .void ne hspace, ?_⟩
    rw [List.append_assoc, List.isPrefixOf?_eq_some_iff_append_eq.1 word]
  case h_2 =>
    split at h
    case h_1 behind word =>
      have suffix : ∃ suffix, (suffix = [] ∨ suffix = ['O', 'r']) ∧
          behind = suffix ++ ((['O', 'r'].isPrefixOf? behind).getD behind) := by
        cases hor : ['O', 'r'].isPrefixOf? behind with
        | none => exact ⟨[], .inl rfl, rfl⟩
        | some rest =>
          exact ⟨_, .inr rfl, (List.isPrefixOf?_eq_some_iff_append_eq.1 hor).symm⟩
      obtain ⟨suffix, hsuffix, hbehind⟩ := suffix
      obtain ⟨argument, hargument, hrest⟩ := afterTypeArgument_sound
        ((['O', 'r'].isPrefixOf? behind).getD behind)
      obtain ⟨space, ne, hspace, hafter⟩ := afterSpace?_sound h
      refine ⟨_, .future hsuffix hargument ne hspace, ?_⟩
      rw [← List.isPrefixOf?_eq_some_iff_append_eq.1 word, List.append_assoc, List.append_assoc,
        List.append_assoc, ← hafter, ← hrest, ← hbehind]
    case h_2 =>
      cases h
      exact ⟨[], .none, rfl⟩

theorem afterReturnType?_future {suffix rest : List Char}
    (hsuffix : suffix = [] ∨ suffix = ['O', 'r']) (stop : ∀ c ∈ rest.head?, 'O' ≠ c) :
    afterReturnType? (['F', 'u', 't', 'u', 'r', 'e'] ++ (suffix ++ rest)) =
      afterSpace? (afterTypeArgument rest) := by
  have behind : (['O', 'r'].isPrefixOf? (suffix ++ rest)).getD (suffix ++ rest) = rest := by
    obtain rfl | rfl := hsuffix
    · have noOr : ['O', 'r'].isPrefixOf? rest = none := by
        cases rest with
        | nil => rfl
        | cons c rest => exact isPrefixOf?_of_head_ne (stop c rfl) _ _
      rw [List.nil_append, noOr, Option.getD_none]
    · rw [isPrefixOf?_append, Option.getD_some]
  rw [afterReturnType?, isPrefixOf?_append, List.cons_append, isPrefixOf?_of_head_ne (by decide)]
  simp only [behind]

/-- A return type in front of a name that begins with an `m` is skipped. -/
theorem afterReturnType?_append {returnType : List Char} (h : IsReturnType returnType)
    (cs : List Char) : afterReturnType? (returnType ++ 'm' :: cs) = some ('m' :: cs) := by
  have stop : ∀ c ∈ ('m' :: cs).head?, Text.isBlank c = false := by
    rintro c ⟨⟩
    rfl
  cases h with
  | none =>
    rw [List.nil_append, afterReturnType?, isPrefixOf?_of_head_ne (by decide),
      isPrefixOf?_of_head_ne (by decide)]
  | void ne hspace =>
    rw [List.append_assoc, afterReturnType?, isPrefixOf?_append]
    exact afterSpace?_append hspace ne stop
  | @future suffix argument space hsuffix hargument ne hspace =>
    have future : (['F', 'u', 't', 'u', 'r', 'e'] ++ suffix ++ argument ++ space) ++ 'm' :: cs =
        ['F', 'u', 't', 'u', 'r', 'e'] ++ (suffix ++ (argument ++ (space ++ 'm' :: cs))) := by
      simp only [List.append_assoc]
    -- Without the suffix, white space or a bracket comes next, and no suffix is found.
    have noOr : ∀ c ∈ (argument ++ (space ++ 'm' :: cs)).head?, 'O' ≠ c := by
      obtain ⟨c, rest, hrest, hc⟩ := hargument.head_ne hspace ne ('m' :: cs)
      rw [hrest]
      rintro d ⟨⟩
      exact hc.symm
    have argumentEnds : afterTypeArgument (argument ++ (space ++ 'm' :: cs)) =
        space ++ 'm' :: cs :=
      afterTypeArgument_append hargument (Text.dropWhile_append_of_stop hspace stop) (by decide)
    rw [future, afterReturnType?_future hsuffix noOr, argumentEnds]
    exact afterSpace?_append hspace ne stop

/-! ## Parameters, marker and body -/

theorem afterParameters?_sound {cs rest : List Char} (h : afterParameters? cs = some rest) :
    ∃ parameters, (∀ c ∈ parameters, c ≠ ')') ∧ cs = '(' :: (parameters ++ ')' :: rest) := by
  unfold afterParameters? at h
  split at h
  case h_1 cs =>
    obtain ⟨parameters, hparameters, hcs⟩ := Text.exists_run (· != ')') cs
    split at h
    case h_1 behind stop =>
      cases h
      refine ⟨parameters, fun c hc ↦ ?_, by rw [← stop, ← hcs]⟩
      simpa using hparameters c hc
    · cases h
  · cases h

theorem afterParameters?_append {parameters : List Char} (h : ∀ c ∈ parameters, c ≠ ')')
    (rest : List Char) : afterParameters? ('(' :: (parameters ++ ')' :: rest)) = some rest := by
  have closes : (parameters ++ ')' :: rest).dropWhile (· != ')') = ')' :: rest := by
    apply Text.dropWhile_append_of_stop
    · intro c hc
      simpa using h c hc
    · rintro c ⟨⟩
      rfl
  simp only [afterParameters?, closes]

theorem afterMarker_sound (cs : List Char) :
    ∃ marker, IsMarker marker ∧ cs = marker ++ afterMarker cs := by
  unfold afterMarker
  split
  case h_1 rest word =>
    obtain ⟨gap, hgap, hrest⟩ := Text.exists_run Text.isBlank rest
    refine ⟨_, .async (.inr rfl) hgap, ?_⟩
    rw [List.append_assoc, ← hrest, List.append_assoc]
    exact (List.isPrefixOf?_eq_some_iff_append_eq.1 word).symm
  case h_2 rest _ word =>
    obtain ⟨gap, hgap, hrest⟩ := Text.exists_run Text.isBlank rest
    refine ⟨_, .async (.inl rfl) hgap, ?_⟩
    rw [List.append_assoc, ← hrest, List.append_assoc]
    exact (List.isPrefixOf?_eq_some_iff_append_eq.1 word).symm
  case h_3 => exact ⟨[], .none, rfl⟩

theorem opensBody_iff {cs : List Char} :
    opensBody cs ↔ ∃ body after, (body = ['{'] ∨ body = ['=', '>']) ∧ cs = body ++ after := by
  constructor
  · intro h
    unfold opensBody at h
    split at h
    · exact ⟨_, _, .inl rfl, rfl⟩
    · exact ⟨_, _, .inr rfl, rfl⟩
    · cases h
  · rintro ⟨_, after, rfl | rfl, rfl⟩ <;> rfl

theorem afterMarker_append {marker body : List Char} (h : IsMarker marker)
    (hbody : body = ['{'] ∨ body = ['=', '>']) (after : List Char) :
    afterMarker (marker ++ (body ++ after)) = body ++ after := by
  obtain ⟨c, rest, hrest, hc, ha, hstar⟩ : ∃ c rest, body ++ after = c :: rest ∧
      Text.isBlank c = false ∧ 'a' ≠ c ∧ c ≠ '*' := by
    obtain rfl | rfl := hbody
    · exact ⟨'{', after, rfl, by decide, by decide, by decide⟩
    · exact ⟨'=', '>' :: after, rfl, by decide, by decide, by decide⟩
  have stop : ∀ d ∈ (c :: rest).head?, Text.isBlank d = false := by
    rintro d ⟨⟩
    exact hc
  rw [hrest]
  cases h with
  | none => rw [List.nil_append, afterMarker, isPrefixOf?_of_head_ne ha]
  | @async _ gap star hgap =>
    rw [List.append_assoc, List.append_assoc, afterMarker, isPrefixOf?_append]
    obtain rfl | rfl := star
    · have noStar : ∀ behind, gap ++ c :: rest ≠ '*' :: behind := by
        intro behind eq
        cases gap with
        | nil => exact hstar (List.cons.inj eq).1
        | cons d gap =>
          exact ne_of_isBlank (hgap d List.mem_cons_self) rfl (List.cons.inj eq).1
      split
      case h_1 behind star => exact absurd (Option.some.inj star) (noStar behind)
      case h_2 behind _ star =>
        rw [← Option.some.inj star]
        exact Text.dropWhile_append_of_stop hgap stop
      case h_3 none => cases none
    · exact Text.dropWhile_append_of_stop hgap stop

/-! ## Declarations -/

theorem isIndent_iff {c : Char} : isIndent c ↔ c = ' ' ∨ c = '\t' := by simp [isIndent]

/-- Neither a return type nor the name begins with an indent. -/
theorem IsReturnType.isIndent_head {returnType : List Char} (h : IsReturnType returnType)
    (cs : List Char) : ∀ c ∈ (returnType ++ 'm' :: cs).head?, isIndent c = false := by
  cases h <;> rintro c ⟨⟩ <;> rfl

/-- Neither a marker nor a body begins with a blank. -/
theorem IsMarker.isBlank_head {marker body : List Char} (h : IsMarker marker)
    (hbody : body = ['{'] ∨ body = ['=', '>']) (after : List Char) :
    ∀ c ∈ (marker ++ (body ++ after)).head?, Text.isBlank c = false := by
  cases h with
  | none => obtain rfl | rfl := hbody <;> rintro c ⟨⟩ <;> rfl
  | async _ _ =>
    rintro c ⟨⟩
    rfl

theorem startsWith_sound {cs : List Char} (h : startsWith cs) :
    ∃ (d : Declaration) (after : List Char), cs = d.text ++ after := by
  obtain ⟨indent, hindent, hcs⟩ := Text.exists_run isIndent cs
  unfold startsWith at h
  split at h
  · cases h
  case h_2 named ret =>
    obtain ⟨returnType, hreturn, hnamed⟩ := afterReturnType?_sound ret
    split at h
    · cases h
    case h_2 behind word =>
      obtain ⟨gapBefore, hbefore, hbehind⟩ := Text.exists_run Text.isBlank behind
      split at h
      · cases h
      case h_2 behind' params =>
        obtain ⟨parameters, hparameters, hopens⟩ := afterParameters?_sound params
        obtain ⟨gapAfter, hgap, hbehind'⟩ := Text.exists_run Text.isBlank behind'
        obtain ⟨marker, hmarker, hrest⟩ := afterMarker_sound (behind'.dropWhile Text.isBlank)
        obtain ⟨body, after, hbody, hafter⟩ := opensBody_iff.1 h
        refine ⟨⟨indent, returnType, gapBefore, parameters, gapAfter, marker, body,
          fun c hc ↦ isIndent_iff.1 (hindent c hc), hreturn, hbefore, hparameters, hgap, hmarker,
          hbody⟩, after, ?_⟩
        rw [hcs, hnamed, ← List.isPrefixOf?_eq_some_iff_append_eq.1 word, hbehind, hopens, hbehind',
          hrest, hafter]
        simp [Declaration.text]

theorem startsWith_text (d : Declaration) (after : List Char) : startsWith (d.text ++ after) := by
  have parts : d.text ++ after = d.indent ++ (d.returnType ++ 'm' :: (['a', 'i', 'n'] ++
      (d.gapBefore ++ '(' :: (d.parameters ++ ')' ::
        (d.gapAfter ++ (d.marker ++ (d.body ++ after))))))) := by
    simp [Declaration.text]
  -- No part can take a character of the next, so every part is skipped in full.
  have indent (cs : List Char) :
      (d.indent ++ (d.returnType ++ 'm' :: cs)).dropWhile isIndent = d.returnType ++ 'm' :: cs :=
    Text.dropWhile_append_of_stop (fun c hc ↦ isIndent_iff.2 (d.isIndent c hc))
      (d.isReturnType.isIndent_head cs)
  have before (cs : List Char) : (d.gapBefore ++ '(' :: cs).dropWhile Text.isBlank = '(' :: cs := by
    apply Text.dropWhile_append_of_stop d.isBlanks_gapBefore
    rintro c ⟨⟩
    rfl
  have behind : (d.gapAfter ++ (d.marker ++ (d.body ++ after))).dropWhile Text.isBlank =
      d.marker ++ (d.body ++ after) :=
    Text.dropWhile_append_of_stop d.isBlanks_gapAfter (d.isMarker.isBlank_head d.isBody after)
  have name (cs : List Char) : ['m', 'a', 'i', 'n'].isPrefixOf? ('m' :: (['a', 'i', 'n'] ++ cs)) =
      some cs := isPrefixOf?_append ['m', 'a', 'i', 'n'] cs
  simp only [parts, startsWith, indent, afterReturnType?_append d.isReturnType, name, before,
    afterParameters?_append d.isParameters, behind, afterMarker_append d.isMarker d.isBody]
  exact opensBody_iff.2 ⟨d.body, after, d.isBody, rfl⟩

/-- The scan of a line start finds a declaration if and only if there is one. -/
theorem startsWith_iff {cs : List Char} :
    startsWith cs ↔ ∃ (d : Declaration) (after : List Char), cs = d.text ++ after := by
  constructor
  · exact startsWith_sound
  · rintro ⟨d, after, rfl⟩
    exact startsWith_text d after

theorem followsLineFeed_iff {cs : List Char} :
    followsLineFeed cs ↔ ∃ front rest, cs = front ++ '\n' :: rest ∧ startsWith rest := by
  induction cs with
  | nil => simp [followsLineFeed]
  | cons c cs ih =>
    rw [followsLineFeed, Bool.or_eq_true, Bool.and_eq_true, beq_iff_eq, ih]
    constructor
    · rintro (⟨rfl, h⟩ | ⟨front, rest, rfl, h⟩)
      · exact ⟨[], cs, rfl, h⟩
      · exact ⟨c :: front, rest, rfl, h⟩
    · rintro ⟨front, rest, eq, h⟩
      cases front with
      | nil =>
        obtain ⟨rfl, rfl⟩ := List.cons.inj eq
        exact .inl ⟨rfl, h⟩
      | cons d front => exact .inr ⟨front, rest, (List.cons.inj eq).2, h⟩

end EntryPoint

open EntryPoint

/-- **The entry points of a snippet.**  The scan finds an entry point exactly if the snippet can
be cut into a declaration at the start of a line, with any text around it. Such a snippet stands
as it is behind the prelude, and every other is put into the wrapper. -/
theorem ofSnippet_iff_declares (snippet : String) :
    (hasEntryPoint snippet ↔ Declares snippet) ∧ ∀ settings : Settings,
      (Declares snippet → Split.ofSnippet settings snippet =
        ⟨Scaffold.identity, settings.preludeImports, snippet⟩) ∧
      (¬Declares snippet → Split.ofSnippet settings snippet =
        ⟨settings.wrapperTemplate, settings.wrapperImports, snippet⟩) := by
  have scan : hasEntryPoint snippet ↔ Declares snippet := by
    rw [hasEntryPoint, Bool.or_eq_true, followsLineFeed_iff]
    constructor
    · rintro (first | ⟨front, rest, hsnippet, later⟩)
      · obtain ⟨d, after, hsnippet⟩ := startsWith_iff.1 first
        exact ⟨[], after, d, hsnippet, .inl rfl⟩
      · obtain ⟨d, after, rfl⟩ := startsWith_iff.1 later
        exact ⟨front ++ ['\n'], after, d, by simp [hsnippet], .inr ⟨front, rfl⟩⟩
    · rintro ⟨before, after, d, hsnippet, rfl | ⟨front, rfl⟩⟩
      · exact .inl (startsWith_iff.2 ⟨d, after, hsnippet⟩)
      · exact .inr ⟨front, d.text ++ after, by simp [hsnippet], startsWith_iff.2 ⟨d, after, rfl⟩⟩
  refine ⟨scan, fun settings ↦ ⟨fun declares ↦ ?_, fun declares ↦ ?_⟩⟩
  · rw [Split.ofSnippet, if_pos (scan.2 declares)]
  · rw [Split.ofSnippet, if_neg (mt scan.1 declares)]

/-- A declaration may begin on any line and run over line ends; a call is none. -/
theorem ofSnippet_second_line :
    (Declares "var x = 1;\n  FutureOr <int> main(\n) async\n=> x;" ∧
      Split.ofSnippet {} "var x = 1;\n  FutureOr <int> main(\n) async\n=> x;" =
        ⟨Scaffold.identity, Scaffold.preludeImports,
          "var x = 1;\n  FutureOr <int> main(\n) async\n=> x;"⟩) ∧
    ¬Declares "main();\n" ∧ Split.ofSnippet {} "main();\n" =
      ⟨Scaffold.template, Scaffold.wrapperImports, "main();\n"⟩ := by
  have declared : Declares "var x = 1;\n  FutureOr <int> main(\n) async\n=> x;" :=
    (ofSnippet_iff_declares _).1.1 (by decide)
  have called : ¬Declares "main();\n" := fun h ↦
    absurd ((ofSnippet_iff_declares _).1.2 h) (by decide)
  exact ⟨⟨declared, ((ofSnippet_iff_declares _).2 {}).1 declared⟩,
    called, ((ofSnippet_iff_declares _).2 {}).2 called⟩

end DartBlock
