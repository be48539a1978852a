import DartBlock.Proofs.EntryPoint

/-!
# Entry points of a future type

An entry point may return a future of any type, and that type may have arguments of its own. The
scan takes the first closing bracket for the end of the argument, so it finds the declarations whose
argument has no brackets and goes past those whose argument has some, unless what follows that
bracket happens to look like the rest of a declaration (`ofSnippet_of_future`).
-/

namespace DartBlock

namespace EntryPoint

inductive IsBalanced : List Char → Prop
  | nil : IsBalanced []
  | other {c : Char} {cs : List Char} : c ≠ '<' → c ≠ '>' → IsBalanced cs → IsBalanced (c :: cs)
  | group {inner cs : List Char} : IsBalanced inner → IsBalanced cs →
      IsBalanced ('<' :: (inner ++ '>' :: cs))

theorem IsBalanced.append {front cs : List Char} (opening : '<' ∉ front) (closing : '>' ∉ front)
    (h : IsBalanced cs) : IsBalanced (front ++ cs) := by
  induction front with
  | nil => exact h
  | cons c front ih =>
    apply IsBalanced.other (List.ne_of_not_mem_cons opening).symm
      (List.ne_of_not_mem_cons closing).symm
    exact ih (List.not_mem_of_not_mem_cons opening) (List.not_mem_of_not_mem_cons closing)

theorem IsBalanced.mem_iff {cs : List Char} (h : IsBalanced cs) : '<' ∈ cs ↔ '>' ∈ cs := by
  induction h with
  | nil => simp
  | other opening closing _ ih => simp [opening.symm, closing.symm, ih]
  | group _ _ _ _ => simp

theorem exists_append_of_not_mem {c : Char} {front back cs rest : List Char} (h : c ∉ front)
    (heq : cs ++ c :: rest = front ++ back) : ∃ more, cs = front ++ more := by
  obtain ⟨more, hfront, hrest⟩ | ⟨more, hcs, -⟩ := List.append_eq_append_iff.mp heq
  · cases more with
    | nil => exact ⟨[], by rw [hfront, List.append_nil, List.append_nil]⟩
    | cons d more =>
      obtain ⟨rfl, -⟩ := List.cons.inj hrest
      exact absurd (hfront ▸ List.mem_append_right _ List.mem_cons_self) h
  · exact ⟨more, hcs⟩

/-- The first closing bracket on the line is taken for the end of the argument. -/
theorem afterReturnType?_closing {suffix first : List Char}
    (hsuffix : suffix = [] ∨ suffix = ['O', 'r']) (line : ∀ c ∈ first, c ≠ '>' ∧ c ≠ '\n')
    (rest : List Char) :
    afterReturnType? (['F', 'u', 't', 'u', 'r', 'e'] ++ (suffix ++ '<' :: (first ++ '>' :: rest))) =
      afterSpace? rest := by
  have stop : ∀ c ∈ ('<' :: (first ++ '>' :: rest)).head?, 'O' ≠ c := by
    rintro c ⟨⟩
    decide
  rw [afterReturnType?_future hsuffix stop]
  exact congrArg afterSpace? (afterTypeArgument_given (List.forall_mem_nil _) line rest)

/-- The parts of a text that declares an entry point of a future type. -/
structure FutureDeclaration where
  indent : List Char
  suffix : List Char
  argument : List Char
  space : List Char
  gapBefore : List Char
  parameters : List Char
  gapAfter : List Char
  marker : List Char
  body : List Char
  isIndent : ∀ c ∈ indent, c = ' ' ∨ c = '\t'
  isSuffix : suffix = [] ∨ suffix = ['O', 'r']
  isBalanced : IsBalanced argument
  isLine : '\n' ∉ argument
  space_ne_nil : space ≠ []
  isBlanks_space : IsBlanks space
  isBlanks_gapBefore : IsBlanks gapBefore
  isParameters : ∀ c ∈ parameters, c ≠ '(' ∧ c ≠ ')'
  isBlanks_gapAfter : IsBlanks gapAfter
  isMarker : IsMarker marker
  isBody : body = ['{'] ∨ body = ['=', '>']

namespace FutureDeclaration

def signature (f : FutureDeclaration) : List Char :=
  f.space ++ ['m', 'a', 'i', 'n'] ++ f.gapBefore ++ ['('] ++ f.parameters ++ [')'] ++ f.gapAfter ++
    f.marker ++ f.body

def text (f : FutureDeclaration) : List Char :=
  f.indent ++ ['F', 'u', 't', 'u', 'r', 'e'] ++ f.suffix ++ ['<'] ++ f.argument ++ ['>'] ++
    f.signature

/-- Behind the first closing bracket inside of the argument, an entry point is named and the list of
its parameters opens. -/
def NamesInside (f : FutureDeclaration) : Prop :=
  ∃ first space gap rest,
    f.argument = first ++ '>' :: (space ++ ['m', 'a', 'i', 'n'] ++ gap ++ ['('] ++ rest) ∧
      '>' ∉ first ∧ space ≠ [] ∧ IsBlanks space ∧ IsBlanks gap

variable {f : FutureDeclaration}

theorem exists_declaration (flat : '<' ∉ f.argument) : ∃ d : Declaration, f.text = d.text := by
  have closing : '>' ∉ f.argument := mt f.isBalanced.mem_iff.mpr flat
  have hargument : ∀ c ∈ f.argument, c ≠ '>' ∧ c ≠ '\n' := fun c hc ↦
    ⟨fun eq ↦ closing (eq ▸ hc), fun eq ↦ f.isLine (eq ▸ hc)⟩
  have argument : IsTypeArgument ('<' :: (f.argument ++ ['>'])) :=
    .given (List.forall_mem_nil _) hargument
  exact ⟨{
    indent := f.indent
    returnType := ['F', 'u', 't', 'u', 'r', 'e'] ++ f.suffix ++ ('<' :: (f.argument ++ ['>'])) ++
      f.space
    gapBefore := f.gapBefore
    parameters := f.parameters
    gapAfter := f.gapAfter
    marker := f.marker
    body := f.body
    isIndent := f.isIndent
    isReturnType := .future f.isSuffix argument f.space_ne_nil f.isBlanks_space
    isBlanks_gapBefore := f.isBlanks_gapBefore
    isParameters := fun c hc ↦ (f.isParameters c hc).2
    isBlanks_gapAfter := f.isBlanks_gapAfter
    isMarker := f.isMarker
    isBody := f.isBody }, by simp [text, signature, Declaration.text]⟩

/-- Behind the first closing bracket of a nested argument, the scan finds no list of parameters. -/
theorem parameters_not_found {first second rest named behind : List Char} (names : ¬f.NamesInside)
    (hargument : f.argument = first ++ '>' :: second) (hfirst : '>' ∉ first)
    (h : afterSpace? (second ++ '>' :: rest) = some named)
    (word : ['m', 'a', 'i', 'n'].isPrefixOf? named = some behind) :
    afterParameters? (behind.dropWhile Text.isBlank) = none := by
  refine Option.eq_none_iff_forall_ne_some.mpr fun body hbody ↦ names ?_
  obtain ⟨space, ne, hspace, hnamed⟩ := afterSpace?_sound h
  obtain ⟨gap, hgap, hbehind⟩ := Text.exists_run Text.isBlank behind
  obtain ⟨parameters, -, hopen⟩ := afterParameters?_sound hbody
  have noBracket (blanks : List Char) (hblanks : IsBlanks blanks) : '>' ∉ blanks := fun mem ↦
    ne_of_isBlank (hblanks _ mem) rfl rfl
  have plain : '>' ∉ space ++ ['m', 'a', 'i', 'n'] ++ gap ++ ['('] := by
    simp [noBracket space hspace, noBracket gap hgap]
  obtain ⟨more, hmore⟩ :
      ∃ more, second = space ++ ['m', 'a', 'i', 'n'] ++ gap ++ ['('] ++ more := by
    apply exists_append_of_not_mem plain
    rw [hnamed, ← List.isPrefixOf?_eq_some_iff_append_eq.mp word, hbehind, hopen]
    simp only [List.append_assoc, List.singleton_append]
    rfl
  exact ⟨first, space, gap, more, hmore ▸ hargument, hfirst, ne, hspace, hgap⟩

/-- A declaration with a nested argument is none to the scan. -/
theorem startsWith_text_of_nested (nested : '<' ∈ f.argument) (names : ¬f.NamesInside)
    (after : List Char) : startsWith (f.text ++ after) = false := by
  obtain ⟨first, second, hargument, hfirst⟩ :=
    List.eq_append_cons_of_mem (f.isBalanced.mem_iff.mp nested)
  have line : ∀ c ∈ first, c ≠ '>' ∧ c ≠ '\n' := fun c hc ↦
    ⟨fun eq ↦ hfirst (eq ▸ hc), fun eq ↦ f.isLine (eq ▸ hargument ▸ List.mem_append_left _ hc)⟩
  have parts : f.text ++ after = f.indent ++ (['F', 'u', 't', 'u', 'r', 'e'] ++ (f.suffix ++
      '<' :: (first ++ '>' :: (second ++ '>' :: (f.signature ++ after))))) := by
    simp [text, hargument]
  have indent (cs : List Char) :
      (f.indent ++ 'F' :: cs).dropWhile EntryPoint.isIndent = 'F' :: cs := by
    apply Text.dropWhile_append_of_stop fun c hc ↦ isIndent_iff.mpr (f.isIndent c hc)
    rintro c ⟨⟩
    rfl
  rw [parts, startsWith, List.cons_append, indent, ← List.cons_append,
    afterReturnType?_closing f.isSuffix line]
  cases hnamed : afterSpace? (second ++ '>' :: (f.signature ++ after)) with
  | none => rfl
  | some named =>
    dsimp only
    cases word : ['m', 'a', 'i', 'n'].isPrefixOf? named with
    | none => rfl
    | some behind =>
      dsimp only
      rw [parameters_not_found names hargument hfirst hnamed word]

end FutureDeclaration

def BeginsLine (before : List Char) : Prop := before = [] ∨ ∃ front, before = front ++ ['\n']

/-- A declaration begins at another line than the one behind some text. -/
def DeclaresElsewhere (snippet : String) (before : List Char) : Prop :=
  ∃ other after : List Char, ∃ d : Declaration, snippet.toList = other ++ d.text ++ after ∧
    BeginsLine other ∧ other ≠ before

end EntryPoint

open EntryPoint

theorem hasEntryPoint_iff {snippet : String} :
    hasEntryPoint snippet ↔
      ∃ before rest, snippet.toList = before ++ rest ∧ BeginsLine before ∧ startsWith rest := by
  rw [hasEntryPoint, Bool.or_eq_true, followsLineFeed_iff]
  constructor
  · rintro (first | ⟨front, rest, hsnippet, later⟩)
    · exact ⟨[], _, rfl, .inl rfl, first⟩
    · exact ⟨front ++ ['\n'], rest, by simp [hsnippet], .inr ⟨front, rfl⟩, later⟩
  · rintro ⟨_, rest, hsnippet, rfl | ⟨front, rfl⟩, found⟩
    · exact .inl (hsnippet ▸ found)
    · exact .inr ⟨front, rest, by simp [hsnippet], found⟩

/-- **Futures as entry points.** On a line of its own, a declaration of a future whose type argument
has no brackets is found, and the snippet stands as it is behind the prelude. If the argument has
brackets of its own, the scan takes the first closing bracket for its end and goes past the
declaration, unless another one seems to be named behind that bracket; then the snippet is put into
the wrapper if no other line of it declares an entry point. -/
theorem ofSnippet_of_future {snippet : String} {before after : List Char} {f : FutureDeclaration}
    (hsnippet : snippet.toList = before ++ f.text ++ after) (line : BeginsLine before) :
    ('<' ∉ f.argument → hasEntryPoint snippet ∧ ∀ settings : Settings,
      Split.ofSnippet settings snippet =
        ⟨Scaffold.identity, settings.preludeImports, snippet⟩) ∧
    ('<' ∈ f.argument → ¬f.NamesInside →
      (hasEntryPoint snippet ↔ DeclaresElsewhere snippet before) ∧
      ∀ settings : Settings, ¬DeclaresElsewhere snippet before →
        Split.ofSnippet settings snippet =
          ⟨settings.wrapperTemplate, settings.wrapperImports, snippet⟩) := by
  rw [List.append_assoc] at hsnippet
  refine ⟨fun flat ↦ ?_, fun nested names ↦ ?_⟩
  · obtain ⟨d, hd⟩ := f.exists_declaration flat
    have found : hasEntryPoint snippet :=
      hasEntryPoint_iff.mpr ⟨before, _, hsnippet, line, hd ▸ startsWith_text d after⟩
    exact ⟨found, fun settings ↦ if_pos found⟩
  · have scan : hasEntryPoint snippet ↔ DeclaresElsewhere snippet before := by
      rw [hasEntryPoint_iff]
      constructor
      · rintro ⟨other, rest, hother, begins, found⟩
        obtain ⟨d, behind, rfl⟩ := startsWith_iff.mp found
        refine ⟨other, behind, d, by rw [hother, List.append_assoc], begins, ?_⟩
        rintro rfl
        -- At its own line the future is not found.
        rw [← List.append_cancel_left (hsnippet.symm.trans hother),
          f.startsWith_text_of_nested nested names] at found
        cases found
      · rintro ⟨other, behind, d, hother, begins, -⟩
        exact ⟨other, _, by rw [hother, List.append_assoc], begins, startsWith_text d behind⟩
    exact ⟨scan, fun settings none ↦ if_neg (mt scan.mp none)⟩

def listFuture : FutureDeclaration where
  indent := []
  suffix := []
  argument := ['L', 'i', 's', 't'] ++ '<' :: (['i', 'n', 't'] ++ [] ++ '>' :: [])
  space := [' ']
  gapBefore := []
  parameters := []
  gapAfter := [' ']
  marker := ['a', 's', 'y', 'n', 'c'] ++ [] ++ [' ']
  body := ['{']
  isIndent := List.forall_mem_nil _
  isSuffix := .inl rfl
  isBalanced :=
    .append (by decide) (by decide) (.group (.append (by decide) (by decide) .nil) .nil)
  isLine := by decide
  space_ne_nil := by decide
  isBlanks_space := by simp [IsBlanks, Text.isBlank, Text.isGap]
  isBlanks_gapBefore := List.forall_mem_nil _
  isParameters := List.forall_mem_nil _
  isBlanks_gapAfter := by simp [IsBlanks, Text.isBlank, Text.isGap]
  isMarker := .async (.inl rfl) (by simp [IsBlanks, Text.isBlank, Text.isGap])
  isBody := .inl rfl

/-- Behind a comment, a future of a list is not found, and the snippet is wrapped. -/
theorem ofSnippet_of_future_list :
    let snippet := "// main\nFuture<List<int>> main() async \x7b\x7d"
    let before := "// main\n".toList
    snippet.toList = before ++ listFuture.text ++ ['}'] ∧ BeginsLine before ∧
      '<' ∈ listFuture.argument ∧ ¬listFuture.NamesInside ∧ ¬DeclaresElsewhere snippet before ∧
      Split.ofSnippet {} snippet = ⟨Scaffold.template, Scaffold.wrapperImports, snippet⟩ := by
  intro snippet before
  have hsnippet : snippet.toList = before ++ listFuture.text ++ ['}'] := by decide
  have line : BeginsLine before := .inr ⟨"// main".toList, rfl⟩
  have nested : '<' ∈ listFuture.argument := by decide
  have names : ¬listFuture.NamesInside := by
    rintro ⟨first, space, gap, rest, hargument, hfirst, -⟩
    have other (c : Char) (hc : c ∈ first) : (c != '>') = true :=
      bne_iff_ne.mpr (ne_of_mem_of_not_mem hc hfirst)
    have skipped := congrArg (List.dropWhile (· != '>')) hargument
    rw [Text.dropWhile_append_of_stop other (by simp)] at skipped
    simp [listFuture] at skipped
  obtain ⟨scan, wrapped⟩ := (ofSnippet_of_future hsnippet line).2 nested names
  have elsewhere : ¬DeclaresElsewhere snippet before := by
    rw [← scan]
    decide
  exact ⟨hsnippet, line, nested, names, elsewhere, wrapped {} elsewhere⟩

/-- A snippet that declares an entry point is put into the wrapper, where nothing calls it. -/
theorem ofSnippet_misses_list_future :
    let snippet := "Future<List<int>> main() async \x7b\n  return [1];\n\x7d\n"
    (∃ (f : FutureDeclaration) (before after : List Char),
      snippet.toList = before ++ f.text ++ after ∧ BeginsLine before) ∧
    hasEntryPoint snippet = false ∧
    Split.ofSnippet {} snippet = ⟨Scaffold.template, Scaffold.wrapperImports, snippet⟩ := by
  intro snippet
  have missed : hasEntryPoint snippet = false := by decide
  refine ⟨⟨listFuture, [], "\n  return [1];\n\x7d\n".toList, by decide, .inl rfl⟩, missed, ?_⟩
  rw [Split.ofSnippet, missed]
  rfl

end DartBlock
