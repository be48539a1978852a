import DartBlock.Proofs.Text.LineBreak
import DartBlock.Proofs.Text.Utf8
import DartBlock.Yaml.Value
import Mathlib.Data.List.TakeWhile

/-!
# Hexadecimal keys

A key with a mark of its own may be of any length, and so may a hexadecimal number. A document that
is just such a key is read as a mapping with that number in it (`read_hexKey`), however long it is;
so there are documents whose keys cannot be written as decimal numbers (`exists_read_replicate`).
-/

namespace DartBlock.Yaml

theorem run_bind_of_ok {σ ε α β : Type} {x : StateT σ (Except ε) α} {s s' : σ} {a : α}
    (h : x.run s = .ok (a, s')) (k : α → StateT σ (Except ε) β) :
    (x >>= k).run s = (k a).run s' := by
  rw [StateT.run_bind, h]
  rfl

/-! ## Sound places

Where nothing is met behind a text, looking ahead does not fail. -/

namespace Scan

variable {c : Cursor}

theorem run_need (sound : c.trouble = none) (n : Nat) : (need n).run c = .ok ((), c) := by
  unfold need
  rw [run_bind_of_ok (StateT.run_get c), sound]
  rfl

theorem run_peekAt (sound : c.trouble = none) (n : Nat) :
    (peekAt n).run c = .ok ((c.rest.drop n).headD '\x00', c) := by
  unfold peekAt
  rw [run_bind_of_ok (run_need sound _)]
  rfl

theorem run_pass (sound : c.trouble = none) (n : Nat) : (pass n).run c = .ok ((), c.skip n) := by
  unfold pass
  rw [run_bind_of_ok (run_need sound _)]
  rfl

end Scan

/-! ## Words on a line of their own -/

/-- A character that goes on with a plain scalar, whatever comes after it. -/
structure IsInner (c : Char) : Prop where
  endsWord : endsWord c = false
  ne_colon : c ≠ ':'
  ne_mark : c ≠ '\uFEFF'

theorem IsInner.isBreak {c : Char} (h : IsInner c) : isBreak c = false := by
  have ends := h.endsWord
  simp only [Yaml.endsWord, endsPart, endsLine, Bool.or_eq_false_iff] at ends
  exact ends.2.2.2

variable {word : List Char}

/-- Such characters are skipped along their line. -/
theorem Cursor.skip_length (h : ∀ d ∈ word, IsInner d) {c : Cursor} {rest : List Char}
    (hrest : c.rest = word ++ rest) :
    c.skip word.length = { c with
      rest
      index := c.index + word.length
      column := c.column + word.length } := by
  induction word generalizing c with
  | nil => rw [← List.nil_append rest, ← hrest]; rfl
  | cons d word ih =>
    have inner := h d List.mem_cons_self
    have next : c.next = { c with
        rest := word ++ rest
        index := c.index + 1
        column := c.column + 1 } := by
      rw [next, hrest, List.cons_append]
      simp [inner.isBreak, inner.ne_mark]
    rw [List.length_cons, skip, next, ih (fun e he ↦ h e (List.mem_cons_of_mem _ he)) rfl]
    simp only [Nat.add_assoc, Nat.add_comm 1]

namespace Scalar

theorem plainRun_append (h : ∀ d ∈ word, IsInner d) (rest : List Char) :
    plainRun false (word ++ '\n' :: rest) = word := by
  induction word with
  | nil => rfl
  | cons d word ih =>
    have inner := h d List.mem_cons_self
    rw [List.cons_append, plainRun, ih fun e he ↦ h e (List.mem_cons_of_mem _ he)]
    simp [inner.endsWord, inner.ne_colon]

/-- A word is read up to the end of its line. -/
theorem run_plainWord (h : ∀ d ∈ word, IsInner d) (first : word.headD '\n' ≠ '#') {c : Cursor}
    (sound : c.trouble = none) {rest : List Char} (hrest : c.rest = word ++ '\n' :: rest) :
    (plainWord false).run c = .ok (word, c.skip word.length) := by
  have head : (c.rest.drop 0).headD '\x00' ≠ '#' := by
    rw [hrest]
    cases word <;> exact first
  have after : (c.rest.drop word.length).headD '\x00' ≠ ':' := by simp [hrest]
  have peeked : Scan.peek.run c = _ := Scan.run_peekAt sound 0
  unfold plainWord
  rw [run_bind_of_ok peeked, if_neg head, run_bind_of_ok (StateT.run_get c), hrest,
    plainRun_append h]
  dsimp only
  rw [run_bind_of_ok (Scan.run_peekAt sound _), if_neg after,
    run_bind_of_ok (Scan.run_pass sound _)]
  rfl

theorem run_plain (h : ∀ d ∈ word, IsInner d) (ne : word ≠ []) (first : word.headD '\n' ≠ '#')
    (least : Nat) {c : Cursor} (sound : c.trouble = none) (hrest : c.rest = word ++ ['\n']) :
    (plain false (least + 1)).run c = .ok ((word, true), { c with
      rest := []
      index := c.index + word.length + 1
      line := c.line + 1
      column := 0 }) := by
  unfold plain
  rw [run_bind_of_ok (StateT.run_get c)]
  unfold plainParts Cursor.fuel
  dsimp only
  rw [run_bind_of_ok (run_plainWord h first sound hrest), Cursor.skip_length h hrest]
  obtain ⟨rest, trouble, length, index, line, column⟩ := c
  obtain rfl : trouble = none := sound
  obtain ⟨d, word, rfl⟩ := List.exists_cons_of_ne_nil ne
  cases length <;> rfl

end Scalar

/-! ## Hexadecimal numbers -/

def hexNumeral (digits : List Char) : List Char := '0' :: 'x' :: digits

variable {digits : List Char}

/-- A hexadecimal digit is none of the characters that end a plain scalar. -/
theorem isInner_of_isHex {c : Char} (h : Plain.isHex c = true) : IsInner c := by
  have ne (d : Char) (hd : Plain.isHex d = false) : c ≠ d := by
    rintro rfl
    exact Bool.false_ne_true (hd.symm.trans h)
  refine ⟨?_, ne ':' (by decide), ne '\uFEFF' (by decide)⟩
  simp [endsWord, endsPart, endsLine, isBreak, ne '\t' (by decide), ne ' ' (by decide),
    ne '\x00' (by decide), ne '\n' (by decide), ne '\u0085' (by decide), ne '\u2028' (by decide),
    ne '\u2029' (by decide)]

theorem isInner_hexNumeral (h : ∀ d ∈ digits, Plain.isHex d = true) :
    ∀ d ∈ hexNumeral digits, IsInner d := by
  intro d hd
  rcases List.mem_cons.mp hd with rfl | hd
  · exact ⟨rfl, by decide, by decide⟩
  rcases List.mem_cons.mp hd with rfl | hd
  · exact ⟨rfl, by decide, by decide⟩
  · exact isInner_of_isHex (h d hd)

/-- The words with a meaning of their own begin differently. -/
theorem not_contains_hexNumeral {words : List String}
    (h : ∀ word ∈ words, word.toList.head? ≠ some '0') (digits : List Char) :
    words.contains (String.ofList (hexNumeral digits)) = false := by
  rw [List.contains_eq_mem, decide_eq_false_iff_not]
  intro mem
  exact h _ mem (by rw [String.toList_ofList]; rfl)

/-- A hexadecimal number is a plain scalar that is read as a whole number. -/
theorem kind_hexNumeral (ne : digits ≠ []) (h : ∀ d ∈ digits, Plain.isHex d = true) :
    Plain.kind (hexNumeral digits) = .int := by
  have null : Plain.nullWords.contains (String.ofList (hexNumeral digits)) = false :=
    not_contains_hexNumeral (by decide) digits
  have bool : Plain.boolWords.contains (String.ofList (hexNumeral digits)) = false :=
    not_contains_hexNumeral (by decide) digits
  have point : ∀ d ∈ hexNumeral digits, (d != '.') = true := by
    intro d hd
    rcases List.mem_cons.mp hd with rfl | hd
    · rfl
    rcases List.mem_cons.mp hd with rfl | hd
    · rfl
    · rw [bne_iff_ne]
      rintro rfl
      cases h _ hd
  -- The letter in second place rules out all floating-point numbers but those to the base sixty,
  -- whose shape is not known before the place of the point is.
  have float : Plain.isFloat (hexNumeral digits) = false := by
    have fraction : Plain.isSixtiethFraction (hexNumeral digits) = false := by
      unfold Plain.isSixtiethFraction
      rw [List.dropWhile_eq_nil_iff.mpr point]
    show (false || Plain.isSixtiethFraction (hexNumeral digits) || false) = false
    rw [fraction]
    rfl
  have int : Plain.isInt (hexNumeral digits) = true := by
    show (!digits.isEmpty && digits.all Plain.isHex) = true
    simpa [ne] using h
  unfold Plain.kind
  dsimp only
  rw [null, bool, float, int]
  rfl

theorem ofText_hexNumeral (ne : digits ≠ []) (h : ∀ d ∈ digits, Plain.isHex d = true) :
    Tag.ofText (hexNumeral digits) = .int := by
  have last : (hexNumeral digits).getLast? ≠ some '\n' := by
    intro hlast
    have inner := isInner_hexNumeral h _ (List.mem_of_getLast? hlast)
    cases inner.endsWord
  have marks : Tag.marks.contains (hexNumeral digits) = false := rfl
  unfold Tag.ofText
  dsimp only
  rw [if_neg fun cut : _ ∧ _ ↦ last cut.2, marks, kind_hexNumeral ne h]
  rfl

/-! ## Bytes -/

theorem Source.ofBytes_toUTF8 (s : String) :
    ofBytes s.toUTF8 = ofChars (Text.unifyBreaks s.toList) none := by
  obtain ⟨chars, fault⟩ := Text.Utf8.arrivals_of_scan (Text.Utf8.scan_toUTF8 s) 0
  unfold ofBytes
  dsimp only
  rw [fault, chars]

theorem isAllowed_of_isHex {c : Char} (h : Plain.isHex c = true) : isAllowed c = true := by
  have printable : 0x20 ≤ c.toNat ∧ c.toNat ≤ 0x7E := by
    simp only [Plain.isHex, Char.isDigit, Bool.or_eq_true, Bool.and_eq_true, decide_eq_true_eq,
      beq_iff_eq, Char.le_def, ge_iff_le, UInt32.le_iff_toNat_le] at h
    rcases h with ((⟨low, high⟩ | ⟨low, high⟩) | ⟨low, high⟩) | rfl
    · exact ⟨Nat.le_trans (by decide) low, Nat.le_trans high (by decide)⟩
    · exact ⟨Nat.le_trans (by decide) low, Nat.le_trans high (by decide)⟩
    · exact ⟨Nat.le_trans (by decide) low, Nat.le_trans high (by decide)⟩
    · decide
  simp [isAllowed, printable]

/-- A text that is just a hexadecimal number as a key. -/
def hexKey (digits : List Char) : List Char := '?' :: ' ' :: (hexNumeral digits ++ ['\n'])

theorem mem_hexKey {c : Char} (hc : c ∈ hexKey digits) :
    c ∈ ['?', ' ', '0', 'x', '\n'] ∨ c ∈ digits := by
  simp only [hexKey, hexNumeral, List.cons_append, List.mem_cons, List.mem_append] at hc ⊢
  tauto

theorem ofBytes_hexKey (h : ∀ d ∈ digits, Plain.isHex d = true) :
    Source.ofBytes (String.ofList (hexKey digits)).toUTF8 = ⟨hexKey digits, none⟩ := by
  have signs : ['?', ' ', '0', 'x', '\n'].all isAllowed = true := by decide
  have allowed : ∀ c ∈ hexKey digits, isAllowed c = true := by
    intro c hc
    rcases mem_hexKey hc with hc | hc
    · exact List.all_eq_true.mp signs c hc
    · exact isAllowed_of_isHex (h c hc)
  have noReturn : '\r' ∉ hexKey digits := by
    intro hc
    rcases mem_hexKey hc with hc | hc
    · exact absurd hc (by decide)
    · cases h _ hc
  have find : (hexKey digits).findIdx? (!isAllowed ·) = none := by
    rw [List.findIdx?_eq_none_iff]
    intro c hc
    rw [allowed c hc]
    rfl
  rw [Source.ofBytes_toUTF8, String.toList_ofList, Text.unifyBreaks_of_not_mem noReturn,
    Source.ofChars, find]

/-! ## Tokens -/

namespace Lexer

def atKey (digits : List Char) : Lexer where
  cursor := .ofSource ⟨hexKey digits, none⟩

def afterMark (digits : List Char) : Lexer where
  cursor := {
    rest := ' ' :: (hexNumeral digits ++ ['\n'])
    length := (atKey digits).cursor.length
    index := 1
    column := 1 }
  tokens := [.key, .blockMapping]
  count := 2
  blocks := [0]

def atNumeral (digits : List Char) : Lexer where
  cursor := {
    rest := hexNumeral digits ++ ['\n']
    length := (atKey digits).cursor.length
    index := 2
    column := 2 }
  tokens := [.key, .blockMapping]
  count := 2
  blocks := [0]

def afterNumeral (digits : List Char) : Lexer where
  cursor := {
    rest := []
    length := (atKey digits).cursor.length
    index := 2 + (hexNumeral digits).length + 1
    line := 1 }
  tokens := [.scalar (hexNumeral digits) true, .key, .blockMapping]
  count := 3
  blocks := [0]

def afterKey (digits : List Char) : Lexer where
  cursor := (afterNumeral digits).cursor
  tokens := [.finish, .blockEnd, .scalar (hexNumeral digits) true, .key, .blockMapping]
  count := 5
  keyAllowed := false

theorem step_atKey (digits : List Char) : (atKey digits).step = .ok (afterMark digits) := rfl

theorem step_afterNumeral (digits : List Char) :
    (afterNumeral digits).step = .ok (afterKey digits) := rfl

/-- The number, noted as a candidate that turns out to be no key of a line of its own. -/
theorem plain_atNumeral (h : ∀ d ∈ digits, Plain.isHex d = true) :
    (atNumeral digits).plain = .ok { afterNumeral digits with
      candidates := [some { before := 2, place := (atNumeral digits).cursor, required := false }]
      } := by
  have scanned : (Scalar.plain false 1).run (atNumeral digits).cursor =
      .ok ((hexNumeral digits, true), (afterNumeral digits).cursor) :=
    Scalar.run_plain (isInner_hexNumeral h) (List.cons_ne_nil _ _) (show '0' ≠ '#' by decide) 0
      rfl rfl
  have noted : (atNumeral digits).noteCandidate = .ok { atNumeral digits with
      candidates := [some { before := 2, place := (atNumeral digits).cursor, required := false }]
      } := rfl
  unfold plain
  rw [noted]
  show (reading _ (Scalar.plain false 1) >>= _) = _
  unfold reading
  dsimp only
  rw [scanned]
  rfl

theorem cut_atNumeral (digits : List Char) :
    (atNumeral digits).cut '0' = (atNumeral digits).plain := by
  have starts : (Scalar.startsPlain (atNumeral digits).inFlow).run (atNumeral digits).cursor =
      .ok (true, (atNumeral digits).cursor) := rfl
  unfold cut
  simp [atMark, standsAlone, starts]
  rfl

/-- A step, once it is known where the next token is and how it begins. -/
theorem step_eq_cut {l m : Lexer} {d : Char} (advanced : (l.advance >>= dropStale) = .ok m)
    (kept : m.closeBlocks (· > m.cursor.column) = m) (peeked : Scan.peek.run' m.cursor = .ok d) :
    l.step = m.cut d >>= fun l ↦ if l.isFinished then .ok l else l.dropStale := by
  unfold step
  rcases h : l.advance with t | n
  · rw [h] at advanced
    cases advanced
  · rw [h] at advanced
    show (n.dropStale >>= _) = _
    rw [show n.dropStale = .ok m from advanced]
    show (Scan.peek.run' (m.closeBlocks _).cursor >>= _) = _
    rw [kept, peeked]
    rfl

theorem step_afterMark (h : ∀ d ∈ digits, Plain.isHex d = true) :
    (afterMark digits).step = .ok (afterNumeral digits) := by
  rw [step_eq_cut (m := atNumeral digits) (d := '0') rfl rfl rfl, cut_atNumeral, plain_atNumeral h]
  -- The candidate has gone stale, since the text ends on a later line.
  rfl

theorem run_of_step {l l' : Lexer} (h : l.step = .ok l') (goesOn : l'.isFinished = false)
    (fuel : Nat) : run (fuel + 1) l = run fuel l' := by
  rw [run, h]
  simp [goesOn]

theorem run_of_last {l l' : Lexer} (h : l.step = .ok l') (ends : l'.isFinished = true)
    (fuel : Nat) : run (fuel + 1) l = l'.tokens.reverse := by
  rw [run, h]
  simp [ends]

end Lexer

theorem ofSource_hexKey (h : ∀ d ∈ digits, Plain.isHex d = true) :
    Token.ofSource ⟨hexKey digits, none⟩ =
      [.blockMapping, .key, .scalar (hexNumeral digits) true, .blockEnd, .finish] := by
  have unmarked : skipOrderMark.run (Lexer.atKey digits).cursor =
      .ok ((), (Lexer.atKey digits).cursor) := rfl
  unfold Token.ofSource
  rw [show Cursor.ofSource _ = (Lexer.atKey digits).cursor from rfl, unmarked]
  show Lexer.run ((hexNumeral digits ++ ['\n']).length + 2 + 1) (Lexer.atKey digits) = _
  rw [Lexer.run_of_step (Lexer.step_atKey digits) rfl,
    Lexer.run_of_step (Lexer.step_afterMark h) rfl,
    Lexer.run_of_last (Lexer.step_afterNumeral digits) rfl]
  rfl

/-! ## Values -/

/-- The nodes of a mapping with a number as its only key. -/
def Graph.ofKey (digits : List Char) : Graph where
  nodes := #[⟨.mapping, .mapping [(1, 2)]⟩, ⟨.int, .scalar (hexNumeral digits)⟩, .empty]

theorem ofTokens_hexKey (ne : digits ≠ []) (h : ∀ d ∈ digits, Plain.isHex d = true) :
    Graph.ofTokens
        [.blockMapping, .key, .scalar (hexNumeral digits) true, .blockEnd, .finish] =
      .ok (some 0, .ofKey digits) := by
  have parsed (cs : List Char) :
      Graph.ofTokens [.blockMapping, .key, .scalar cs true, .blockEnd, .finish] =
        .ok (some 0, ⟨#[⟨.mapping, .mapping [(1, 2)]⟩, ⟨.ofText cs, .scalar cs⟩, .empty]⟩) := rfl
  rw [parsed, ofText_hexNumeral ne h]
  rfl

namespace Make

/-- Work on such a mapping, with the outlines of its nodes so far. -/
def onKey (digits : List Char) (outlines : Array (Option Outline)) : Work where
  graph := .ofKey digits
  outlines
  met := #[0]

section

variable {n : Int} (h : Literal.int (hexNumeral digits) = .ok n)
include h

theorem plainValue_ofKey : plainValue (.ofKey digits) 1 = .ok (.int n) := by
  have value : scalarValue .int (hexNumeral digits) = .ok (.int n) := by
    rw [scalarValue, h]
    rfl
  exact value

theorem run_meet_key :
    (meet 1).run (onKey digits #[some (.list []), none, none]) =
      .ok ((), onKey digits #[some (.list []), some (.plain (.int n)), none]) := by
  have value : (liftM (plainValue (.ofKey digits) 1) : Make Datum).run
      (onKey digits #[some (.list []), none, none]) =
      .ok (.int n, onKey digits #[some (.list []), none, none]) := by
    rw [plainValue_ofKey h]
    rfl
  exact run_bind_of_ok value fun k ↦ outline 1 (.plain k)

theorem run_key :
    (key 1).run (onKey digits #[some (.list []), none, none]) =
      .ok (.int n, onKey digits #[some (.list []), some (.plain (.int n)), none]) := by
  unfold key
  rw [run_bind_of_ok (run_meet_key h)]
  rfl

theorem run_members :
    (members 0).run (onKey digits #[some (.list []), none, none]) =
      .ok ([(.int n, 2)],
        onKey digits #[some (.list []), some (.plain (.int n)), some (.plain .null)]) := by
  have entry : (do
      let k ← key 1
      meet 2
      return Datum.putEntry k 2 [] : Make (List (Datum × Ref))).run
        (onKey digits #[some (.list []), none, none]) =
      .ok ([(.int n, 2)],
        onKey digits #[some (.list []), some (.plain (.int n)), some (.plain .null)]) := by
    rw [run_bind_of_ok (run_key h)]
    rfl
  exact run_bind_of_ok entry pure

theorem run_complete :
    (complete 0).run (onKey digits #[some (.list []), none, none]) =
      .ok ((), onKey digits
        #[some (.mapping [(.int n, 2)]), some (.plain (.int n)), some (.plain .null)]) :=
  run_bind_of_ok (run_members h) fun es ↦ outline 0 (.mapping es)

theorem run_completeFrom :
    (completeFrom 3 0).run (onKey digits #[some (.list []), none, none]) =
      .ok ((), onKey digits
        #[some (.mapping [(.int n, 2)]), some (.plain (.int n)), some (.plain .null)]) := by
  rw [completeFrom, run_bind_of_ok (StateT.run_get _)]
  exact run_bind_of_ok (run_complete h) fun _ ↦ completeFrom 2 1

end

end Make

theorem outlines_ofKey {n : Int} (h : Literal.int (hexNumeral digits) = .ok n) :
    (Graph.ofKey digits).outlines 0 =
      .ok #[some (.mapping [(.int n, 2)]), some (.plain (.int n)), some (.plain .null)] := by
  have met : (Make.meet 0).run {
      graph := .ofKey digits
      outlines := Array.replicate (Graph.ofKey digits).size none } =
      .ok ((), Make.onKey digits #[some (.list []), none, none]) := rfl
  unfold Graph.outlines
  dsimp only
  rw [run_bind_of_ok met]
  show (Make.completeFrom 3 0).run _ >>= _ = _
  rw [Make.run_completeFrom h]
  rfl

/-- A document that is just a hexadecimal number as a key is a mapping with that key. -/
theorem read_hexKey (ne : digits ≠ []) (hex : ∀ d ∈ digits, Plain.isHex d = true) {n : Int}
    (h : Literal.int (hexNumeral digits) = .ok n) :
    read (.ofBytes (String.ofList (hexKey digits)).toUTF8) = .ok (.mapping [(.int n, .null)]) := by
  rw [ofBytes_hexKey hex]
  unfold read
  rw [ofSource_hexKey hex, ofTokens_hexKey ne hex]
  show ((Graph.ofKey digits).outlines 0 >>= _) = _
  rw [outlines_ofKey h]
  rfl

/-! ## Large numbers

The numbers whose digits are all `f` are as large as one likes. -/

theorem natOfDigits?_replicate (k : Nat) :
    natOfDigits? 16 (List.replicate (k + 1) 'f') = some (16 ^ (k + 1) - 1) := by
  have fold (k n : Nat) : (List.replicate k 'f').foldl (fun n c ↦ do
      let n ← n
      let d ← digitValue? c
      if d < 16 then some (n * 16 + d) else none) (some n) = some ((n + 1) * 16 ^ k - 1) := by
    induction k generalizing n with
    | zero => simp
    | succ k ih =>
      have more : n * 16 + 15 + 1 = (n + 1) * 16 := by omega
      rw [List.replicate_succ, List.foldl_cons]
      show List.foldl _ (some (n * 16 + 15)) _ = _
      rw [ih, more, Nat.pow_succ', Nat.mul_assoc]
  show List.foldl _ _ _ = _
  rw [fold (k + 1) 0, Nat.zero_add, Nat.one_mul]

theorem int_replicate (k : Nat) :
    Literal.int (hexNumeral (List.replicate (k + 1) 'f')) =
      .ok ((16 ^ (k + 1) - 1 : Nat) : Int) := by
  have kept : (hexNumeral (List.replicate (k + 1) 'f')).filter (· != '_') =
      hexNumeral (List.replicate (k + 1) 'f') := by
    rw [List.filter_eq_self]
    simp [hexNumeral]
  have numeral : Literal.numeral (List.replicate (k + 1) 'f') = List.replicate (k + 1) 'f' := by
    have gap : Text.isGap 'f' = false := by decide
    have western : Text.westernDigit 'f' = 'f' := by decide
    have solid : (List.replicate (k + 1) 'f').dropWhile Text.isGap =
        List.replicate (k + 1) 'f' := by
      rw [List.replicate_succ, List.dropWhile_cons_of_neg (by simp [gap])]
    rw [Literal.numeral, solid, Text.dropTail, List.reverse_replicate, solid,
      List.reverse_replicate, List.map_replicate, western]
  have signed : Literal.signedInt 16 (List.replicate (k + 1) 'f') =
      .ok ((16 ^ (k + 1) - 1 : Nat) : Int) := by
    have unsigned : cutSign (List.replicate (k + 1) 'f') = (false, List.replicate (k + 1) 'f') :=
      rfl
    have based : Literal.cutBase 16 (List.replicate (k + 1) 'f') = List.replicate (k + 1) 'f' := rfl
    unfold Literal.signedInt
    rw [numeral, unsigned]
    dsimp only
    rw [if_neg fun decimal ↦ absurd decimal.1 (by decide), based, natOfDigits?_replicate]
    rfl
  unfold Literal.int
  rw [kept]
  show Except.map _ (Literal.signedInt 16 _) = _
  rw [signed]
  rfl

/-- Five hexadecimal digits are worth more than six decimal ones. -/
theorem ten_pow_lt {k : Nat} (h : 0 < k) : 10 ^ (6 * k) < 16 ^ (5 * k) := by
  rw [Nat.pow_mul, Nat.pow_mul]
  exact Nat.pow_lt_pow_left (by decide) (Nat.ne_of_gt h)

/-- There are keys with more decimal digits than are written. -/
theorem exists_read_replicate {k : Nat} (h : digitLimit ≤ 6 * k) :
    ∃ n : Int, 10 ^ digitLimit ≤ n.natAbs ∧
      read (.ofBytes (String.ofList (hexKey (List.replicate (5 * k) 'f'))).toUTF8) =
        .ok (.mapping [(.int n, .null)]) := by
  have pos : 0 < k := by
    unfold digitLimit at h
    omega
  have large : 10 ^ digitLimit ≤ 16 ^ (5 * k) - 1 :=
    Nat.le_sub_one_of_lt (Nat.lt_of_le_of_lt (Nat.pow_le_pow_right (by decide) h) (ten_pow_lt pos))
  obtain ⟨m, hm⟩ := Nat.exists_eq_succ_of_ne_zero (show 5 * k ≠ 0 by omega)
  have hex : ∀ d ∈ List.replicate (5 * k) 'f', Plain.isHex d = true := by
    intro d hd
    rw [List.eq_of_mem_replicate hd]
    rfl
  have ne : List.replicate (5 * k) 'f' ≠ [] := by simp [hm]
  have value : Literal.int (hexNumeral (List.replicate (5 * k) 'f')) =
      .ok ((16 ^ (5 * k) - 1 : Nat) : Int) := hm ▸ int_replicate m
  exact ⟨(16 ^ (5 * k) - 1 : Nat), large, read_hexKey ne hex value⟩

end DartBlock.Yaml
