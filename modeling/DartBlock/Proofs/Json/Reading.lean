import DartBlock.Proofs.Json.Scalar

/-!
# Reading JSON

The reader agrees with the grammar. Main statement: `read?_eq_some_iff`. So a text stands for one
value at most (`IsText.unique`).

* `readValue_sound`: what is read from the front of a text is the text of what is returned.
* `IsValue.readValue`: with enough steps, the text of a value is read in full, whatever follows it,
  as long as no number could go on there.
-/

namespace DartBlock.Json

variable {cs rest : List Char} {v : Value}

/-! ## White space -/

theorem exists_gaps (cs : List Char) :
    ∃ gaps, IsGaps gaps ∧ cs = gaps ++ cs.dropWhile isSpace :=
  Text.exists_run isSpace cs

theorem IsGaps.append {gaps gaps' : List Char} (h : IsGaps gaps) (h' : IsGaps gaps') :
    IsGaps (gaps ++ gaps') :=
  List.forall_mem_append.mpr ⟨h, h'⟩

theorem IsGaps.dropWhile_append {gaps : List Char} (h : IsGaps gaps) (cs : List Char) :
    (gaps ++ cs).dropWhile isSpace = cs.dropWhile isSpace :=
  List.dropWhile_append_of_pos h

theorem IsGaps.dropWhile_cons {gaps : List Char} (h : IsGaps gaps) {c : Char}
    (visible : isSpace c = false) (cs : List Char) :
    (gaps ++ c :: cs).dropWhile isSpace = c :: cs := by
  rw [h.dropWhile_append, List.dropWhile_cons_of_neg (by simp [visible])]

/-- White space in front of the first item may be counted to it. -/
theorem AreItems.gaps_append {gaps : List Char} {vs : List Value} (hgaps : IsGaps gaps)
    (h : AreItems cs vs) : AreItems (gaps ++ cs) vs := by
  cases h with
  | one hbefore value hafter =>
    simpa using AreItems.one (hgaps.append hbefore) value hafter
  | cons hbefore value hafter others =>
    simpa using AreItems.cons (hgaps.append hbefore) value hafter others

theorem IsName.gaps_append {gaps name s : List Char} (hgaps : IsGaps gaps) (h : IsName name s) :
    IsName (gaps ++ name) s := by
  cases h with
  | mk hbefore string hbetween hafter =>
    simpa using IsName.mk (hgaps.append hbefore) string hbetween hafter

/-- White space in front of the first member may be counted to it. -/
theorem AreMembers.gaps_append {gaps : List Char} {ms : List (String × Value)} (hgaps : IsGaps gaps)
    (h : AreMembers cs ms) : AreMembers (gaps ++ cs) ms := by
  cases h with
  | one name value hafter =>
    simpa using AreMembers.one (name.gaps_append hgaps) value hafter
  | cons name value hafter others =>
    simpa using AreMembers.cons (name.gaps_append hgaps) value hafter others

/-! ## What is read is a value -/

theorem cutWord?_eq_some_iff {word : List Char} :
    cutWord? word cs = some rest ↔ cs = word ++ rest := by
  induction word generalizing cs with
  | nil => simp [cutWord?]
  | cons w ws ih =>
    cases cs with
    | nil => simp [cutWord?]
    | cons c cs => simp [cutWord?, ih, @eq_comm _ w]

theorem cutWord?_map_eq_some_iff {word : List Char} {u : Value} :
    (cutWord? word cs).map (fun rest ↦ (u, rest)) = some (v, rest) ↔ cs = word ++ rest ∧ u = v := by
  simp [Option.map_eq_some_iff, cutWord?_eq_some_iff, and_comm]

mutual

/-- A reader of a value takes the text of that value, with the white space in front of it. -/
theorem readValue_sound : ∀ {fuel : Nat} {cs rest : List Char} {v : Value},
    readValue fuel cs = some (v, rest) →
      ∃ gaps text, cs = gaps ++ text ++ rest ∧ IsGaps gaps ∧ IsValue text v
  | 0, _, _, _, h => nomatch h
  | fuel + 1, cs, rest, v, h => by
    obtain ⟨gaps, hgaps, hcs⟩ := exists_gaps cs
    -- The white space in front is the same in all cases.
    suffices ∃ text, cs.dropWhile isSpace = text ++ rest ∧ IsValue text v by
      obtain ⟨text, htext, value⟩ := this
      exact ⟨gaps, text, by rw [List.append_assoc, ← htext, ← hcs], hgaps, value⟩
    clear hcs hgaps gaps
    unfold readValue at h
    split at h
    case h_1 inside start =>
      obtain ⟨⟨s, _⟩, read, eq⟩ := Option.map_eq_some_iff.mp h
      cases eq
      obtain ⟨text, rfl, string⟩ := readString_sound read
      exact ⟨'"' :: text ++ ['"'], by simp [start], .string string⟩
    case h_2 inside start =>
      obtain ⟨gaps, hgaps, hinside⟩ := exists_gaps inside
      split at h
      case h_1 close =>
        cases h
        rw [close] at hinside
        exact ⟨'[' :: gaps ++ [']'], by simp [start, hinside], .noItems hgaps⟩
      case h_2 =>
        obtain ⟨⟨vs, _⟩, read, eq⟩ := Option.map_eq_some_iff.mp h
        cases eq
        obtain ⟨text, htext, items⟩ := readItems_sound read
        -- The items are read from behind the white space that may have come before a bracket.
        rw [htext] at hinside
        exact ⟨'[' :: (gaps ++ text) ++ [']'], by simp [start, hinside],
          .items (items.gaps_append hgaps)⟩
    case h_3 inside start =>
      obtain ⟨gaps, hgaps, hinside⟩ := exists_gaps inside
      split at h
      case h_1 close =>
        cases h
        rw [close] at hinside
        exact ⟨'{' :: gaps ++ ['}'], by simp [start, hinside], .noMembers hgaps⟩
      case h_2 =>
        obtain ⟨⟨ms, _⟩, read, eq⟩ := Option.map_eq_some_iff.mp h
        cases eq
        obtain ⟨text, htext, members⟩ := readMembers_sound read
        rw [htext] at hinside
        exact ⟨'{' :: (gaps ++ text) ++ ['}'], by simp [start, hinside],
          .members (members.gaps_append hgaps)⟩
    case h_4 inside start =>
      obtain ⟨rfl, rfl⟩ := cutWord?_map_eq_some_iff.mp h
      exact ⟨_, start, .yes⟩
    case h_5 inside start =>
      obtain ⟨rfl, rfl⟩ := cutWord?_map_eq_some_iff.mp h
      exact ⟨_, start, .no⟩
    case h_6 inside start =>
      obtain ⟨rfl, rfl⟩ := cutWord?_map_eq_some_iff.mp h
      exact ⟨_, start, .null⟩
    case h_7 =>
      obtain ⟨_, read, eq⟩ := Option.map_eq_some_iff.mp h
      cases eq
      exact ⟨_, List.takeWhile_append_dropWhile.symm, .number (number?_eq_some_iff.mp read)⟩

/-- A reader of items takes items with commas between them, and the closing bracket. -/
theorem readItems_sound : ∀ {fuel : Nat} {cs rest : List Char} {vs : List Value},
    readItems fuel cs = some (vs, rest) → ∃ text, cs = text ++ ']' :: rest ∧ AreItems text vs
  | 0, _, _, _, h => nomatch h
  | fuel + 1, cs, rest, vs, h => by
    simp only [readItems, Option.bind_eq_bind, Option.bind_eq_some_iff] at h
    obtain ⟨⟨v, behind⟩, read, h⟩ := h
    obtain ⟨gaps, text, rfl, hgaps, value⟩ := readValue_sound read
    obtain ⟨after, hafter, hbehind⟩ := exists_gaps behind
    dsimp only at h
    split at h
    case h_1 others comma =>
      obtain ⟨⟨vs, _⟩, read, eq⟩ := Option.bind_eq_some_iff.mp h
      cases eq
      obtain ⟨text', rfl, items⟩ := readItems_sound read
      rw [comma] at hbehind
      exact ⟨_, by simp [hbehind], .cons hgaps value hafter items⟩
    case h_2 close =>
      cases h
      rw [close] at hbehind
      exact ⟨_, by simp [hbehind], .one hgaps value hafter⟩
    case h_3 => cases h

/-- A reader of members takes members with commas between them, and the closing brace. -/
theorem readMembers_sound : ∀ {fuel : Nat} {cs rest : List Char} {ms : List (String × Value)},
    readMembers fuel cs = some (ms, rest) → ∃ text, cs = text ++ '}' :: rest ∧ AreMembers text ms
  | 0, _, _, _, h => nomatch h
  | fuel + 1, cs, rest, ms, h => by
    obtain ⟨before, hbefore, hcs⟩ := exists_gaps cs
    unfold readMembers at h
    split at h
    case h_2 => cases h
    case h_1 inside start =>
      simp only [Option.bind_eq_bind, Option.bind_eq_some_iff] at h
      obtain ⟨⟨s, behind⟩, read, h⟩ := h
      obtain ⟨name, rfl, string⟩ := readString_sound read
      obtain ⟨between, hbetween, hbehind⟩ := exists_gaps behind
      dsimp only at h
      split at h
      case h_2 => cases h
      case h_1 inside colon =>
        rw [Option.bind_eq_some_iff] at h
        obtain ⟨⟨v, behind'⟩, read, h⟩ := h
        obtain ⟨gaps, text, rfl, hgaps, value⟩ := readValue_sound read
        obtain ⟨after, hafter, hbehind'⟩ := exists_gaps behind'
        have named := IsName.mk hbefore string hbetween hgaps
        rw [colon] at hbehind
        rw [start, hbehind] at hcs
        dsimp only at h
        split at h
        case h_1 others comma =>
          obtain ⟨⟨ms, _⟩, read, eq⟩ := Option.bind_eq_some_iff.mp h
          cases eq
          obtain ⟨text', rfl, members⟩ := readMembers_sound read
          rw [comma] at hbehind'
          exact ⟨_, by simp [hcs, hbehind'], .cons named value hafter members⟩
        case h_2 close =>
          cases h
          rw [close] at hbehind'
          exact ⟨_, by simp [hcs, hbehind'], .one named value hafter⟩
        case h_3 => cases h

end

/-! ## Every value is read

Each reader hands one step less to the next. A value has a character at least, and what encloses it
has one more, so a step for each character is enough.
-/

/-- Whether a value can be over before a text: no number goes on there. -/
def CanFollow (cs : List Char) : Prop := ∀ c ∈ cs.head?, isNumberChar c = false

theorem canFollow_nil : CanFollow [] := by simp [CanFollow]

theorem canFollow_cons {c : Char} (h : isNumberChar c = false) (cs : List Char) :
    CanFollow (c :: cs) := by
  rintro _ ⟨⟩
  exact h

theorem isNumberChar_of_isSpace {c : Char} (h : isSpace c = true) : isNumberChar c = false := by
  simp only [isSpace, Bool.or_eq_true, beq_iff_eq] at h
  rcases h with ((rfl | rfl) | rfl) | rfl <;> rfl

theorem CanFollow.gaps_append {gaps : List Char} (hgaps : IsGaps gaps) (h : CanFollow cs) :
    CanFollow (gaps ++ cs) := by
  cases gaps with
  | nil => exact h
  | cons c gaps => exact canFollow_cons (isNumberChar_of_isSpace (hgaps c List.mem_cons_self)) _

/-- A value begins with a visible character, which closes no array. -/
theorem IsValue.exists_cons (h : IsValue cs v) :
    ∃ c rest, cs = c :: rest ∧ isSpace c = false ∧ c ≠ ']' := by
  cases h with
  | number number =>
    obtain ⟨c, rest, rfl⟩ := List.exists_cons_of_ne_nil number.ne_nil
    have char := number.isNumberChar c List.mem_cons_self
    refine ⟨c, rest, rfl, ?_, ?_⟩
    · by_contra space
      rw [Bool.not_eq_false] at space
      cases char.symm.trans (isNumberChar_of_isSpace space)
    · rintro rfl
      cases char
  | _ => exact ⟨_, _, rfl, rfl, by decide⟩

theorem IsValue.length_pos (h : IsValue cs v) : 0 < cs.length := by
  obtain ⟨c, rest, rfl, -⟩ := h.exists_cons
  exact Nat.succ_pos _

theorem AreItems.dropWhile_isSpace {vs : List Value} (h : AreItems cs vs) (rest : List Char) :
    ∃ c behind, (cs ++ rest).dropWhile isSpace = c :: behind ∧ c ≠ ']' := by
  obtain ⟨before, text, tail, v, rfl, hbefore, value⟩ :
      ∃ before text tail v, cs = before ++ (text ++ tail) ∧ IsGaps before ∧ IsValue text v := by
    cases h with
    | @one before text after v hbefore value _ =>
      exact ⟨before, text, after, v, by simp, hbefore, value⟩
    | @cons before text after others v _ hbefore value _ _ =>
      exact ⟨before, text, after ++ ',' :: others, v, by simp, hbefore, value⟩
  obtain ⟨c, behind, rfl, visible, ne⟩ := value.exists_cons
  refine ⟨c, behind ++ tail ++ rest, ?_, ne⟩
  simpa using hbefore.dropWhile_cons visible (behind ++ tail ++ rest)

/-- Behind the white space in front of members, the mark of the first name comes first. -/
theorem AreMembers.dropWhile_isSpace {ms : List (String × Value)} (h : AreMembers cs ms)
    (rest : List Char) : ∃ behind, (cs ++ rest).dropWhile isSpace = '"' :: behind := by
  obtain ⟨name, tail, s, rfl, named⟩ : ∃ name tail s, cs = name ++ tail ∧ IsName name s := by
    cases h with
    | @one name text after s _ named _ _ => exact ⟨name, text ++ after, s, by simp, named⟩
    | @cons name text after others s _ _ named _ _ _ =>
      exact ⟨name, text ++ after ++ ',' :: others, s, by simp, named⟩
  cases named with
  | @mk before cs between after _ hbefore _ _ _ =>
    refine ⟨cs ++ '"' :: between ++ ':' :: after ++ tail ++ rest, ?_⟩
    simpa using hbefore.dropWhile_cons (show isSpace '"' = false from rfl)
      (cs ++ '"' :: between ++ ':' :: after ++ tail ++ rest)

theorem readValue_gaps_append {gaps : List Char} (h : IsGaps gaps) (fuel : Nat) (cs : List Char) :
    readValue fuel (gaps ++ cs) = readValue fuel cs := by
  cases fuel with
  | zero => rfl
  | succ fuel =>
    unfold readValue
    rw [h.dropWhile_append]

theorem readItems_dropWhile_isSpace (fuel : Nat) (cs : List Char) :
    readItems fuel (cs.dropWhile isSpace) = readItems fuel cs := by
  obtain ⟨gaps, hgaps, hcs⟩ := exists_gaps cs
  cases fuel with
  | zero => rfl
  | succ fuel =>
    conv_rhs => rw [hcs]
    unfold readItems
    rw [readValue_gaps_append hgaps]

theorem readMembers_dropWhile_isSpace (fuel : Nat) (cs : List Char) :
    readMembers fuel (cs.dropWhile isSpace) = readMembers fuel cs := by
  obtain ⟨gaps, hgaps, hcs⟩ := exists_gaps cs
  cases fuel with
  | zero => rfl
  | succ fuel =>
    conv_rhs => rw [hcs]
    unfold readMembers
    rw [hgaps.dropWhile_append]

theorem readValue_of_isNumber (h : IsNumber cs v) (fuel : Nat) (follow : CanFollow rest) :
    readValue (fuel + 1) (cs ++ rest) = some (v, rest) := by
  have chars := h.isNumberChar
  obtain ⟨c, behind, start, visible, -⟩ := (IsValue.number h).exists_cons
  have trimmed : (cs ++ rest).dropWhile isSpace = cs ++ rest := by
    rw [start]
    exact List.dropWhile_cons_of_neg (by simp [visible])
  have ne {d : Char} (hd : isNumberChar d = false) {inside : List Char} :
      cs ++ rest ≠ d :: inside := by
    rw [start] at chars ⊢
    rintro ⟨⟩
    cases (chars c List.mem_cons_self).symm.trans hd
  unfold Json.readValue
  rw [trimmed]
  split
  case h_7 =>
    rw [Text.takeWhile_append_of_stop chars follow, Text.dropWhile_append_of_stop chars follow,
      number?_eq_some_iff.mpr h]
    rfl
  all_goals next eq => exact absurd eq (ne rfl)

theorem readValue_string (fuel : Nat) (cs : List Char) :
    readValue (fuel + 1) ('"' :: cs) =
      (readString none cs).map fun (s, rest) ↦ (.string (.ofList s), rest) := rfl

theorem readValue_array (fuel : Nat) (cs : List Char) :
    readValue (fuel + 1) ('[' :: cs) = match cs.dropWhile isSpace with
      | ']' :: rest => some (.array [], rest)
      | cs => (readItems fuel cs).map fun (items, rest) => (.array items, rest) := rfl

theorem readValue_object (fuel : Nat) (cs : List Char) :
    readValue (fuel + 1) ('{' :: cs) = match cs.dropWhile isSpace with
      | '}' :: rest => some (.object [], rest)
      | cs => (readMembers fuel cs).map fun (members, rest) => (.object members, rest) := rfl

theorem IsName.readMembers {name s : List Char} (h : IsName name s) (fuel : Nat) (cs : List Char) :
    readMembers (fuel + 1) (name ++ cs) = (do
      let (v, rest) ← readValue fuel cs
      let member := (String.ofList s, v)
      match rest.dropWhile isSpace with
      | ',' :: rest =>
        let (ms, rest) ← readMembers fuel rest
        return (member :: ms, rest)
      | '}' :: rest => return ([member], rest)
      | _ => none) := by
  cases h with
  | @mk before name between after s hbefore string hbetween hafter =>
    have start : before ++ '"' :: name ++ '"' :: between ++ ':' :: after ++ cs =
        before ++ '"' :: (name ++ '"' :: (between ++ ':' :: (after ++ cs))) := by simp
    rw [Json.readMembers, start, hbefore.dropWhile_cons rfl]
    dsimp only
    simp only [string.readString, Option.bind_eq_bind, Option.bind_some,
      hbetween.dropWhile_cons (show isSpace ':' = false from rfl)]
    exact congrArg (Option.bind · _) (readValue_gaps_append hafter fuel cs)

private theorem enclosed_append (opening closing : Char) (cs rest : List Char) :
    opening :: cs ++ [closing] ++ rest = opening :: (cs ++ closing :: rest) := by
  simp

mutual

/-- A value is read in full before a text where it is over. -/
theorem IsValue.readValue {cs : List Char} {v : Value} (h : IsValue cs v) {fuel : Nat}
    {rest : List Char} (follow : CanFollow rest) (enough : cs.length ≤ fuel) :
    readValue fuel (cs ++ rest) = some (v, rest) := by
  obtain ⟨fuel, rfl⟩ := Nat.exists_eq_succ_of_ne_zero (by have := h.length_pos; omega : fuel ≠ 0)
  match h with
  | .null | .yes | .no => rfl
  | .number number => exact readValue_of_isNumber number fuel follow
  | @IsValue.string cs s string =>
    rw [enclosed_append, readValue_string, string.readString rest]
    rfl
  | @IsValue.noItems gaps hgaps =>
    rw [enclosed_append, readValue_array, hgaps.dropWhile_cons rfl]
    rfl
  | @IsValue.items cs vs items =>
    simp only [List.length_append, List.length_cons, List.length_nil] at enough
    have read := items.readItems (by omega : cs.length < fuel) rest
    obtain ⟨c, behind, start, ne⟩ := items.dropWhile_isSpace (']' :: rest)
    rw [← readItems_dropWhile_isSpace, start] at read
    rw [enclosed_append, readValue_array, start]
    split
    case h_1 eq =>
      cases eq
      exact absurd rfl ne
    case h_2 => rw [read, Option.map_some]
  | @IsValue.noMembers gaps hgaps =>
    rw [enclosed_append, readValue_object, hgaps.dropWhile_cons rfl]
    rfl
  | @IsValue.members cs ms members =>
    simp only [List.length_append, List.length_cons, List.length_nil] at enough
    have read := members.readMembers (by omega : cs.length < fuel) rest
    obtain ⟨behind, start⟩ := members.dropWhile_isSpace ('}' :: rest)
    rw [← readMembers_dropWhile_isSpace, start] at read
    rw [enclosed_append, readValue_object, start]
    show Option.map _ (Json.readMembers fuel ('"' :: behind)) = _
    rw [read, Option.map_some]

theorem AreItems.readItems {cs : List Char} {vs : List Value} (h : AreItems cs vs) {fuel : Nat}
    (enough : cs.length < fuel) (rest : List Char) :
    readItems fuel (cs ++ ']' :: rest) = some (vs, rest) := by
  obtain ⟨fuel, rfl⟩ := Nat.exists_eq_succ_of_ne_zero (Nat.ne_zero_of_lt enough)
  match h with
  | @AreItems.one before text after v hbefore value hafter =>
    have follow : CanFollow (after ++ ']' :: rest) := (canFollow_cons rfl rest).gaps_append hafter
    simp only [List.length_append] at enough
    have read := value.readValue follow (by omega : text.length ≤ fuel)
    have close := hafter.dropWhile_cons (show isSpace ']' = false from rfl) rest
    unfold Json.readItems
    rw [List.append_assoc, List.append_assoc, readValue_gaps_append hbefore, read]
    simp only [Option.bind_eq_bind, Option.bind_some, close]
    rfl
  | @AreItems.cons before text after others v vs hbefore value hafter items =>
    have follow : CanFollow (after ++ ',' :: (others ++ ']' :: rest)) :=
      (canFollow_cons rfl _).gaps_append hafter
    simp only [List.length_append, List.length_cons] at enough
    have read := value.readValue follow (by omega : text.length ≤ fuel)
    have comma := hafter.dropWhile_cons (show isSpace ',' = false from rfl) (others ++ ']' :: rest)
    have more := items.readItems (by omega : others.length < fuel) rest
    unfold Json.readItems
    rw [List.append_assoc, List.append_assoc, List.append_assoc, List.cons_append,
      readValue_gaps_append hbefore, read]
    simp only [Option.bind_eq_bind, Option.bind_some, comma, more]
    rfl

theorem AreMembers.readMembers {cs : List Char} {ms : List (String × Value)} (h : AreMembers cs ms)
    {fuel : Nat} (enough : cs.length < fuel) (rest : List Char) :
    readMembers fuel (cs ++ '}' :: rest) = some (ms, rest) := by
  obtain ⟨fuel, rfl⟩ := Nat.exists_eq_succ_of_ne_zero (Nat.ne_zero_of_lt enough)
  match h with
  | @AreMembers.one name text after s v named value hafter =>
    have follow : CanFollow (after ++ '}' :: rest) := (canFollow_cons rfl rest).gaps_append hafter
    simp only [List.length_append] at enough
    have read := value.readValue follow (by omega : text.length ≤ fuel)
    rw [List.append_assoc, List.append_assoc, named.readMembers, read]
    simp [hafter.dropWhile_cons (show isSpace '}' = false from rfl)]
  | @AreMembers.cons name text after others s v ms named value hafter members =>
    have follow : CanFollow (after ++ ',' :: (others ++ '}' :: rest)) :=
      (canFollow_cons rfl _).gaps_append hafter
    simp only [List.length_append, List.length_cons] at enough
    have read := value.readValue follow (by omega : text.length ≤ fuel)
    have more := members.readMembers (by omega : others.length < fuel) rest
    rw [List.append_assoc, List.append_assoc, List.append_assoc, List.cons_append,
      named.readMembers, read]
    simp [hafter.dropWhile_cons (show isSpace ',' = false from rfl), more]

end

/-! ## Texts -/

/-- A text is read as a value if and only if it stands for that value. -/
theorem read?_eq_some_iff {text : String} : read? text = some v ↔ IsText text v := by
  unfold read?
  simp only [Option.bind_eq_bind, Option.bind_eq_some_iff, List.all_eq_true]
  constructor
  · rintro ⟨⟨v, after⟩, read, h⟩
    split_ifs at h with hafter
    cases h
    obtain ⟨before, cs, htext, hbefore, value⟩ := readValue_sound read
    exact ⟨before, cs, after, hbefore, value, hafter, htext⟩
  · rintro ⟨before, cs, after, hbefore, value, hafter, htext⟩
    have follow : CanFollow after := by simpa using canFollow_nil.gaps_append hafter
    have enough : cs.length ≤ text.toList.length + 1 := by
      simp only [htext, List.length_append]
      omega
    have read := value.readValue follow enough
    rw [← readValue_gaps_append hbefore, ← List.append_assoc, ← htext] at read
    exact ⟨(v, after), read, if_pos hafter⟩

/-- A text stands for one value at most. -/
theorem IsText.unique {text : String} {v' : Value} (h : IsText text v) (h' : IsText text v') :
    v = v' :=
  Option.some.inj ((read?_eq_some_iff.mpr h).symm.trans (read?_eq_some_iff.mpr h'))

end DartBlock.Json
