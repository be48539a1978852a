/-!
# Result modes

A program is started with one word that says what counts as its result.
-/

namespace DartBlock

/-- What a block yields: the text it prints or the value it returns. -/
inductive Mode
  | output
  | value
  deriving DecidableEq, Repr

namespace Mode

/-- The word a program is started with. -/
def word : Mode → String
  | .output => "output"
  | .value => "value"

def ofWord? (w : String) : Option Mode :=
  if w = "output" then some .output else if w = "value" then some .value else none

/-- All modes, in the order messages list them. -/
def all : List Mode := [.output, .value]

theorem mem_all (m : Mode) : m ∈ all := by cases m <;> simp [all]

@[simp] theorem ofWord?_word (m : Mode) : ofWord? m.word = some m := by cases m <;> rfl

theorem ofWord?_eq_some_iff {w : String} {m : Mode} : ofWord? w = some m ↔ w = m.word := by
  constructor
  · intro h
    unfold ofWord? at h
    split at h
    · obtain rfl := Option.some.inj h
      assumption
    · split at h
      · obtain rfl := Option.some.inj h
        assumption
      · cases h
  · rintro rfl
    exact ofWord?_word m

theorem ofWord?_eq_none_iff {w : String} : ofWord? w = none ↔ ∀ m : Mode, w ≠ m.word := by
  simp only [Option.eq_none_iff_forall_ne_some, ne_eq, ofWord?_eq_some_iff]

end Mode

end DartBlock
