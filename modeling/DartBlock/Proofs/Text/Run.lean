/-!
# Runs of characters

The longest run of a class of characters at the start of a text, and what it leaves: a text that
is put together from a run and a rest where the class stops is taken apart in the same way.
-/

namespace DartBlock.Text

variable {p : Char → Bool} {run rest : List Char}

/-- A text begins with a run, which may be empty. -/
theorem exists_run (p : Char → Bool) (cs : List Char) :
    ∃ run, (∀ c ∈ run, p c) ∧ cs = run ++ cs.dropWhile p :=
  ⟨cs.takeWhile p, fun _ hc ↦ List.all_eq_true.1 List.all_takeWhile _ hc,
    List.takeWhile_append_dropWhile.symm⟩

theorem mem_of_dropWhile {cs : List Char} {c : Char} (h : cs.dropWhile p = c :: rest) : c ∈ cs :=
  (List.dropWhile_sublist p).subset (h ▸ List.mem_cons_self)

/-- A run ends where the class does. -/
theorem dropWhile_append_of_stop (h : ∀ c ∈ run, p c) (stop : ∀ c ∈ rest.head?, p c = false) :
    (run ++ rest).dropWhile p = rest := by
  rw [List.dropWhile_append_of_pos h]
  cases rest with
  | nil => rfl
  | cons c rest => exact List.dropWhile_cons_of_neg (by simp [stop c rfl])

theorem takeWhile_append_of_stop (h : ∀ c ∈ run, p c) (stop : ∀ c ∈ rest.head?, p c = false) :
    (run ++ rest).takeWhile p = run := by
  rw [List.takeWhile_append_of_pos h]
  cases rest with
  | nil => exact List.append_nil run
  | cons c rest => rw [List.takeWhile_cons_of_neg (by simp [stop c rfl]), List.append_nil]

end DartBlock.Text
