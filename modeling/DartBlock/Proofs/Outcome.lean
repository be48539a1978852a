import DartBlock.Outcome

/-!
# Laws of outcomes

Outcomes form a lawful monad, so work may be regrouped freely. The other lemmas say what one bind
does to the result and to the record, by how the first part of the work ends.
-/

namespace DartBlock.Outcome

variable {α β : Type}

theorem bind_of_ok {x : Outcome α} {a : α} (h : x.result = .ok a) (k : α → Outcome β) :
    x >>= k = {
      result := (k a).result
      events := x.events ++ (k a).events
      notes := x.notes ++ (k a).notes } := by
  rcases x with ⟨result, events, notes⟩
  obtain rfl : result = .ok a := h
  rfl

theorem bind_of_error {x : Outcome α} {f : Fault} (h : x.result = .error f)
    (k : α → Outcome β) :
    x >>= k = { result := .error f, events := x.events, notes := x.notes } := by
  rcases x with ⟨result, events, notes⟩
  obtain rfl : result = .error f := h
  rfl

/-- The monad laws hold of the results and of both records. -/
instance instLawfulMonad : LawfulMonad Outcome := by
  refine LawfulMonad.mk' Outcome ?idMap (fun _ _ ↦ rfl) ?assoc
  case idMap =>
    intro α x
    rcases h : x.result with f | a
    · exact (bind_of_error h _).trans (by rw [← h])
    · refine (bind_of_ok h _).trans ?_
      simp [← h]
  case assoc =>
    intro α β γ x k l
    rcases h : x.result with f | a
    · rw [bind_of_error h, bind_of_error h, bind_of_error rfl]
    · rw [bind_of_ok h, bind_of_ok h]
      rcases hk : (k a).result with f | b
      · rw [bind_of_error hk, bind_of_error rfl]
      · rw [bind_of_ok hk, bind_of_ok rfl]
        simp [List.append_assoc]

/-- A bind asks the host for nothing more if the second part of the work does not. -/
theorem events_bind_of_forall_nil (x : Outcome α) {k : α → Outcome β}
    (hk : ∀ a, (k a).events = []) : (x >>= k).events = x.events := by
  rcases h : x.result with f | a
  · rw [bind_of_error h]
  · rw [bind_of_ok h]
    simp [hk a]

@[simp] theorem result_andAlways (x : Outcome α) (after : Outcome Unit) :
    (x.andAlways after).result = x.result := rfl

@[simp] theorem events_andAlways (x : Outcome α) (after : Outcome Unit) :
    (x.andAlways after).events = x.events ++ after.events := rfl

@[simp] theorem events_ofExcept (e : Except ConfigurationFault α) :
    (ofExcept e).events = [] := by
  cases e <;> rfl

@[simp] theorem result_ofExcept_ok (a : α) : (ofExcept (.ok a)).result = .ok a := rfl

@[simp] theorem result_ofExcept_error (c : ConfigurationFault) :
    (ofExcept (.error c) : Outcome α).result = .error (.configuration c) := rfl

end DartBlock.Outcome
