import DartBlock.Proofs.CommandLine.Report

/-!
# How the command line ends

Once the arguments are accepted the program ends with status 0 or 1, unless there is a mishap
(`Surroundings.Escapes`): faults of a block and of the files are told. Main theorem: `run_ends`.
-/

namespace DartBlock.CommandLine

variable {w : Surroundings} {o : Options} {settings : Settings} {b : Block}

theorem Surroundings.Task.ending_perform (h : w.Task o settings b) :
    (∃ m, w.Escapes o m ∧ (perform w o).ending = .mishap m) ∨
      (perform w o).ending = .exit 0 ∨ (perform w o).ending = .exit 1 := by
  rw [perform_of_task h]
  rcases asked : o.expand with _ | _
  · rw [if_neg Bool.false_ne_true]
    rcases hresult : (settings.runner.execute w.site b).1.result with f | value
    · rcases f.exists_mishap_or_isReported with ⟨m, rfl⟩ | reported
      · rw [execute_of_mishap o.format hresult]
        exact .inl ⟨m, .block h asked (Runner.result_execute_eq_mishap_iff.mp hresult), rfl⟩
      · rw [execute_of_error o.format hresult reported]
        exact .inr (.inr rfl)
    · obtain ⟨out, err, -, hexecute⟩ := execute_of_ok o.format hresult
      rw [hexecute]
      exact .inr (.inl rfl)
  · rw [if_pos rfl]
    rcases hresult : (settings.runner.expand b).1.result with f | text
    · rw [expand_of_error hresult, Report.ofFault_of_isReported (h.isReported_of_expand hresult)]
      exact .inr (.inr rfl)
    · rw [expand_of_ok hresult]
      rcases hm : w.host.mishap? (.text text) with _ | m
      · exact .inr (.inl rfl)
      · exact .inl ⟨m, .expansion h asked hresult hm, rfl⟩

theorem ending_perform (w : Surroundings) (o : Options) :
    (∃ m, w.Escapes o m ∧ (perform w o).ending = .mishap m) ∨
      (perform w o).ending = .exit 0 ∨ (perform w o).ending = .exit 1 := by
  rcases perform_cases w o with ⟨m, misses⟩ | ⟨r, unread⟩ |
    ⟨snippet, path, c, hsource, hpath, unread⟩ | ⟨settings, b, task⟩
  · exact .inl ⟨m, .missed misses, by rw [perform_of_misses misses]⟩
  · rw [perform_of_refused unread]
    exact .inr (.inr rfl)
  · rw [perform_of_cause hsource hpath unread]
    exact .inr (.inr rfl)
  · exact task.ending_perform

theorem ending_perform_of_escapes {m : Mishap} (h : w.Escapes o m) :
    (perform w o).ending = .mishap m := by
  cases h with
  | missed misses => rw [perform_of_misses misses]
  | expansion task asked result hm =>
    rw [perform_of_task task, if_pos asked, expand_of_ok result, hm]
    rfl
  | block task asked breaks =>
    rw [perform_of_task task, asked, if_neg Bool.false_ne_true,
      execute_of_mishap o.format (Runner.result_execute_eq_mishap_iff.mpr breaks)]
    rfl

end DartBlock.CommandLine
