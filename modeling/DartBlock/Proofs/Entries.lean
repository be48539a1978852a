import DartBlock.Datum.Basic
import Mathlib.Data.List.Nodup
import Mathlib.Data.List.Perm.Basic

/-!
# The last entry

Of several entries whose keys have one name, the last one counts (`last?_eq_some_iff`). Where no two
keys have one name, the last entry with a name is the only one, so its value does not depend on
where it stands (`last?_perm`).
-/

namespace DartBlock.Entries

variable {κ : Type} [DecidableEq κ] {nameOf : Datum → κ} {name : κ}
variable {entries entries' : Entries} {v : Datum}

def last? (nameOf : Datum → κ) (name : κ) (entries : Entries) : Option Datum :=
  (entries.reverse.find? fun e ↦ nameOf e.1 = name).map (·.2)

theorem last?_eq_some_iff :
    last? nameOf name entries = some v ↔ ∃ before key after,
      entries = before ++ (key, v) :: after ∧ nameOf key = name ∧
        ∀ e ∈ after, nameOf e.1 ≠ name := by
  simp only [last?, Option.map_eq_some_iff, List.find?_eq_some_iff_append, decide_eq_true_eq,
    Bool.not_eq_true', decide_eq_false_iff_not]
  constructor
  · rintro ⟨⟨key, v⟩, ⟨hkey, after, before, hrev, none⟩, rfl⟩
    refine ⟨before.reverse, key, after.reverse, ?_, hkey, by simpa using none⟩
    rw [← List.reverse_inj, hrev]
    simp
  · rintro ⟨before, key, after, rfl, hkey, none⟩
    exact ⟨(key, v), ⟨hkey, after.reverse, before.reverse, by simp, by simpa using none⟩, rfl⟩

theorem last?_eq_none_iff :
    last? nameOf name entries = none ↔ ∀ e ∈ entries, nameOf e.1 ≠ name := by
  simp [last?]

section Distinct

variable (distinct : (entries.map fun e ↦ nameOf e.1).Nodup)

include distinct

omit [DecidableEq κ] in
theorem eq_of_mem {e e' : Datum × Datum} (he : e ∈ entries) (he' : e' ∈ entries)
    (h : nameOf e.1 = nameOf e'.1) : e = e' :=
  List.inj_on_of_nodup_map distinct he he' h

/-- The last entry with a name is the only one. -/
theorem last?_eq_some_iff_mem :
    last? nameOf name entries = some v ↔ ∃ key, (key, v) ∈ entries ∧ nameOf key = name := by
  constructor
  · intro hlast
    obtain ⟨before, key, after, rfl, hkey, -⟩ := last?_eq_some_iff.mp hlast
    exact ⟨key, List.mem_append_cons_self, hkey⟩
  · rintro ⟨key, mem, hkey⟩
    rcases hlast : last? nameOf name entries with _ | v'
    · exact absurd hkey (last?_eq_none_iff.mp hlast (key, v) mem)
    · obtain ⟨before, key', after, rfl, hkey', -⟩ := last?_eq_some_iff.mp hlast
      have same := eq_of_mem distinct List.mem_append_cons_self mem (hkey'.trans hkey.symm)
      rw [(Prod.mk.inj same).2]

theorem last?_perm (perm : entries.Perm entries') (name : κ) :
    last? nameOf name entries = last? nameOf name entries' := by
  have distinct' := (perm.map _).nodup_iff.mp distinct
  ext v
  simp only [last?_eq_some_iff_mem distinct, last?_eq_some_iff_mem distinct', perm.mem_iff]

end Distinct

end DartBlock.Entries
