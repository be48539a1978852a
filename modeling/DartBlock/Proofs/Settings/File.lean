import DartBlock.Proofs.Datum
import DartBlock.Proofs.Files
import DartBlock.Proofs.Settings
import DartBlock.Settings.File

/-!
# Settings files that give no settings

`Settings.Unread` lists why the file with a name gives no settings. The faults of the file itself,
of its language and of its entries are told to the user; that it is no UTF-8, describes a value that
does not exist or has a key too long to be written is not.
-/

namespace DartBlock.Settings

variable {read : ReadFile} {name : String}

/-- Why the file with a name gives no settings. -/
inductive Unread (read : ReadFile) (name : String) : FileFault → Prop
  | zero (h : '\x00' ∈ name.toList) : Unread read name (.mishap .zeroInPath)
  | refused {r : Refusal} (h : read.Refuses name r) :
      Unread read name (.cause
        (.unreadableFile (Path.ofString name).text (r.message (Path.ofString name))))
  | invalid {bytes : ByteArray} (h : read.Gives name bytes)
      (hyaml : Yaml.read (.ofBytes bytes) = .error .invalid) :
      Unread read name (.cause (.invalidYaml (Path.ofString name).text))
  | undecodable {bytes : ByteArray} (h : read.Gives name bytes)
      (hyaml : Yaml.read (.ofBytes bytes) = .error .notUtf8) :
      Unread read name (.mishap .notUtf8)
  /-- The document describes a value that does not exist. -/
  | trouble {bytes : ByteArray} {t : Yaml.Trouble} (h : read.Gives name bytes)
      (hyaml : Yaml.read (.ofBytes bytes) = .error t) (invalid : t ≠ .invalid)
      (notUtf8 : t ≠ .notUtf8) : Unread read name (.mishap (.yaml t))
  | noMapping {bytes : ByteArray} {value : Datum} (h : read.Gives name bytes)
      (hyaml : Yaml.read (.ofBytes bytes) = .ok value) (something : value.isTrue = true)
      (hvalue : ∀ entries, value ≠ .mapping entries) :
      Unread read name (.cause (.noMapping (Path.ofString name).text))
  /-- A key is too long to be written. -/
  | longKey {bytes : ByteArray} {entries : Entries} {e : Datum × Datum}
      (h : read.Gives name bytes) (hyaml : Yaml.read (.ofBytes bytes) = .ok (.mapping entries))
      (mem : e ∈ entries) (long : e.1.isLong = true) : Unread read name (.mishap .longNumber)
  | entries {bytes : ByteArray} {entries : Entries} {c : ConfigurationFault}
      (h : read.Gives name bytes) (hyaml : Yaml.read (.ofBytes bytes) = .ok (.mapping entries))
      (short : ∀ e ∈ entries, e.1.isLong = false) (hentries : ofEntries entries = .error c) :
      Unread read name (.cause c)

theorem ofFile_of_gives {bytes : ByteArray} (h : read.Gives name bytes) :
    ofFile read name = ofSource (Path.ofString name).text (.ofBytes bytes) := by
  unfold ofFile
  dsimp only
  rw [h.bytes]

theorem ofFile_of_refuses {r : Refusal} (h : read.Refuses name r) :
    ofFile read name = .error (.cause
      (.unreadableFile (Path.ofString name).text (r.message (Path.ofString name)))) := by
  unfold ofFile
  dsimp only
  rw [h.bytes]

theorem ofFile_of_zero (h : '\x00' ∈ name.toList) :
    ofFile read name = .error (.mishap .zeroInPath) := by
  unfold ofFile
  dsimp only
  rw [ReadFile.bytes_of_zero h]

theorem ofDatum_of_not_isTrue {value : Datum} (h : value.isTrue = false) (title : String) :
    ofDatum title value = .ok {} := by
  unfold ofDatum
  rw [if_neg (by simp [h]), ofEntries_nil]
  rfl

theorem ofDatum_mapping (title : String) (entries : Entries) :
    ofDatum title (.mapping entries) =
      if entries.any fun e ↦ e.1.isLong then .error (.mishap .longNumber)
      else (ofEntries entries).mapError .cause := by
  cases entries <;> rfl

theorem ofDatum_of_ne_mapping {value : Datum} (something : value.isTrue = true)
    (h : ∀ entries, value ≠ .mapping entries) (title : String) :
    ofDatum title value = .error (.cause (.noMapping title)) := by
  unfold ofDatum
  rw [if_pos something]
  split
  · exact absurd rfl (h _)
  · rfl

/-- What is wrong with the value of a file that can be read. -/
theorem unread_of_ofDatum {bytes : ByteArray} {value : Datum} {f : FileFault}
    (h : read.Gives name bytes) (hyaml : Yaml.read (.ofBytes bytes) = .ok value)
    (hf : ofDatum (Path.ofString name).text value = .error f) : Unread read name f := by
  by_cases mapping : ∃ entries, value = .mapping entries
  · obtain ⟨entries, rfl⟩ := mapping
    rw [ofDatum_mapping] at hf
    split_ifs at hf with hlong
    · obtain rfl := Except.error.inj hf
      obtain ⟨e, mem, long⟩ := List.any_eq_true.mp hlong
      exact .longKey h hyaml mem long
    · have short : ∀ e ∈ entries, e.1.isLong = false := by simpa using hlong
      rcases hentries : ofEntries entries with c | s
      · rw [hentries] at hf
        obtain rfl := Except.error.inj hf
        exact .entries h hyaml short hentries
      · rw [hentries] at hf
        cases hf
  · have hvalue : ∀ entries, value ≠ .mapping entries := by simpa using mapping
    by_cases something : value.isTrue = true
    · rw [ofDatum_of_ne_mapping something hvalue] at hf
      obtain rfl := Except.error.inj hf
      exact .noMapping h hyaml something hvalue
    · rw [ofDatum_of_not_isTrue (Bool.not_eq_true _ ▸ something)] at hf
      cases hf

/-- There are no other reasons. -/
theorem ofFile_eq_error_iff {f : FileFault} :
    ofFile read name = .error f ↔ Unread read name f := by
  constructor
  · intro hf
    rcases read.zero_or_refuses_or_gives name with zero | ⟨r, refuses⟩ | ⟨bytes, gives⟩
    · rw [ofFile_of_zero zero] at hf
      obtain rfl := Except.error.inj hf
      exact .zero zero
    · rw [ofFile_of_refuses refuses] at hf
      obtain rfl := Except.error.inj hf
      exact .refused refuses
    · rw [ofFile_of_gives gives, ofSource] at hf
      split at hf
      · exact unread_of_ofDatum gives ‹_› hf
      · obtain rfl := Except.error.inj hf
        exact .invalid gives ‹_›
      · obtain rfl := Except.error.inj hf
        exact .undecodable gives ‹_›
      · rename_i t invalid notUtf8 hyaml
        obtain rfl := Except.error.inj hf
        exact .trouble gives hyaml invalid notUtf8
  · intro h
    cases h with
    | zero h => exact ofFile_of_zero h
    | refused h => exact ofFile_of_refuses h
    | invalid h hyaml | undecodable h hyaml => rw [ofFile_of_gives h, ofSource, hyaml]
    | trouble h hyaml invalid notUtf8 =>
      rw [ofFile_of_gives h, ofSource, hyaml]
      split <;> simp_all
    | noMapping h hyaml something hvalue =>
      rw [ofFile_of_gives h, ofSource, hyaml]
      exact ofDatum_of_ne_mapping something hvalue _
    | @longKey bytes entries e h hyaml mem long =>
      have hlong : (entries.any fun e ↦ e.1.isLong) = true := List.any_eq_true.mpr ⟨e, mem, long⟩
      rw [ofFile_of_gives h, ofSource, hyaml]
      dsimp only
      rw [ofDatum_mapping, if_pos hlong]
    | @entries bytes entries c h hyaml short hentries =>
      have hshort : ¬(entries.any fun e ↦ e.1.isLong) = true := by simpa using short
      rw [ofFile_of_gives h, ofSource, hyaml]
      dsimp only
      rw [ofDatum_mapping, if_neg hshort, hentries]
      rfl

theorem exists_ofEntries_of_ofDatum {title : String} {value : Datum} {s : Settings}
    (h : ofDatum title value = .ok s) : ∃ entries, ofEntries entries = .ok s := by
  by_cases mapping : ∃ entries, value = .mapping entries
  · obtain ⟨entries, rfl⟩ := mapping
    rw [ofDatum_mapping] at h
    split_ifs at h
    rcases hentries : ofEntries entries with c | s'
    · rw [hentries] at h
      cases h
    · rw [hentries] at h
      obtain rfl := Except.ok.inj h
      exact ⟨entries, hentries⟩
  · have hvalue : ∀ entries, value ≠ .mapping entries := by simpa using mapping
    by_cases something : value.isTrue = true
    · rw [ofDatum_of_ne_mapping something hvalue] at h
      cases h
    · rw [ofDatum_of_not_isTrue (Bool.not_eq_true _ ▸ something)] at h
      obtain rfl := Except.ok.inj h
      exact ⟨[], ofEntries_nil⟩

theorem exists_ofEntries_of_ofFile {s : Settings} (h : ofFile read name = .ok s) :
    ∃ entries, ofEntries entries = .ok s := by
  rcases read.zero_or_refuses_or_gives name with zero | ⟨r, refuses⟩ | ⟨bytes, gives⟩
  · rw [ofFile_of_zero zero] at h
    cases h
  · rw [ofFile_of_refuses refuses] at h
    cases h
  · rw [ofFile_of_gives gives, ofSource] at h
    split at h
    · exact exists_ofEntries_of_ofDatum h
    · cases h
    · cases h
    · cases h

end DartBlock.Settings
