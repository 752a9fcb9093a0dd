import Mathlib.Tactic.SplitIfs
import Quarry.Proofs.Number.Decimal
import Quarry.Proofs.Reported
import Quarry.Settings

/-! Which settings are accepted, and what the environment makes of the values that it holds. -/
namespace Quarry

/-- A fault of validation. -/
def Fault.IsInvalid (fault : Fault) : Prop :=
  ∃ failure, fault.failure? = some failure ∧ failure.kind = .validation

theorem Fault.isReported_of_isInvalid (fault : Fault) (h : fault.IsInvalid) : fault.IsReported := by
  obtain ⟨failure, hfailure, hkind⟩ := h
  exact ⟨failure, hfailure, .inl hkind⟩

namespace Settings

/-- No settings are reached, for what was given is invalid. -/
def Refused (route : Except Fault Settings) : Prop := ∃ fault, route = .error fault ∧ fault.IsInvalid

section

variable (spelling : Text) (fileSize jsonSize : Int)

/-- Settings from a text and two numbers, refused for the first of them that will not do. -/
theorem make_eq :
    make (.text spelling) (.int fileSize) (.int jsonSize) =
      if Text.isBlank spelling then .error .emptyBaseDir
      else if fileSize ≤ 0 then
        .error (.sizeNotPositive "max_file_size".toList (.int fileSize))
      else if jsonSize ≤ 0 then
        .error (.sizeNotPositive "max_json_size".toList (.int jsonSize))
      else .ok ⟨.ofText spelling, fileSize.toNat, jsonSize.toNat⟩ := by
  have hsize (name : Text) (n : Int) : size name (.int n) =
      if n ≤ 0 then .error (.sizeNotPositive name (.int n)) else .ok n.toNat := by
    rw [size]
    by_cases hn : 0 < n
    · rw [if_pos hn, if_neg (Int.not_le.2 hn)]
    · rw [if_neg hn, if_pos (Int.not_lt.1 hn)]
  rw [make, directory, hsize, hsize]
  by_cases hblank : Text.isBlank spelling = true
  · rw [if_pos hblank, if_pos hblank]
    rfl
  · rw [if_neg hblank, if_neg hblank]
    by_cases hfile : fileSize ≤ 0
    · rw [if_pos hfile, if_pos hfile]
      rfl
    · rw [if_neg hfile, if_neg hfile]
      by_cases hjson : jsonSize ≤ 0
      · rw [if_pos hjson, if_pos hjson]
        rfl
      · rw [if_neg hjson, if_neg hjson]
        rfl

theorem make_eq_ok (settings : Settings) :
    make (.text spelling) (.int fileSize) (.int jsonSize) = .ok settings ↔
      Text.isBlank spelling = false ∧ 0 < fileSize ∧ 0 < jsonSize ∧
        settings = ⟨.ofText spelling, fileSize.toNat, jsonSize.toNat⟩ := by
  rw [make_eq]
  split_ifs with hblank hfile hjson
  · simp [hblank]
  · simp [Int.not_lt.2 hfile]
  · simp [Int.not_lt.2 hjson]
  · simp [hblank, Int.not_le.1 hfile, Int.not_le.1 hjson, eq_comm]

theorem make_invalid (fault : Fault)
    (h : make (.text spelling) (.int fileSize) (.int jsonSize) = .error fault) :
    fault.IsInvalid := by
  rw [make_eq] at h
  split_ifs at h
  · exact Except.error.inj h ▸ ⟨_, rfl, rfl⟩
  · exact Except.error.inj h ▸ ⟨_, rfl, rfl⟩
  · exact Except.error.inj h ▸ ⟨_, rfl, rfl⟩

theorem make_reported (fault : Fault)
    (h : make (.text spelling) (.int fileSize) (.int jsonSize) = .error fault) :
    fault.IsReported :=
  fault.isReported_of_isInvalid (make_invalid spelling fileSize jsonSize fault h)

theorem refused_make_iff : Refused (make (.text spelling) (.int fileSize) (.int jsonSize)) ↔
    Text.isBlank spelling = true ∨ fileSize ≤ 0 ∨ jsonSize ≤ 0 := by
  rw [make_eq]
  split_ifs with hblank hfile hjson
  · exact iff_of_true ⟨_, rfl, _, rfl, rfl⟩ (.inl hblank)
  · exact iff_of_true ⟨_, rfl, _, rfl, rfl⟩ (.inr (.inl hfile))
  · exact iff_of_true ⟨_, rfl, _, rfl, rfl⟩ (.inr (.inr hjson))
  · simp [Refused, hblank, hfile, hjson]

/-- Settings that are accepted hold what was given. -/
theorem values_of_make (settings : Settings)
    (h : make (.text spelling) (.int fileSize) (.int jsonSize) = .ok settings) :
    settings.baseDir = .ofText spelling ∧ settings.maxFileSize = fileSize ∧
      settings.maxJsonSize = jsonSize := by
  obtain ⟨-, hfile, hjson, rfl⟩ := (make_eq_ok spelling fileSize jsonSize settings).1 h
  exact ⟨rfl, Int.toNat_of_nonneg (Int.le_of_lt hfile), Int.toNat_of_nonneg (Int.le_of_lt hjson)⟩

end

end Settings

namespace Environment

theorem int_reported (environment : Environment) (name : Text) (default : Nat) (fault : Fault)
    (h : environment.int name default = .error fault) : fault.IsReported := by
  unfold int at h
  split at h
  · cases h
  · split at h
    · cases h
    · obtain rfl := Except.error.inj h
      exact ⟨_, rfl, Or.inl rfl⟩

theorem configuration_reported (environment : Environment) (fault : Fault)
    (h : environment.configuration = .error fault) : fault.IsReported := by
  simp only [configuration, settings, bind, Except.bind] at h
  cases hfile : environment.int "MAX_FILE_SIZE".toList Settings.defaultMaxFileSize with
  | error other =>
    simp only [hfile, Except.error.injEq] at h
    exact h ▸ int_reported environment _ _ other hfile
  | ok fileSize =>
    cases hjson : environment.int "MAX_JSON_SIZE".toList Settings.defaultMaxJsonSize with
    | error other =>
      simp only [hfile, hjson, Except.error.injEq] at h
      exact h ▸ int_reported environment _ _ other hjson
    | ok jsonSize =>
      simp only [hfile, hjson] at h
      split at h
      · rename_i other hmake
        exact Except.error.inj h ▸ Settings.make_reported _ _ _ other hmake
      · cases h

/-- The variables of the settings hold a directory and two sizes in decimal digits. -/
structure Holds (environment : Environment) (spelling : Text) (fileSize jsonSize : Int) : Prop where
  baseDir : environment.lookup "KNOWLEDGE_BASE_PATH".toList = some spelling
  maxFileSize : environment.lookup "MAX_FILE_SIZE".toList = some (Text.ofInt fileSize)
  maxJsonSize : environment.lookup "MAX_JSON_SIZE".toList = some (Text.ofInt jsonSize)

theorem int_of_lookup (environment : Environment) (name : Text) (default : Nat) (n : Int)
    (hn : Integer.IsWritable n) (h : environment.lookup name = some (Text.ofInt n)) :
    environment.int name default = .ok n := by
  simp only [int, h, Integer.read?_ofInt n hn]

/-- The environment that holds these values and nothing else. -/
def holding (spelling : Text) (fileSize jsonSize : Int) : Environment :=
  [("KNOWLEDGE_BASE_PATH".toList, spelling), ("MAX_FILE_SIZE".toList, Text.ofInt fileSize),
   ("MAX_JSON_SIZE".toList, Text.ofInt jsonSize)]

theorem holds_holding (spelling : Text) (fileSize jsonSize : Int) :
    (holding spelling fileSize jsonSize).Holds spelling fileSize jsonSize :=
  ⟨rfl, rfl, rfl⟩

/-- The directory of the environment is taken as a path before it is checked. -/
theorem settings_of_holds (environment : Environment) (spelling : Text) (fileSize jsonSize : Int)
    (h : environment.Holds spelling fileSize jsonSize) (hfile : Integer.IsWritable fileSize)
    (hjson : Integer.IsWritable jsonSize) :
    environment.settings =
      Settings.make (.text (Path.ofText spelling).text) (.int fileSize) (.int jsonSize) := by
  have hfileSize := int_of_lookup environment _ Settings.defaultMaxFileSize fileSize hfile
    h.maxFileSize
  have hjsonSize := int_of_lookup environment _ Settings.defaultMaxJsonSize jsonSize hjson
    h.maxJsonSize
  rw [settings, h.baseDir, Option.getD_some, hfileSize, hjsonSize]
  rfl

end Environment
end Quarry
