import Quarry.Proofs.Policy.Lists
import Quarry.Proofs.Policy.Spelling
import Quarry.Proofs.Text.LoweredTwice

/-! Keys in normal form. To normalize a key gives such a key and leaves it as it is the second time,
so the policy judges a key by its normal form alone. -/
namespace Quarry.Policy

/-- A key without dashes in which every character is its own lower case form, so that no capital
starts a word. -/
structure IsNormal (key : Text) : Prop where
  noDash : '-' ∉ key
  lowered : ∀ c ∈ key, Text.IsLowered c

theorem isUpper_eq_false_of_isLowered (c : Char) (h : Text.IsLowered c) : c.isUpper = false := by
  by_contra hupper
  rw [Bool.not_eq_false] at hupper
  have hascii : c.toNat < 128 := by
    simp only [Char.isUpper, decide_eq_true_eq, ge_iff_le, UInt32.le_iff_toNat_le] at hupper
    have hc : c.val.toNat = c.toNat := rfl
    have hz : 'Z'.val.toNat = 90 := rfl
    omega
  have hother : c.isUpper = true → Text.lowerChar c ≠ [c] :=
    Text.of_ascii (motive := fun c => c.isUpper = true → Text.lowerChar c ≠ [c])
      (by decide +kernel) c hascii
  exact hother hupper h

theorem dash_notMem_map (key : Text) : '-' ∉ key.map fun c => if c = '-' then '_' else c := by
  intro hdash
  obtain ⟨c, -, hc⟩ := List.mem_map.1 hdash
  by_cases heq : c = '-'
  · rw [if_pos heq] at hc
    exact absurd hc (by decide)
  · rw [if_neg heq] at hc
    exact heq hc

/-- A key is lowered last, so it holds no capitals, and no form of a letter brings a dash back. -/
theorem isNormal_normalize (key : Text) : IsNormal (normalize key) where
  noDash := by
    intro hdash
    rcases Text.mem_lowerFrom false _ '-' hdash with hmem | hletter
    · exact dash_notMem_map _ hmem
    · exact absurd hletter (by decide)
  lowered c hc := Text.isLowered_of_mem_lowerFrom false _ c hc

theorem normalize_of_isNormal (key : Text) (h : IsNormal key) : normalize key = key := by
  have hwords : separateWords key = key := by
    apply separateWords_of_tail
    intro c hc
    exact isUpper_eq_false_of_isLowered c (h.lowered c (List.mem_of_mem_tail hc))
  rw [normalize, hwords, map_of_dash_notMem key h.noDash]
  exact (Text.lower_eq_self_iff key).2 h.lowered

theorem normalize_normalize (key : Text) : normalize (normalize key) = normalize key :=
  normalize_of_isNormal _ (isNormal_normalize key)

theorem normalize_eq_self_iff (key : Text) : normalize key = key ↔ IsNormal key :=
  ⟨fun h => h ▸ isNormal_normalize key, normalize_of_isNormal key⟩

/-- A normal form is left as it is, and so are no keys but those in normal form. Every policy judges a
key as it judges the normal form, and keeps an allowed key in all its spellings, whatever is
denied. -/
theorem judged_by_normalForm :
    (∀ key, normalize (normalize key) = normalize key) ∧
    (∀ key, normalize key = key ↔ IsNormal key) ∧
    (∀ (policy : Policy) key, policy.keepsKey key = policy.keepsKey (normalize key)) ∧
    ∀ allow deny policy, standardWith allow deny = .ok policy →
      ∀ allowed ∈ proseKeys ++ allow, ∀ key, normalize key = normalize allowed →
        policy.keepsKey key = true := by
  refine ⟨normalize_normalize, normalize_eq_self_iff, ?_, ?_⟩
  · intro policy key
    rw [keepsKey, keepsKey, normalize_normalize]
  · intro allow deny policy hpolicy allowed hallowed key hkey
    apply keepsKey_of_allowed
    rw [hkey, allowed_of_standardWith allow deny policy hpolicy]
    exact List.mem_map_of_mem hallowed

/-- Capitals of three kinds: a sigma at the end of a word, one that is lowered to two characters, and
the Kelvin sign. Keys that start or end like this one are denied. -/
theorem judged_by_normalForm_kelvin :
    let allow : List Text := ["ΟΔΟΣ-İ-\u212Aey".toList]
    let deny : List Text := ["^οδος".toList]
    let key : Text := "ΟΔΟΣ_İ_KEY".toList
    normalize key = "οδος_i\u0307_key".toList ∧ Policy.standard.keepsKey key = false ∧
    ∃ policy, standardWith allow deny = .ok policy ∧ policy.keepsKey key = true ∧
      policy.keepsKey (normalize key) = true := by
  intro allow deny key
  have hkey : normalize key = "οδος_i\u0307_key".toList := by decide +kernel
  have hallowed : normalize "ΟΔΟΣ-İ-\u212Aey".toList = "οδος_i\u0307_key".toList := by
    decide +kernel
  have hdenied : Policy.standard.keepsKey key = false := by decide +kernel
  have hread : deny.mapM Pattern.read =
      .ok [.sequence (.start :: "οδος".toList.map fun c => .one (.only c))] := by cbv
  have hpolicy := (standardWith_eq_ok allow deny _).2 ⟨_, hread, rfl⟩
  obtain ⟨-, -, hjudged, hkept⟩ := judged_by_normalForm
  have hkeeps := hkept allow deny _ hpolicy "ΟΔΟΣ-İ-\u212Aey".toList
    (List.mem_append_right _ List.mem_cons_self) key (hkey.trans hallowed.symm)
  exact ⟨hkey, hdenied, _, hpolicy, hkeeps, (hjudged _ key).symm.trans hkeeps⟩

end Quarry.Policy
