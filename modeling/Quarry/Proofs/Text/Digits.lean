import Quarry.Text.Digit

/-! The decimal digits of a number are digits of ASCII. -/
namespace Quarry.Text

section

variable (n : Nat) (c : Char)

theorem digitValue?_of_ascii (h : c.isDigit = true) : digitValue? c = some (c.toNat - '0'.toNat) := by
  have hrange : 0x30 ≤ c.toNat ∧ c.toNat ≤ 0x39 := by
    simp only [Char.isDigit, Bool.and_eq_true, decide_eq_true_eq, ge_iff_le,
      UInt32.le_iff_toNat_le] at h
    exact h
  -- The digits of ASCII are the first ones that are tried.
  simp [digitValue?, digitZeros, hrange]

theorem isDigit_of_ascii (h : c.isDigit = true) : isDigit c = true := by
  rw [isDigit, digitValue?_of_ascii c h, Option.isSome_some]

theorem isAsciiDigit_of_mem_ofNat (h : c ∈ ofNat n) : c.isDigit = true :=
  Nat.isDigit_of_mem_toDigits (by decide) (by decide) h

theorem isDigit_of_mem_ofNat (h : c ∈ ofNat n) : isDigit c = true :=
  isDigit_of_ascii c (isAsciiDigit_of_mem_ofNat n c h)

theorem ofNat_ne_nil : ofNat n ≠ [] := Nat.toDigits_ne_nil

end

end Quarry.Text
