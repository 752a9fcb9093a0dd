import Mathlib.Data.Int.ModEq
import Quarry.Proofs.Text.Lowered

/-! A text in lower case holds only characters that are their own lower case form, so it stays as it is
when it is lowered again. -/
namespace Quarry.Text

section Runs

def CaseRun.firstImage (run : CaseRun) : Nat := (run.first + run.shift).toNat
def CaseRun.lastImage (run : CaseRun) : Nat := (run.last + run.shift).toNat

/-- Whether the images of a run lie beside another run, or between the code points that it maps, as
they do where capitals and small letters take turns. -/
def CaseRun.passes (run other : CaseRun) : Bool :=
  run.lastImage.blt other.first || other.last.blt run.firstImage ||
    ((run.first.beq run.last || (run.step % other.step).beq 0) &&
      !(run.firstImage % other.step).beq (other.first % other.step))

theorem CaseRun.image_eq (run : CaseRun) (n : Nat) (h : run.first ≤ n)
    (hshift : 0 ≤ run.first + run.shift) :
    (n + run.shift).toNat = run.firstImage + (n - run.first) := by
  rw [CaseRun.firstImage]
  omega

/-- A run maps no image of another one that passes it. -/
theorem CaseRun.not_holds_of_passes (run other : CaseRun) (hpasses : run.passes other = true)
    (hshift : 0 ≤ run.first + run.shift) (n : Nat) (hn : run.Holds n) :
    ¬other.Holds (n + run.shift).toNat := by
  rintro ⟨hfirst, hlast, hstep⟩
  have himage := run.image_eq n hn.first_le hshift
  have hleast : run.firstImage ≤ (n + run.shift).toNat := by omega
  have hmost : (n + run.shift).toNat ≤ run.lastImage := by
    have hle := hn.le_last
    rw [CaseRun.lastImage]
    omega
  simp only [CaseRun.passes, Bool.or_eq_true, Bool.and_eq_true, Nat.blt_eq, Nat.beq_eq,
    Bool.not_eq_true', ← Bool.not_eq_true] at hpasses
  rcases hpasses with (hbelow | habove) | ⟨hsteps, hbetween⟩
  · omega
  · omega
  · -- Counted in steps of the other run, all images stand where the first one does.
    have hdvd : other.step ∣ n - run.first := by
      rcases hsteps with hone | hmod
      · have heq : n = run.first := Nat.le_antisymm (hone ▸ hn.le_last) hn.first_le
        simp [heq]
      · exact (Nat.dvd_of_mod_eq_zero hmod).trans hn.step_dvd
    apply hbetween
    calc run.firstImage % other.step
        = (run.firstImage + (n - run.first)) % other.step := by
          rw [Nat.add_mod, Nat.mod_eq_zero_of_dvd hdvd, Nat.add_zero, Nat.mod_mod]
      _ = (n + run.shift).toNat % other.step := by rw [himage]
      _ = other.first % other.step := ((Nat.modEq_iff_dvd' hfirst).2 hstep).symm

/-- The capital I with a dot as a run of its own. The runs leave it out. -/
def dottedRun : CaseRun := ⟨dottedCapitalI.toNat, dottedCapitalI.toNat, 1, 0⟩

theorem lowerRuns_pass (run other : CaseRun) (hrun : run ∈ lowerRuns)
    (hother : other ∈ dottedRun :: lowerRuns) : run.passes other = true := by
  have hall : (lowerRuns.all fun run => (dottedRun :: lowerRuns).all run.passes) = true := by
    decide +kernel
  exact List.all_eq_true.1 (List.all_eq_true.1 hall run hrun) other hother

/-- What a letter is lowered to has no lower case form of its own. -/
theorem image?_image (n image : Nat) (h : CaseRun.image? lowerRuns n = some image) :
    CaseRun.image? lowerRuns image = none ∧ image ≠ dottedCapitalI.toNat := by
  obtain ⟨run, hrun, hn, rfl⟩ := exists_run_of_image? lowerRuns n image h
  have hfree (other : CaseRun) (hother : other ∈ dottedRun :: lowerRuns) :
      ¬other.Holds (n + run.shift).toNat := by
    have hleast := (lowerRuns_bounds run hrun).1
    exact run.not_holds_of_passes other (lowerRuns_pass run other hrun hother) (by omega) n hn
  constructor
  · rw [Option.eq_none_iff_forall_ne_some]
    intro further hfurther
    obtain ⟨other, hother, hholds, -⟩ := exists_run_of_image? lowerRuns _ further hfurther
    exact hfree other (List.mem_cons_of_mem _ hother) hholds
  · intro hdotted
    apply hfree dottedRun List.mem_cons_self
    rw [hdotted]
    exact ⟨Nat.le_refl _, Nat.le_refl _, Nat.one_dvd _⟩

end Runs

theorem isLowered_of_mem_lowerChar (c d : Char) (h : d ∈ lowerChar c) : IsLowered d := by
  rcases lowerChar_cases c d h with (rfl | rfl) | ⟨rfl, hself⟩ | himage
  · decide
  · decide
  · exact hself
  · obtain ⟨hnone, hdotted⟩ := image?_image c.toNat d.toNat himage
    have hother : d ≠ dottedCapitalI := fun heq => hdotted (congrArg Char.toNat heq)
    rw [IsLowered, lowerChar, if_neg hother, hnone]
    rfl

theorem isLowered_of_mem_lowerFrom (afterCased : Bool) (text : Text) (d : Char)
    (h : d ∈ lowerFrom afterCased text) : IsLowered d := by
  rcases exists_of_mem_lowerFrom afterCased text d h with (rfl | rfl) | ⟨c, -, hd⟩
  · decide
  · decide
  · exact isLowered_of_mem_lowerChar c d hd

/-- A text is left as it is just if each of its characters is. -/
theorem lower_eq_self_iff (text : Text) : lower text = text ↔ ∀ c ∈ text, IsLowered c := by
  constructor
  · intro h c hc
    rw [← h] at hc
    exact isLowered_of_mem_lowerFrom false text c hc
  · exact lowerFrom_of_isLowered false text

end Quarry.Text
