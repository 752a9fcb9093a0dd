import Quarry.Proofs.Text.Pieces
import Quarry.Text.Case

/-! Lower case text by its pieces. A space is no letter, so the letters beside it are lowered as at
the end and at the start of a text, and no letter is lowered to a space. -/
namespace Quarry.Text

/-- What can be checked of the characters of ASCII one by one holds of all of them. -/
theorem of_ascii {motive : Char → Prop} (h : ∀ n < 128, motive (Char.ofNat n)) (c : Char)
    (hc : c.toNat < 128) : motive c := by
  have hmotive := h c.toNat hc
  rwa [Char.ofNat_toNat] at hmotive

/-- The code points that a run maps. -/
structure CaseRun.Holds (run : CaseRun) (n : Nat) : Prop where
  first_le : run.first ≤ n
  le_last : n ≤ run.last
  step_dvd : run.step ∣ n - run.first

theorem exists_run_of_image? (runs : List CaseRun) (n image : Nat)
    (h : CaseRun.image? runs n = some image) :
    ∃ run ∈ runs, run.Holds n ∧ image = (n + run.shift).toNat := by
  induction runs with
  | nil => simp [CaseRun.image?] at h
  | cons run others ih =>
    rw [CaseRun.image?] at h
    by_cases hbelow : n < run.first
    · simp [hbelow] at h
    by_cases hwithin : n ≤ run.last
    · rw [if_neg hbelow, if_pos hwithin, Option.ite_none_right_eq_some] at h
      have hholds : run.Holds n := ⟨by omega, hwithin, Nat.dvd_of_mod_eq_zero h.1⟩
      exact ⟨run, by simp, hholds, (Option.some.inj h.2).symm⟩
    · rw [if_neg hbelow, if_neg hwithin] at h
      obtain ⟨other, hother, hfacts⟩ := ih h
      exact ⟨other, by simp [hother], hfacts⟩

/-- No run has an image in front of the small a, and none reaches into the surrogates. -/
theorem lowerRuns_bounds : ∀ run ∈ lowerRuns, (97 : Int) ≤ run.first + run.shift ∧
    (run.last + run.shift < 0xD800 ∨
      0xDFFF < run.first + run.shift ∧ run.last + run.shift < 0x110000) := by
  decide +kernel

/-- Letters are lowered to characters, of which the small a comes first. -/
theorem lowerRuns_image (n image : Nat) (h : CaseRun.image? lowerRuns n = some image) :
    'a'.toNat ≤ image ∧ image.isValidChar := by
  obtain ⟨run, hrun, ⟨hfirst, hlast, -⟩, rfl⟩ := exists_run_of_image? lowerRuns n image h
  obtain ⟨hleast, hvalid⟩ := lowerRuns_bounds run hrun
  have ha : 'a'.toNat = 97 := rfl
  refine ⟨by omega, ?_⟩
  rw [Nat.isValidChar]
  omega

/-- A character is lowered to the parts of a capital I with a dot, to itself or to its image. -/
theorem lowerChar_cases (c d : Char) (h : d ∈ lowerChar c) :
    (d = 'i' ∨ d = Char.ofNat 0x307) ∨ (d = c ∧ lowerChar c = [c]) ∨
      CaseRun.image? lowerRuns c.toNat = some d.toNat := by
  rw [lowerChar] at h ⊢
  by_cases hdotted : c = dottedCapitalI
  · rw [if_pos hdotted, List.mem_cons, List.mem_singleton] at h
    exact .inl h
  rw [if_neg hdotted, List.mem_singleton] at h
  rw [if_neg hdotted]
  cases himage : CaseRun.image? lowerRuns c.toNat with
  | none =>
    rw [himage] at h
    exact .inr (.inl ⟨h, rfl⟩)
  | some image =>
    rw [himage] at h
    obtain rfl : d = Char.ofNat image := h
    obtain ⟨-, hvalid⟩ := lowerRuns_image c.toNat image himage
    have hvalue : (Char.ofNat image).toNat = image := by
      rw [Char.ofNat, dif_pos hvalid]
      rfl
    exact .inr (.inr (by rw [hvalue]))

theorem mem_lowerChar (c d : Char) (h : d ∈ lowerChar c) : d = c ∨ 'a'.toNat ≤ d.toNat := by
  rcases lowerChar_cases c d h with (rfl | rfl) | ⟨rfl, -⟩ | himage
  · exact .inr (by decide)
  · exact .inr (by decide)
  · exact .inl rfl
  · exact .inr (lowerRuns_image c.toNat d.toNat himage).1

/-- A character that is its own lower case form. -/
def IsLowered (c : Char) : Prop := lowerChar c = [c]

instance (c : Char) : Decidable (IsLowered c) := inferInstanceAs (Decidable (lowerChar c = [c]))

theorem IsLowered.ne_capitalSigma {c : Char} (h : IsLowered c) : c ≠ capitalSigma := by
  rintro rfl
  exact absurd h (by decide)

theorem lowerChar_ne_nil (c : Char) : lowerChar c ≠ [] := by
  rw [lowerChar]
  by_cases hdotted : c = dottedCapitalI
  · simp [hdotted]
  · simp [hdotted]

section

variable (afterCased : Bool)

theorem lowerFrom_ne_nil (text : Text) (h : text ≠ []) : lowerFrom afterCased text ≠ [] := by
  cases text with
  | nil => exact absurd rfl h
  | cons c rest =>
    rw [lowerFrom]
    by_cases hsigma : c = capitalSigma
    · simp [hsigma]
    · simp [hsigma, lowerChar_ne_nil c]

theorem lowerFrom_eq_map (text : Text) (form : Char → Char)
    (h : ∀ c ∈ text, c ≠ capitalSigma ∧ lowerChar c = [form c]) :
    lowerFrom afterCased text = text.map form := by
  induction text generalizing afterCased with
  | nil => rfl
  | cons c rest ih =>
    obtain ⟨hsigma, hform⟩ := h c List.mem_cons_self
    rw [lowerFrom, if_neg hsigma, hform, ih _ fun d hd => h d (List.mem_cons_of_mem _ hd)]
    rfl

theorem lowerFrom_of_isLowered (text : Text) (h : ∀ c ∈ text, IsLowered c) :
    lowerFrom afterCased text = text := by
  rw [lowerFrom_eq_map afterCased text id fun c hc => ⟨(h c hc).ne_capitalSigma, h c hc⟩,
    List.map_id]

theorem lowerFrom_ascii (text : Text) (h : ∀ c ∈ text, c.toNat < 128) :
    lowerFrom afterCased text = text.map Char.toLower := by
  apply lowerFrom_eq_map
  intro c hc
  exact of_ascii (motive := fun c => c ≠ capitalSigma ∧ lowerChar c = [c.toLower])
    (by decide +kernel) c (h c hc)

/-- Whatever a lowered text holds is a form of the sigma or comes from one of the characters. -/
theorem exists_of_mem_lowerFrom (text : Text) (d : Char) (h : d ∈ lowerFrom afterCased text) :
    (d = finalSigma ∨ d = innerSigma) ∨ ∃ c ∈ text, d ∈ lowerChar c := by
  induction text generalizing afterCased with
  | nil => cases h
  | cons c rest ih =>
    rw [lowerFrom, List.mem_append] at h
    rcases h with h | h
    · by_cases hsigma : c = capitalSigma
      · rw [if_pos hsigma, List.mem_singleton] at h
        rw [h]
        left
        split
        · exact .inl rfl
        · exact .inr rfl
      · rw [if_neg hsigma] at h
        exact .inr ⟨c, List.mem_cons_self, h⟩
    · exact (ih _ h).imp_right fun ⟨e, he, hd⟩ => ⟨e, List.mem_cons_of_mem _ he, hd⟩

/-- No character but letters comes into a text when it is lowered. -/
theorem mem_lowerFrom (text : Text) (d : Char) (h : d ∈ lowerFrom afterCased text) :
    d ∈ text ∨ 'a'.toNat ≤ d.toNat := by
  rcases exists_of_mem_lowerFrom afterCased text d h with (rfl | rfl) | ⟨c, hc, hd⟩
  · exact .inr (by decide)
  · exact .inr (by decide)
  · exact (mem_lowerChar c d hd).imp_left fun (heq : d = c) => heq ▸ hc

end

theorem space_notMem_lower (text : Text) (h : ' ' ∉ text) : ' ' ∉ lower text := by
  intro hspace
  rcases mem_lowerFrom false text ' ' hspace with hmem | hletter
  · exact h hmem
  · exact absurd hletter (by decide)

/-- No cased letter comes next across a space. -/
theorem startsCased_space (before after : Text) :
    startsCased (before ++ ' ' :: after) = startsCased before := by
  have hspace : isCaseIgnorable ' ' = false := by decide
  have hcased : isCased ' ' = false := by decide
  rw [startsCased, startsCased, List.dropWhile_append]
  cases before.dropWhile isCaseIgnorable with
  | nil => simp [hspace, hcased]
  | cons c rest => rfl

theorem lowerFrom_cons_space (afterCased : Bool) (rest : Text) :
    lowerFrom afterCased (' ' :: rest) = ' ' :: lower rest := by
  have hspace : isCaseIgnorable ' ' = false := by decide
  have hcased : isCased ' ' = false := by decide
  have hlower : lowerChar ' ' = [' '] := by decide
  have hsigma : ' ' ≠ capitalSigma := by decide
  rw [lowerFrom, if_neg hsigma, hlower, hspace, hcased]
  rfl

theorem lowerFrom_space (afterCased : Bool) (before after : Text) :
    lowerFrom afterCased (before ++ ' ' :: after) =
      lowerFrom afterCased before ++ ' ' :: lower after := by
  induction before generalizing afterCased with
  | nil => exact lowerFrom_cons_space afterCased after
  | cons c before ih =>
    rw [List.cons_append, lowerFrom, startsCased_space, ih, lowerFrom, List.append_assoc]

theorem lower_joined (pieces : List Text) :
    lower (joined [' '] pieces) = joined [' '] (pieces.map lower) := by
  induction pieces with
  | nil => rfl
  | cons piece pieces ih =>
    by_cases hlast : pieces = []
    · subst hlast
      simp [joined]
    · have hmap : pieces.map lower ≠ [] := by simpa using hlast
      rw [List.map_cons, joined_cons _ _ _ hlast, joined_cons _ _ _ hmap, ← ih,
        List.append_assoc, List.append_assoc, List.singleton_append, List.singleton_append]
      exact lowerFrom_space false piece _

end Quarry.Text
