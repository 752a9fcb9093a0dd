import Mathlib.Data.List.TakeWhile
import Quarry.Policy
import Quarry.Proofs.Text.Digits

/-! The key that the policy judges a path by: it stands behind the last dot, and the indices at the
end of the path are no part of it. -/
namespace Quarry

namespace Policy

theorem dropIndices_index (digits rest : Text) (hdigits : ∀ c ∈ digits, Text.isDigit c = true)
    (hn : digits ≠ []) : dropIndices (']' :: (digits ++ '[' :: rest)) = dropIndices rest := by
  have hbefore : (digits ++ '[' :: rest).dropWhile Text.isDigit = '[' :: rest := by
    have hbracket : Text.isDigit '[' = false := by decide
    rw [List.dropWhile_append_of_pos hdigits]
    simp [hbracket]
  have hshorter : ((digits ++ '[' :: rest).dropWhile Text.isDigit).length <
      (digits ++ '[' :: rest).length := by
    have hpos := List.length_pos_iff.2 hn
    rw [hbefore, List.length_append]
    omega
  -- The rest comes with a proof that it is shorter, so it is compared without that proof.
  have hindex : (dropIndex? (']' :: (digits ++ '[' :: rest))).map Subtype.val = some rest := by
    unfold dropIndex?
    simp only
    split
    · rename_i others hothers
      rw [if_pos hshorter]
      rw [hbefore] at hothers
      exact congrArg some (List.cons.inj hothers).2.symm
    · rename_i hnone
      exact absurd hbefore (hnone rest)
  rw [dropIndices]
  split
  · rename_i hnone
    rw [hnone] at hindex
    cases hindex
  · rename_i others hothers hsome
    rw [hsome] at hindex
    obtain rfl : others = rest := Option.some.inj hindex
    rfl

theorem keyName_behind (before rest : Text) : keyName (before ++ '.' :: rest) = keyName rest := by
  -- Read backwards, the text in front of the dot comes last.
  have hsegment : (before ++ '.' :: rest).reverse.takeWhile (· != '.') =
      rest.reverse.takeWhile (· != '.') := by
    have hreverse : (before ++ '.' :: rest).reverse = rest.reverse ++ '.' :: before.reverse := by
      simp
    rw [hreverse, List.takeWhile_append]
    split
    · rename_i hall
      rw [(List.takeWhile_prefix _).eq_of_length hall]
      simp
    · rfl
  rw [keyName, keyName, hsegment]

/-- A segment that does not end in a line feed loses the indices at its end. -/
theorem withoutIndices_eq (segment : Text) (h : '\n' ∉ segment) :
    withoutIndices segment = (dropIndices segment.reverse).reverse := by
  unfold withoutIndices
  split
  · rename_i reversed hreversed
    have hmem : '\n' ∈ segment.reverse := by simp [hreversed]
    exact absurd (List.mem_reverse.1 hmem) h
  · rfl

/-- Whether a text ends in an array index. -/
def EndsInIndex (text : Text) : Prop :=
  ∃ before digits, digits ≠ [] ∧ (∀ c ∈ digits, Text.isDigit c = true) ∧
    text = before ++ '[' :: (digits ++ [']'])

/-- Whether a text ends in an array index and one line feed behind it. -/
def HidesIndex (text : Text) : Prop := ∃ inner, EndsInIndex inner ∧ text = inner ++ ['\n']

/-- What it is to shorten keys to what follows their last dot, without the indices at the end. Nothing
is said of an index in front of a line feed at the end. -/
structure Shortens (name : Text → Text) : Prop where
  behindDot : ∀ before key, name (before ++ '.' :: key) = name key
  withoutIndex : ∀ key digits, digits ≠ [] → (∀ c ∈ digits, Text.isDigit c = true) →
    ¬HidesIndex key → name (key ++ '[' :: (digits ++ [']'])) = name key
  plain : ∀ key, '.' ∉ key → ¬EndsInIndex key → ¬HidesIndex key → name key = key

theorem endsInIndex_behind (before text : Text) (h : EndsInIndex text) :
    EndsInIndex (before ++ text) := by
  obtain ⟨inner, digits, hn, hdigits, rfl⟩ := h
  exact ⟨before ++ inner, digits, hn, hdigits, by simp⟩

theorem hidesIndex_behind (before text : Text) (h : HidesIndex text) :
    HidesIndex (before ++ text) := by
  obtain ⟨inner, hinner, rfl⟩ := h
  exact ⟨before ++ inner, endsInIndex_behind before inner hinner, by simp⟩

theorem exists_digits_of_dropIndex? (reversed : Text)
    (rest : { rest : Text // rest.length < reversed.length })
    (h : dropIndex? reversed = some rest) :
    ∃ digits, digits ≠ [] ∧ (∀ c ∈ digits, Text.isDigit c = true) ∧
      reversed = ']' :: (digits ++ '[' :: rest.val) := by
  unfold dropIndex? at h
  split at h
  · rename_i inner
    simp only at h
    split at h
    · rename_i others hothers
      split at h
      · rename_i hshorter
        obtain rfl := Option.some.inj h
        have hinner := List.takeWhile_append_dropWhile (p := Text.isDigit) (l := inner)
        refine ⟨inner.takeWhile Text.isDigit, ?_, ?_, ?_⟩
        · intro hnil
          rw [hnil, List.nil_append] at hinner
          rw [hinner] at hshorter
          exact absurd hshorter (Nat.lt_irrefl _)
        · intro c hc
          exact List.all_eq_true.1 List.all_takeWhile c hc
        · rw [← hothers, hinner]
      · cases h
    · cases h
  · cases h

theorem dropIndices_of_not_endsInIndex (text : Text) (h : ¬EndsInIndex text) :
    dropIndices text.reverse = text.reverse := by
  rw [dropIndices]
  split
  · rfl
  · rename_i rest hrest hsome
    obtain ⟨digits, hn, hdigits, hreverse⟩ := exists_digits_of_dropIndex? _ _ hsome
    refine absurd ⟨rest.reverse, digits.reverse, by simpa using hn, by simpa using hdigits, ?_⟩ h
    simpa using congrArg List.reverse hreverse

theorem not_hidesIndex_of_index (before digits : Text) :
    ¬HidesIndex (before ++ '[' :: (digits ++ [']'])) := by
  rintro ⟨inner, -, h⟩
  have hreverse := congrArg List.reverse h
  simp at hreverse

theorem withoutIndices_of_plain (segment : Text) (hindex : ¬EndsInIndex segment)
    (hhidden : ¬HidesIndex segment) : withoutIndices segment = segment := by
  have hplain := dropIndices_of_not_endsInIndex segment hindex
  unfold withoutIndices
  split
  · rename_i reversed hreversed
    have hsegment : segment = reversed.reverse ++ ['\n'] := by
      rw [← List.reverse_reverse segment, hreversed, List.reverse_cons]
    have hinner : ¬EndsInIndex reversed.reverse := fun h => hhidden ⟨_, h, hsegment⟩
    have hdrop := dropIndices_of_not_endsInIndex reversed.reverse hinner
    rw [List.reverse_reverse] at hdrop
    rw [hdrop, hsegment, List.reverse_cons]
  · rw [hplain, List.reverse_reverse]

theorem withoutIndices_index (segment digits : Text) (hn : digits ≠ [])
    (hdigits : ∀ c ∈ digits, Text.isDigit c = true) (hhidden : ¬HidesIndex segment) :
    withoutIndices (segment ++ '[' :: (digits ++ [']'])) = withoutIndices segment := by
  have hreverse : (segment ++ '[' :: (digits ++ [']'])).reverse =
      ']' :: (digits.reverse ++ '[' :: segment.reverse) := by simp
  have hwhole : withoutIndices (segment ++ '[' :: (digits ++ [']'])) =
      (dropIndices segment.reverse).reverse := by
    rw [withoutIndices, hreverse]
    exact congrArg List.reverse
      (dropIndices_index digits.reverse segment.reverse (by simpa using hdigits) (by simpa using hn))
  by_cases hindex : EndsInIndex segment
  · -- Then no line feed is at the end, and nothing else is to be told apart.
    obtain ⟨before, inner, -, -, rfl⟩ := hindex
    rw [hwhole, withoutIndices]
    simp
  · rw [hwhole, dropIndices_of_not_endsInIndex segment hindex, List.reverse_reverse,
      withoutIndices_of_plain segment hindex hhidden]

/-- The last segment of a key is what the key is shortened by, whatever comes behind it. -/
theorem exists_segment (key : Text) : ∃ before segment, key = before ++ segment ∧
    ∀ tail, '.' ∉ tail → keyName (key ++ tail) = withoutIndices (segment ++ tail) := by
  refine ⟨(key.reverse.dropWhile (· != '.')).reverse, (key.reverse.takeWhile (· != '.')).reverse,
    ?_, fun tail htail => ?_⟩
  · rw [← List.reverse_append, List.takeWhile_append_dropWhile, List.reverse_reverse]
  · have hall : ∀ c ∈ tail.reverse, (c != '.') = true := by
      intro c hc
      have hne : c ≠ '.' := by
        rintro rfl
        exact htail (List.mem_reverse.1 hc)
      simpa using hne
    rw [keyName, List.reverse_append, List.takeWhile_append_of_pos hall, List.reverse_append,
      List.reverse_reverse]

theorem shortens_keyName : Shortens keyName where
  behindDot := keyName_behind
  withoutIndex := by
    intro key digits hn hdigits hhidden
    obtain ⟨before, segment, hkey, hsegment⟩ := exists_segment key
    have hdot : '.' ∉ '[' :: (digits ++ [']']) := by
      intro hmem
      have hdigit : '.' ∈ digits := by simpa using hmem
      exact absurd (hdigits '.' hdigit) (by decide)
    have hinner : ¬HidesIndex segment := fun h => hhidden (hkey ▸ hidesIndex_behind before segment h)
    have hwhole := hsegment [] (List.not_mem_nil)
    rw [List.append_nil, List.append_nil] at hwhole
    rw [hsegment _ hdot, withoutIndices_index segment digits hn hdigits hinner, hwhole]
  plain := by
    intro key hdot hindex hhidden
    have hsegment : key.reverse.takeWhile (· != '.') = key.reverse := by
      rw [List.takeWhile_eq_self_iff]
      intro c hc
      have hne : c ≠ '.' := by
        rintro rfl
        exact hdot (List.mem_reverse.1 hc)
      simpa using hne
    rw [keyName, hsegment, List.reverse_reverse, withoutIndices_of_plain key hindex hhidden]

end Policy
end Quarry
