import Mathlib.Data.List.Infix
import Quarry.Proofs.Text.Pieces

/-! Where one text occurs inside another, and what occurs in joined pieces. -/
namespace Quarry.Text

variable (needle : Text)

theorem occursIn_iff (text : Text) : occursIn needle text = true ↔ needle <:+: text := by
  induction text with
  | nil => simp [occursIn]
  | cons c rest ih =>
    rw [occursIn, Bool.or_eq_true, List.isPrefixOf_iff_prefix, ih, List.infix_cons_iff]

theorem eq_nil_of_prefix (separator : Char) (after : Text) (hneedle : separator ∉ needle)
    (h : needle <+: separator :: after) : needle = [] := by
  cases needle with
  | nil => rfl
  | cons c needle =>
    obtain ⟨rfl, -⟩ := List.cons_prefix_cons.1 h
    exact absurd (List.mem_cons_self ..) hneedle

/-- A text without the separator that occurs around one occurs on one side of it. -/
theorem infix_beside (separator : Char) (before after : Text) (hneedle : separator ∉ needle)
    (h : needle <:+: before ++ separator :: after) : needle <:+: before ∨ needle <:+: after := by
  rcases List.infix_append_iff.1 h with h | h | ⟨first, second, rfl, hfirst, hsecond⟩
  · exact .inl h
  · rcases List.infix_cons_iff.1 h with hstart | h
    · obtain rfl : needle = [] := eq_nil_of_prefix needle separator after hneedle hstart
      exact .inl List.nil_infix
    · exact .inr h
  · -- The part behind the cut would start with the separator.
    have hnone : separator ∉ second := fun hmem => hneedle (List.mem_append_right _ hmem)
    obtain rfl : second = [] := eq_nil_of_prefix second separator after hnone hsecond
    rw [List.append_nil]
    exact .inl hfirst.isInfix

theorem infix_joined (separator piece : Text) (pieces : List Text) (h : piece ∈ pieces) :
    piece <:+: joined separator pieces := by
  induction pieces with
  | nil => exact absurd h List.not_mem_nil
  | cons first others ih =>
    by_cases hlast : others = []
    · subst hlast
      obtain rfl : piece = first := by simpa using h
      have hone : joined separator [piece] = piece := by simp [joined]
      rw [hone]
    · rw [joined_cons _ _ _ hlast]
      rcases List.mem_cons.1 h with rfl | h
      · exact ⟨[], separator ++ joined separator others, by simp⟩
      · exact (ih h).trans (List.suffix_append _ _).isInfix

/-- No text without the separator occurs across two pieces. -/
theorem exists_infix_of_joined (separator : Char) (pieces : List Text) (hne : needle ≠ [])
    (hneedle : separator ∉ needle) (h : needle <:+: joined [separator] pieces) :
    ∃ piece ∈ pieces, needle <:+: piece := by
  induction pieces with
  | nil =>
    have hnil : joined [separator] [] = [] := by simp [joined]
    rw [hnil, List.infix_nil] at h
    exact absurd h hne
  | cons piece pieces ih =>
    by_cases hlast : pieces = []
    · subst hlast
      have hone : joined [separator] [piece] = piece := by simp [joined]
      rw [hone] at h
      exact ⟨piece, by simp, h⟩
    · rw [joined_cons _ _ _ hlast, List.append_assoc, List.singleton_append] at h
      rcases infix_beside needle separator piece _ hneedle h with h | h
      · exact ⟨piece, by simp, h⟩
      · obtain ⟨other, hother, hoccurs⟩ := ih h
        exact ⟨other, by simp [hother], hoccurs⟩

end Quarry.Text
