import Mathlib.Data.List.TakeWhile
import Quarry.Text.Blank

/-! A text and the blank characters at its two ends. -/
namespace Quarry.Text

/-- A text is its stripped form between two blank margins. -/
theorem exists_margins (text : Text) :
    ∃ left right, isBlank left = true ∧ isBlank right = true ∧
      text = left ++ strip text ++ right := by
  let rest := text.dropWhile isBlankChar
  refine ⟨text.takeWhile isBlankChar, (rest.reverse.takeWhile isBlankChar).reverse, ?_, ?_, ?_⟩
  · exact List.all_takeWhile
  · rw [isBlank, List.all_reverse]
    exact List.all_takeWhile
  · have hrest : rest = strip text ++ (rest.reverse.takeWhile isBlankChar).reverse := by
      rw [strip, ← List.reverse_append, List.takeWhile_append_dropWhile, List.reverse_reverse]
    rw [List.append_assoc, ← hrest, List.takeWhile_append_dropWhile]

theorem strip_eq_nil_iff (text : Text) : strip text = [] ↔ isBlank text = true := by
  constructor
  · intro h
    obtain ⟨left, right, hl, hr, htext⟩ := exists_margins text
    rw [htext, h]
    simp only [isBlank, List.append_nil, List.all_append, Bool.and_eq_true] at hl hr ⊢
    exact ⟨hl, hr⟩
  · intro h
    have hnil : text.dropWhile isBlankChar = [] := by
      rw [List.dropWhile_eq_nil_iff]
      exact List.all_eq_true.1 h
    simp [strip, hnil]

/-- Blank characters behind a text do not count. -/
theorem strip_append_blanks (text blanks : Text) (h : isBlank blanks = true) :
    strip (text ++ blanks) = strip text := by
  have hblanks : ∀ c ∈ blanks, isBlankChar c = true := List.all_eq_true.1 h
  by_cases htext : isBlank text = true
  · have hboth : isBlank (text ++ blanks) = true := by
      rw [isBlank, List.all_append, Bool.and_eq_true]
      exact ⟨htext, h⟩
    rw [(strip_eq_nil_iff _).2 hboth, (strip_eq_nil_iff _).2 htext]
  · have hrest : (text.dropWhile isBlankChar).isEmpty = false := by
      rw [List.isEmpty_eq_false_iff, ne_eq, List.dropWhile_eq_nil_iff]
      exact fun hall => htext (List.all_eq_true.2 hall)
    rw [strip, List.dropWhile_append, hrest, if_neg Bool.false_ne_true, List.reverse_append,
      List.dropWhile_append_of_pos fun c hc => hblanks c (List.mem_reverse.1 hc), strip]

end Quarry.Text
