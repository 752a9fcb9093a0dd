import Mathlib.Data.List.TakeWhile
import Quarry.Text.Basic

/-! A run of characters of one kind in front of another character, or of the end of the text. -/
namespace Quarry.Text

theorem bne_of_notMem (stop : Char) (run : Text) (h : stop ∉ run) :
    ∀ c ∈ run, (c != stop) = true := by
  intro c hc
  have hne : c ≠ stop := by
    rintro rfl
    exact h hc
  simpa using hne

section

variable (p : Char → Bool) (run rest : Text)

theorem takeWhile_run (hrun : ∀ c ∈ run, p c = true) (hrest : ∀ c ∈ rest.head?, p c = false) :
    (run ++ rest).takeWhile p = run := by
  have hnil : rest.takeWhile p = [] := by
    cases rest with
    | nil => rfl
    | cons c rest => simp [hrest c rfl]
  rw [List.takeWhile_append_of_pos hrun, hnil, List.append_nil]

theorem dropWhile_run (hrun : ∀ c ∈ run, p c = true) (hrest : ∀ c ∈ rest.head?, p c = false) :
    (run ++ rest).dropWhile p = rest := by
  rw [List.dropWhile_append_of_pos hrun]
  cases rest with
  | nil => rfl
  | cons c rest => simp [hrest c rfl]

end

end Quarry.Text
