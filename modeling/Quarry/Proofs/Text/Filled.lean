import Quarry.Proofs.Text.Margins
import Quarry.Proofs.Text.Pieces

/-! The lines of a text that are not blank, and where the first of them stands. -/
namespace Quarry.Text

/-- The lines that are not blank. -/
def filled (text : Text) : List Text := (lines text).filter fun line => !isBlank line

theorem filled_append (before after : Text) :
    filled (before ++ '\n' :: after) = filled before ++ filled after := by
  rw [filled, lines, cut_append, List.filter_append]
  rfl

theorem filled_eq_nil (text : Text) (h : isBlank text = true) : filled text = [] := by
  rw [filled, List.filter_eq_nil_iff]
  intro line hline
  have hblank : isBlank line = true := by
    rw [isBlank, List.all_eq_true] at h ⊢
    exact fun c hc => h c ((mem_of_mem_cut '\n' text line hline).2 c hc)
  simp [hblank]

theorem isBlank_unlines (pieces : List Text) (h : ∀ piece ∈ pieces, isBlank piece = true) :
    isBlank (unlines pieces) = true := by
  induction pieces with
  | nil => rfl
  | cons piece others ih =>
    obtain ⟨hpiece, hothers⟩ := List.forall_mem_cons.1 h
    by_cases hnone : others = []
    · simpa [hnone, unlines, joined] using hpiece
    · rw [unlines, joined_cons ['\n'] piece others hnone, isBlank, List.all_append, List.all_append]
      simp only [Bool.and_eq_true]
      exact ⟨⟨hpiece, by decide⟩, ih hothers⟩

/-- A text whose lines are all blank is blank. -/
theorem isBlank_of_filled (text : Text) (h : filled text = []) : isBlank text = true := by
  rw [filled, List.filter_eq_nil_iff] at h
  have hlines := isBlank_unlines (lines text) fun line hline => by simpa using h line hline
  rwa [unlines, lines, joined_cut] at hlines

/-- Blank characters behind a line do not count. -/
theorem filled_behind (blanks rest : Text) (h : isBlank blanks = true)
    (hrest : ∀ c ∈ rest.head?, c = '\n') : filled (blanks ++ rest) = filled rest := by
  cases rest with
  | nil =>
    rw [List.append_nil, filled_eq_nil blanks h]
    rfl
  | cons c rest =>
    rw [hrest c rfl, filled_append, filled_eq_nil blanks h, ← List.nil_append ('\n' :: rest),
      filled_append]
    rfl

theorem exists_first_piece (pieces : List Text) (first : Text) (others : List Text)
    (hpieces : ∀ piece ∈ pieces, '\n' ∉ piece)
    (h : (pieces.filter fun line => !isBlank line) = first :: others) :
    ∃ above below, unlines pieces = above ++ first ++ below ∧ isBlank above = true ∧
      (∀ c ∈ below.head?, c = '\n') ∧ filled below = others := by
  induction pieces with
  | nil => simp at h
  | cons line more ih =>
    have hmore : ∀ piece ∈ more, '\n' ∉ piece :=
      fun piece hpiece => hpieces piece (List.mem_cons_of_mem _ hpiece)
    -- A blank line goes to what is above, any other one is the first.
    by_cases hline : isBlank line = true
    · simp only [hline, List.filter_cons, Bool.not_true, Bool.false_eq_true, if_false] at h
      obtain ⟨above, below, htext, habove, hbelow, hothers⟩ := ih hmore h
      have hn : more ≠ [] := by
        rintro rfl
        simp at h
      refine ⟨line ++ ['\n'] ++ above, below, ?_, ?_, hbelow, hothers⟩
      · rw [unlines, joined_cons ['\n'] line more hn, ← unlines, htext]
        simp only [List.append_assoc]
      · simp only [isBlank, List.all_append, Bool.and_eq_true] at hline habove ⊢
        exact ⟨⟨hline, by decide⟩, habove⟩
    · simp only [hline, List.filter_cons, Bool.not_false, if_true, List.cons.injEq] at h
      obtain ⟨rfl, hothers⟩ := h
      cases more with
      | nil =>
        refine ⟨[], [], by simp [unlines, joined], rfl, by simp, ?_⟩
        rw [← hothers]
        rfl
      | cons next more =>
        refine ⟨[], '\n' :: unlines (next :: more), ?_, rfl, by simp, ?_⟩
        · rw [unlines, joined_cons ['\n'] line (next :: more) (by simp)]
          simp [unlines]
        · rw [← List.nil_append ('\n' :: unlines (next :: more)), filled_append, ← hothers,
            filled, filled, lines, lines, unlines, cut_joined '\n' _ hmore (by simp)]
          rfl

/-- Above the first line that is not blank there are blank characters alone, and below it the text
ends or a line feed follows. -/
theorem exists_first (text first : Text) (others : List Text)
    (h : filled text = first :: others) :
    ∃ above below, text = above ++ first ++ below ∧ isBlank above = true ∧
      (∀ c ∈ below.head?, c = '\n') ∧ filled below = others := by
  have hpieces : ∀ piece ∈ lines text, '\n' ∉ piece :=
    fun piece hpiece => (mem_of_mem_cut '\n' text piece hpiece).1
  have hfirst := exists_first_piece (lines text) first others hpieces h
  rwa [unlines, lines, joined_cut] at hfirst

end Quarry.Text
