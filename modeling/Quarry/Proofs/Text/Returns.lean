import Mathlib.Data.List.Forall2
import Quarry.Proofs.Text.Margins
import Quarry.Proofs.Text.Pieces

/-! Carriage returns in front of line feeds. Where some line feeds of a text get one, its lines stay
the same, but for the blank characters at their ends. -/
namespace Quarry.Text

/-- The second text is the first one with a carriage return in front of some of its line feeds. -/
inductive Returned : Text → Text → Prop
  | done : Returned [] []
  | keep (c : Char) (text returned : Text) (rest : Returned text returned) :
      Returned (c :: text) (c :: returned)
  | feed (text returned : Text) (rest : Returned text returned) :
      Returned ('\n' :: text) ('\r' :: '\n' :: returned)

theorem lines_cons (c : Char) (rest : Text) : lines (c :: rest) =
    if c = '\n' then [] :: lines rest else (lines rest).modifyHead (List.cons c) := by
  simp only [lines, cut_eq_splitOn, List.splitOn_cons_eq_if_modifyHead, beq_iff_eq]

/-- A line keeps its characters, or gets a carriage return behind them. -/
theorem lines_of_returned (text returned : Text) (h : Returned text returned) :
    List.Forall₂ (fun line other => other = line ∨ other = line ++ ['\r'])
      (lines text) (lines returned) := by
  induction h with
  | done => exact .cons (Or.inl rfl) .nil
  | keep c text returned _ ih =>
    rw [lines_cons, lines_cons]
    split
    · exact .cons (Or.inl rfl) ih
    · -- The character goes in front of the first line of both.
      generalize lines text = found at ih ⊢
      generalize lines returned = others at ih ⊢
      cases ih with
      | nil => exact .nil
      | cons hfirst hothers =>
        refine .cons ?_ hothers
        rcases hfirst with rfl | rfl
        · exact Or.inl rfl
        · exact Or.inr rfl
  | feed text returned _ ih =>
    have hfeed : lines ('\n' :: text) = [] :: lines text := lines_cons '\n' text
    have hreturn : lines ('\r' :: '\n' :: returned) = ['\r'] :: lines returned := by
      rw [lines_cons, lines_cons]
      rfl
    rw [hfeed, hreturn]
    exact .cons (Or.inr rfl) ih

/-- What comes of the lines is the same where a carriage return behind a line does not count. -/
theorem map_lines_of_returned {α : Type} (f : Text → α) (hf : ∀ line, f (line ++ ['\r']) = f line)
    (text returned : Text) (h : Returned text returned) :
    (lines returned).map f = (lines text).map f := by
  have hlines := lines_of_returned text returned h
  generalize lines text = found at hlines ⊢
  generalize lines returned = others at hlines ⊢
  induction hlines with
  | nil => rfl
  | cons hline _ ih =>
    rw [List.map_cons, List.map_cons, ih]
    rcases hline with rfl | rfl
    · rfl
    · rw [hf]

end Quarry.Text
