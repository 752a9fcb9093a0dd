import Mathlib
import Quarry.Proofs.Flatten.Place

/-! Written paths, read back. Behind the path that the value stands at each step starts with a dot or an
opening bracket, and as long as no key holds one of these, the steps can be told from what is written. -/
namespace Quarry.Flatten

/-- The characters that start a step. -/
def startsStep (c : Char) : Bool := c = '.' || c = '['

/-- What is written of each step: it ends where the next step starts. -/
def pieces (written : Text) : List Text := written.splitBy fun _ next => !startsStep next

/-- The step that a piece is written for. Behind no path at all, the first key has no dot. -/
def Step.ofPiece : Text → Step
  | '[' :: rest => .item (Nat.ofDigitChars 10 (rest.takeWhile (· != ']')) 0)
  | '.' :: key => .field key
  | key => .field key

/-- The steps that are written in a text. -/
def stepsOf (written : Text) : List Step := (pieces written).map Step.ofPiece

/-- A key that is not empty and in which no step starts. A closing bracket does no harm. -/
def PlainKey (key : Text) : Prop := key ≠ [] ∧ '.' ∉ key ∧ '[' ∉ key

/-- A step to an item, or to a field with such a key. -/
def Step.IsPlain : Step → Prop
  | .field key => PlainKey key
  | .item _ => True

theorem startsStep_of_plain (key : Text) (h : PlainKey key) : ∀ c ∈ key, startsStep c = false := by
  intro c hc
  have hdot : c ≠ '.' := fun hdot => h.2.1 (hdot ▸ hc)
  have hbracket : c ≠ '[' := fun hbracket => h.2.2 (hbracket ▸ hc)
  simp [startsStep, hdot, hbracket]

theorem startsStep_of_digit (c : Char) (h : Text.isDigit c = true) : startsStep c = false := by
  have hdot : c ≠ '.' := by
    rintro rfl
    exact absurd h (by decide)
  have hbracket : c ≠ '[' := by
    rintro rfl
    exact absurd h (by decide)
  simp [startsStep, hdot, hbracket]

section Pieces

/-- A text is split where a step starts. -/
theorem pieces_append (front rest : Text) (h : ∀ c ∈ rest.head?, startsStep c = true) :
    pieces (front ++ rest) = pieces front ++ pieces rest := by
  apply List.splitBy_append
  intro last _ c hc
  simp [h c hc]

theorem pieces_singleton (c : Char) (rest : Text) (h : ∀ d ∈ rest, startsStep d = false) :
    pieces (c :: rest) = [c :: rest] := by
  apply List.splitBy_of_isChain (by simp)
  apply List.Pairwise.isChain
  apply List.pairwise_cons.2
  refine ⟨fun d hd => by simp [h d hd], ?_⟩
  exact List.pairwise_of_forall_mem_list fun _ _ d hd => by simp [h d hd]

theorem exists_text (step : Step) (h : step.IsPlain) :
    ∃ c rest, step.text = c :: rest ∧ startsStep c = true ∧ ∀ d ∈ rest, startsStep d = false := by
  cases step with
  | field key => exact ⟨'.', key, rfl, rfl, startsStep_of_plain key h⟩
  | item index =>
    refine ⟨'[', Text.ofNat index ++ [']'], rfl, rfl, fun d hd => ?_⟩
    rcases List.mem_append.1 hd with hd | hd
    · exact startsStep_of_digit d (Text.isDigit_of_mem_ofNat index d hd)
    · rw [List.mem_singleton.1 hd]
      rfl

theorem head_flatMap_text (steps : List Step) :
    ∀ c ∈ (steps.flatMap Step.text).head?, startsStep c = true := by
  intro c hc
  cases steps with
  | nil => cases hc
  | cons step others =>
    cases step with
    | field key =>
      cases hc
      rfl
    | item index =>
      cases hc
      rfl

end Pieces

section Reading

theorem ofPiece_text (step : Step) : Step.ofPiece step.text = step := by
  cases step with
  | field key => rfl
  | item index =>
    -- The digits end where the bracket closes, since none of them is a bracket.
    have hdigits : (Text.ofNat index ++ [']']).takeWhile (· != ']') = Text.ofNat index := by
      rw [List.takeWhile_append_of_pos]
      · simp
      · intro c hc
        have hdigit := Text.isDigit_of_mem_ofNat index c hc
        have hne : c ≠ ']' := by
          rintro rfl
          exact absurd hdigit (by decide)
        simpa using hne
    have hpiece : (Step.item index).text = '[' :: (Text.ofNat index ++ [']']) := rfl
    rw [hpiece, Step.ofPiece, hdigits, Text.ofNat,
      Nat.ofDigitChars_toDigits (by decide) (by decide)]

theorem ofPiece_key (key : Text) (h : PlainKey key) : Step.ofPiece key = .field key := by
  unfold Step.ofPiece
  split
  · exact absurd List.mem_cons_self h.2.2
  · exact absurd List.mem_cons_self h.2.1
  · rfl

theorem stepsOf_append (front rest : Text) (h : ∀ c ∈ rest.head?, startsStep c = true) :
    stepsOf (front ++ rest) = stepsOf front ++ stepsOf rest := by
  rw [stepsOf, pieces_append front rest h, List.map_append]
  rfl

/-- Steps that are written one behind the other are read back. -/
theorem stepsOf_flatMap_text (steps : List Step) (h : ∀ step ∈ steps, step.IsPlain) :
    stepsOf (steps.flatMap Step.text) = steps := by
  induction steps with
  | nil => rfl
  | cons step others ih =>
    obtain ⟨hstep, hothers⟩ := List.forall_mem_cons.1 h
    -- The piece of the first step ends where the next step starts, whatever that one is.
    obtain ⟨c, rest, htext, -, hrest⟩ := exists_text step hstep
    have hone : stepsOf step.text = [step] := by
      rw [stepsOf, htext, pieces_singleton c rest hrest, List.map_singleton, ← htext, ofPiece_text]
    rw [List.flatMap_cons, stepsOf_append _ _ (head_flatMap_text others), hone, ih hothers]
    rfl

/-- Steps are read back from what they add to a path. -/
theorem exists_written (path : Text) (steps : List Step) (h : ∀ step ∈ steps, step.IsPlain) :
    ∃ written, pathTo path steps = path ++ written ∧ stepsOf written = steps := by
  by_cases hpath : path = []
  · subst hpath
    cases steps with
    | nil => exact ⟨[], rfl, rfl⟩
    | cons step others =>
      obtain ⟨hstep, hothers⟩ := List.forall_mem_cons.1 h
      cases step with
      | item index =>
        refine ⟨(Step.item index :: others).flatMap Step.text, ?_, stepsOf_flatMap_text _ h⟩
        exact pathTo_eq (itemPath [] index) others (itemPath_ne_nil [] index)
      | field key =>
        -- Here alone a key stands without a dot.
        refine ⟨key ++ others.flatMap Step.text, pathTo_eq key others hstep.1, ?_⟩
        obtain ⟨c, rest, rfl⟩ := List.exists_cons_of_ne_nil hstep.1
        have hrest := (List.forall_mem_cons.1 (startsStep_of_plain _ hstep)).2
        rw [stepsOf_append _ _ (head_flatMap_text others), stepsOf_flatMap_text others hothers, stepsOf,
          pieces_singleton c rest hrest, List.map_singleton, ofPiece_key _ hstep]
        rfl
  · exact ⟨steps.flatMap Step.text, pathTo_eq path steps hpath, stepsOf_flatMap_text steps h⟩

/-- Different steps lead to different paths. -/
theorem pathTo_inj (path : Text) (first second : List Step) (hfirst : ∀ step ∈ first, step.IsPlain)
    (hsecond : ∀ step ∈ second, step.IsPlain) (h : pathTo path first = pathTo path second) :
    first = second := by
  obtain ⟨written, hwritten, hread⟩ := exists_written path first hfirst
  obtain ⟨other, hother, hreadOther⟩ := exists_written path second hsecond
  rw [hwritten, hother] at h
  rw [← hread, ← hreadOther, List.append_cancel_left h]

end Reading

end Quarry.Flatten
