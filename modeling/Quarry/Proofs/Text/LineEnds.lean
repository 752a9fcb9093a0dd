import Quarry.Text.Newline

/-! Line ends are made uniform by two replacements: of a carriage return and the line feed behind it,
and then of every carriage return that is left. -/
namespace Quarry.Text

/-- Every carriage return with a line feed behind it gives way to the line feed. -/
def joinReturns : Text → Text
  | c :: next :: rest =>
    if c = '\r' ∧ next = '\n' then '\n' :: joinReturns rest else c :: joinReturns (next :: rest)
  | text => text

/-- Every carriage return, with the line feed behind it if there is one, becomes a line feed. -/
def withLineFeeds (text : Text) : Text :=
  (joinReturns text).map fun c => if c = '\r' then '\n' else c

/-- What is left of a text behind a carriage return. -/
def behindReturn : Text → Text
  | [] => []
  | c :: rest => if c = '\n' then rest else c :: rest

theorem withLineFeeds_return (rest : Text) :
    withLineFeeds ('\r' :: rest) = '\n' :: withLineFeeds (behindReturn rest) := by
  cases rest with
  | nil => rfl
  | cons c rest =>
    by_cases hfeed : c = '\n'
    · simp [withLineFeeds, joinReturns, behindReturn, hfeed]
    · simp [withLineFeeds, joinReturns, behindReturn, hfeed]

theorem withLineFeeds_other (c : Char) (rest : Text) (h : c ≠ '\r') :
    withLineFeeds (c :: rest) = c :: withLineFeeds rest := by
  cases rest with
  | nil => simp [withLineFeeds, joinReturns, h]
  | cons next rest => simp [withLineFeeds, joinReturns, h]

/-- What is written of a text, where no carriage return stands in front of it and where one does. -/
theorem foldl_push_written (text written : Text) :
    (text.foldl LineEnds.push ⟨written, false⟩).written =
        (withLineFeeds text).reverse ++ written ∧
      (text.foldl LineEnds.push ⟨written, true⟩).written =
        (withLineFeeds (behindReturn text)).reverse ++ written := by
  -- Behind a carriage return the first of the two goes on as the second, and back again.
  induction text generalizing written with
  | nil => exact ⟨rfl, rfl⟩
  | cons c rest ih =>
    by_cases hreturn : c = '\r'
    · subst hreturn
      have hpush (after : Bool) :
          LineEnds.push ⟨written, after⟩ '\r' = ⟨'\n' :: written, true⟩ := rfl
      have hbehind : behindReturn ('\r' :: rest) = '\r' :: rest := rfl
      have htext : (withLineFeeds ('\r' :: rest)).reverse ++ written =
          (withLineFeeds (behindReturn rest)).reverse ++ '\n' :: written := by
        simp [withLineFeeds_return]
      rw [List.foldl_cons, List.foldl_cons, hpush, hpush, hbehind, htext]
      exact ⟨(ih _).2, (ih _).2⟩
    · have hpush : LineEnds.push ⟨written, false⟩ c = ⟨c :: written, false⟩ := by
        simp [LineEnds.push, hreturn]
      have htext : (withLineFeeds (c :: rest)).reverse ++ written =
          (withLineFeeds rest).reverse ++ c :: written := by
        simp [withLineFeeds_other c rest hreturn]
      refine ⟨by rw [List.foldl_cons, hpush, htext, (ih _).1], ?_⟩
      -- Behind a carriage return a line feed adds nothing.
      by_cases hfeed : c = '\n'
      · subst hfeed
        exact (ih written).1
      · have hbehind : behindReturn (c :: rest) = c :: rest := if_neg hfeed
        have hafter : LineEnds.push ⟨written, true⟩ c = ⟨c :: written, false⟩ := by
          simp [LineEnds.push, hreturn, hfeed]
        rw [List.foldl_cons, hafter, hbehind, htext, (ih _).1]

theorem uniformLineEnds_eq (text : Text) : uniformLineEnds text = withLineFeeds text := by
  rw [uniformLineEnds, (foldl_push_written text []).1, List.append_nil, List.reverse_reverse]

end Quarry.Text
