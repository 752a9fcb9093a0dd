import Mathlib.Data.List.TakeWhile
import Quarry.Records
import Quarry.Proofs.Text.Pieces
import Quarry.Proofs.Trace

/-! The lines of a stream that matter to its records, and what the operations on streams end with
in terms of them. -/
namespace Quarry.Records

open Json (Value)

/-- The lines that reading a stream does not pass over: the records, and what nests too deeply. -/
def significant (containersOnly : Bool) (content : Text) : List Line :=
  ((Text.lines content).map (Line.ofText containersOnly)).filter fun line => !line.isPassed

/-- The records in front of the first line that nests too deeply, which are those that reading
comes to. -/
def reached (containersOnly : Bool) (content : Text) : List Value :=
  ((significant containersOnly content).takeWhile fun line => !line.isTooDeep).filterMap
    Line.record?

section

variable (containersOnly : Bool) (content : Text)

theorem readLines_map_fst :
    (readLines containersOnly content).map (·.1) =
      (Text.lines content).map (Line.ofText containersOnly) := by
  have hfst : ((fun line : Line × Nat => line.1) ∘
      fun line : Text × Nat => (Line.ofText containersOnly line.1, line.2)) =
        Line.ofText containersOnly ∘ Prod.fst := rfl
  rw [readLines, numbered, List.map_map, hfst, ← List.map_map, List.zipIdx_map_fst]

theorem any_isTooDeep_filter (lines : List Line) :
    (lines.filter fun line => !line.isPassed).any Line.isTooDeep = lines.any Line.isTooDeep := by
  rw [List.any_filter]
  apply List.any_congr rfl
  intro line
  cases line <;> rfl

theorem filterMap_record?_filter (lines : List Line) :
    (lines.filter fun line => !line.isPassed).filterMap Line.record? =
      lines.filterMap Line.record? := by
  rw [List.filterMap_filter]
  congr 1
  funext line
  cases line <;> rfl

/-- A stream has records unless a line nests too deeply, and they are those that are reached. -/
theorem all_outcome : (all containersOnly content).outcome =
    if (significant containersOnly content).any Line.isTooDeep then .error .nestedTooDeeply
    else .ok (reached containersOnly content) := by
  have hany : (readLines containersOnly content).any (fun line => line.1.isTooDeep) =
      (significant containersOnly content).any Line.isTooDeep := by
    rw [significant, any_isTooDeep_filter, ← readLines_map_fst, List.any_map]
    rfl
  have hrecords : (readLines containersOnly content).filterMap (fun line => line.1.record?) =
      (significant containersOnly content).filterMap Line.record? := by
    rw [significant, filterMap_record?_filter, ← readLines_map_fst, List.filterMap_map]
    rfl
  simp only [all, hany, hrecords, reached]
  by_cases h : (significant containersOnly content).any Line.isTooDeep = true
  · simp only [h, if_true]
  · have htake : (significant containersOnly content).takeWhile (fun line => !line.isTooDeep) =
        significant containersOnly content := by
      rw [List.takeWhile_eq_self_iff]
      simpa using h
    simp only [h, htake]

/-- A stream in which nothing matters but records has these records. -/
theorem all_of_significant (records : List Value)
    (h : significant containersOnly content = records.map Line.record) :
    (all containersOnly content).outcome = .ok records := by
  have hdeep : (records.map Line.record).any Line.isTooDeep = false := by
    rw [List.any_map, List.any_eq_false]
    simp [Line.isTooDeep]
  have hreached : reached containersOnly content = records := by
    rw [reached, h, List.takeWhile_eq_self_iff.2 (by simp [Line.isTooDeep])]
    simp [List.filterMap_map, Function.comp_def, Line.record?]
  rw [all_outcome, h, hdeep, hreached]
  rfl

/-- Whether a stream has records is settled by the first line that is not passed over. -/
theorem exist_outcome : (exist containersOnly content).outcome =
    match significant containersOnly content with
    | [] => .ok false
    | line :: _ => if line.isTooDeep then .error .nestedTooDeeply else .ok true := by
  have hlines : (Text.lines content).map (Line.ofText containersOnly) =
      (numbered content).map fun line => Line.ofText containersOnly line.1 := by
    have hfst : (fun line : Text × Nat => Line.ofText containersOnly line.1) =
        Line.ofText containersOnly ∘ Prod.fst := rfl
    rw [numbered, hfst, ← List.map_map, List.zipIdx_map_fst]
  simp only [significant, hlines, exist]
  induction numbered content with
  | nil => rfl
  | cons line others ih =>
    by_cases h : (Line.ofText containersOnly line.1).isPassed = true
    · simpa [h] using ih
    · simp [h]

/-- The text of a stream is settled by its records. -/
theorem flatten_outcome (policy : Policy) : (flatten policy containersOnly content).outcome =
    (all containersOnly content).outcome.map fun records =>
      Text.unlines (((groups policy records).filter fun group => !group.isEmpty).map
        Text.unlines) := by
  unfold flatten
  cases h : (all containersOnly content).outcome with
  | error fault => rw [Traced.outcome_bind_error _ _ fault h]; rfl
  | ok records => rw [Traced.outcome_bind_ok _ _ records h]; rfl

/-- The text of a stream is made of the lines of its records, one group after the other. -/
theorem flatten_outcome_lines (policy : Policy) : (flatten policy containersOnly content).outcome =
    (all containersOnly content).outcome.map fun records =>
      Text.unlines (groups policy records).flatten := by
  have hjoined (records : List Value) :
      Text.unlines (((groups policy records).filter fun group => !group.isEmpty).map
        Text.unlines) = Text.unlines (groups policy records).flatten :=
    Text.joined_flatten ['\n'] (groups policy records)
  rw [flatten_outcome]
  simp only [hjoined]

end

end Quarry.Records
