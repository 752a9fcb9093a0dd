import Mathlib
import Quarry.Proofs.Json.Reading
import Quarry.Proofs.Records.Significant
import Quarry.Proofs.Text.Margins
import Quarry.Proofs.Text.Pieces

/-! Lines that hold no record of a stream do not count: wherever such lines are put in, the records
and their text stay the same. -/
namespace Quarry.Records

/-- A line that holds no record: it is blank, it is refused as JSON, or it is a value that is
neither list nor record where only those count. -/
def HoldsNone (containersOnly : Bool) (line : Text) : Prop :=
  Text.isBlank line = true ∨
  Json.Refused (Text.strip line) ∨
  containersOnly = true ∧
    ∃ value, Json.read (Text.strip line) = .ok value ∧ value.isContainer = false

/-- A text behind which a line starts. -/
def StartsLine (before : Text) : Prop := before = [] ∨ ∃ text, before = text ++ ['\n']

/-- One line that holds no record is put into a text: in front of a line, as a last line without
its end, or below a last line without its end. -/
inductive Pads (containersOnly : Bool) : Text → Text → Prop
  | above (before line after : Text) (hstart : StartsLine before) (hline : '\n' ∉ line)
      (h : HoldsNone containersOnly line) :
      Pads containersOnly (before ++ after) (before ++ (line ++ '\n' :: after))
  | last (before line : Text) (hstart : StartsLine before) (hline : '\n' ∉ line)
      (h : HoldsNone containersOnly line) : Pads containersOnly before (before ++ line)
  | below (before line : Text) (hline : '\n' ∉ line) (h : HoldsNone containersOnly line) :
      Pads containersOnly before (before ++ '\n' :: line)

section

variable (containersOnly : Bool)

theorem significant_append (before after : Text) :
    significant containersOnly (before ++ '\n' :: after) =
      significant containersOnly before ++ significant containersOnly after := by
  simp only [significant, Text.lines, Text.cut_append, List.map_append, List.filter_append]

theorem ofText_isPassed (line : Text) (h : HoldsNone containersOnly line) :
    (Line.ofText containersOnly line).isPassed = true := by
  by_cases hblank : Text.strip line = []
  · simp only [Line.ofText, hblank]
    rfl
  have hbody : (Text.strip line).isEmpty = false := by simpa using hblank
  rcases h with h | ⟨error, hread, herror⟩ | ⟨hcontainers, value, hread, hvalue⟩
  · exact absurd ((Text.strip_eq_nil_iff line).2 h) hblank
  · cases error with
    | tooDeep => exact absurd rfl herror
    | malformed => simp [Line.ofText, hbody, hread, Line.isPassed]
    | hugeInteger => simp [Line.ofText, hbody, hread, Line.isPassed]
  · simp [Line.ofText, hbody, hread, hcontainers, hvalue, Line.isPassed]

theorem significant_line (line : Text) (hline : '\n' ∉ line)
    (h : HoldsNone containersOnly line) : significant containersOnly line = [] := by
  rw [significant, Text.lines, Text.cut_eq_singleton '\n' line hline]
  simp [ofText_isPassed containersOnly line h]

theorem significant_start (before after : Text) (h : StartsLine before) :
    significant containersOnly (before ++ after) =
      significant containersOnly before ++ significant containersOnly after := by
  have hnil : significant containersOnly [] = [] :=
    significant_line containersOnly [] (by simp) (Or.inl rfl)
  rcases h with rfl | ⟨text, rfl⟩
  · simp [hnil]
  · have hsplit := significant_append containersOnly text after
    have hend := significant_append containersOnly text []
    simp only [hnil, List.append_nil] at hend
    simp only [List.append_assoc, List.singleton_append, hsplit, hend]

theorem significant_of_pads (content padded : Text) (h : Pads containersOnly content padded) :
    significant containersOnly padded = significant containersOnly content := by
  cases h with
  | above before line after hstart hline h =>
    rw [significant_start _ before _ hstart, significant_start _ before _ hstart,
      significant_append, significant_line _ line hline h, List.nil_append]
  | last _ line hstart hline h =>
    rw [significant_start _ content _ hstart, significant_line _ line hline h, List.append_nil]
  | below _ line hline h =>
    rw [significant_append, significant_line _ line hline h, List.append_nil]

theorem significant_of_padded (content padded : Text)
    (h : Relation.ReflTransGen (Pads containersOnly) content padded) :
    significant containersOnly padded = significant containersOnly content := by
  induction h with
  | refl => rfl
  | tail _ hstep ih => rw [significant_of_pads containersOnly _ _ hstep, ih]

/-- A stream into which lines without records are put keeps its records and its text. -/
theorem flatten_of_padded (policy : Policy) (content padded : Text)
    (h : Relation.ReflTransGen (Pads containersOnly) content padded) :
    reached containersOnly padded = reached containersOnly content ∧
      (all containersOnly padded).outcome = (all containersOnly content).outcome ∧
      (flatten policy containersOnly padded).outcome =
        (flatten policy containersOnly content).outcome := by
  have hsame := significant_of_padded containersOnly content padded h
  have hall : (all containersOnly padded).outcome = (all containersOnly content).outcome := by
    simp only [all_outcome, reached, hsame]
  refine ⟨?_, hall, ?_⟩
  · simp only [reached, hsame]
  · rw [flatten_outcome, flatten_outcome, hall]

end

/-- A word and a number around a list, in prose. -/
theorem flatten_of_padded_list :
    Relation.ReflTransGen (Pads true) ['[', ']'] ['x', '\n', '[', ']', '\n', '7'] ∧
    reached true ['x', '\n', '[', ']', '\n', '7'] = [.list []] ∧
    (flatten .standard true ['x', '\n', '[', ']', '\n', '7']).outcome =
      (flatten .standard true ['[', ']']).outcome := by
  have hword : HoldsNone true ['x'] := Or.inr (Or.inl ⟨.malformed, by cbv, by decide⟩)
  have hnumber : HoldsNone true ['7'] := Or.inr (Or.inr ⟨rfl, .int 7, by cbv, rfl⟩)
  have hpads : Relation.ReflTransGen (Pads true) ['[', ']'] ['x', '\n', '[', ']', '\n', '7'] :=
    (Relation.ReflTransGen.single (.above [] ['x'] ['[', ']'] (Or.inl rfl) (by decide) hword)).tail
      (.below ['x', '\n', '[', ']'] ['7'] (by decide) hnumber)
  have h := flatten_of_padded true .standard _ _ hpads
  have hreached : reached true ['[', ']'] = [.list []] := by cbv
  exact ⟨hpads, h.1.trans hreached, h.2.2⟩

end Quarry.Records
