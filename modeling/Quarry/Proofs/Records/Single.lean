import Mathlib
import Quarry.Proofs.Records.Stream

/-! A document on one line is a stream of one record: what is read of the whole content is read of its
only line, without the blanks around it. -/
namespace Quarry.Records

open Json (Value)

/-- Around the only line that is not blank there are blank characters alone. -/
theorem exists_only_line (content line : Text) (h : Text.filled content = [line]) :
    ∃ left right, Text.isBlank left = true ∧ Text.isBlank right = true ∧
      content = left ++ Text.strip line ++ right := by
  obtain ⟨above, below, hcontent, habove, -, hothers⟩ := Text.exists_first content line [] h
  obtain ⟨left, right, hleft, hright, hline⟩ := Text.exists_margins line
  have hbelow := Text.isBlank_of_filled below hothers
  refine ⟨above ++ left, right ++ below, ?_, ?_, ?_⟩
  · rw [Text.isBlank, List.all_append, Bool.and_eq_true]
    exact ⟨habove, hleft⟩
  · rw [Text.isBlank, List.all_append, Bool.and_eq_true]
    exact ⟨hright, hbelow⟩
  · rw [hcontent]
    nth_rewrite 1 [hline]
    simp only [List.append_assoc]

theorem holds_of_read (content line : Text) (value : Value) (h : Text.filled content = [line])
    (hread : Json.read content = .ok value) : Holds content [value] := by
  obtain ⟨left, right, hleft, hright, hcontent⟩ := exists_only_line content line h
  rw [hcontent] at hread
  rw [Holds, h]
  exact .cons (Json.read_of_between left (Text.strip line) right hleft hright value hread) .nil

/-- A document of which one line is not blank is the only record of its lines, and as a stream it has
the text of this record at the first place. -/
theorem parseContent_of_document (content : Text) (value : Value)
    (hread : Json.read content = .ok value) (hone : (Text.filled content).length = 1) :
    (all false content).outcome = .ok [value] ∧
      ∀ (reader : DocumentReader) (path : Path), Text.lower path.suffix = ".jsonl".toList ∨
          Text.lower path.suffix = ".ndjson".toList →
        (reader.parseContent content path).outcome =
          .ok (Text.unlines (Flatten.lines reader.policy (Flatten.itemPath [] 0) value)) := by
  obtain ⟨line, hline⟩ := List.length_eq_one_iff.1 hone
  have hholds := holds_of_read content line value hline hread
  have hlines (policy : Policy) :
      (groups policy [value]).flatten = Flatten.lines policy (Flatten.itemPath [] 0) value := by
    simp [groups]
  refine ⟨all_of_holds content [value] hholds, fun reader path hpath => ?_⟩
  rw [parseContent_outcome_of_holds reader path content value [] (promise_of_suffix path hpath) hholds,
    hlines]

/-- A list that ends in a wide space, in the middle of three lines. -/
theorem parseContent_of_document_list :
    let content : Text := [' ', '\n', '\t', '[', '"', 'x', '\u2003', '"', ']', '\r', '\n']
    Json.read content = .ok (.list [.text ['x', '\u2003']]) ∧
    (Text.filled content).length = 1 ∧
    (all false content).outcome = .ok [.list [.text ['x', '\u2003']]] ∧
    (DocumentReader.parseContent ⟨⟨.ofText ['/'], 1, 1⟩, .standard, ⟨none⟩⟩ content
      (.ofText "x.NDJSON".toList)).outcome = .ok "[0]: x\u2003".toList := by
  intro content
  have hread : Json.read content = .ok (.list [.text ['x', '\u2003']]) := by cbv
  have hone : (Text.filled content).length = 1 := by cbv
  have hpath : Text.lower (Path.ofText "x.NDJSON".toList).suffix = ".ndjson".toList := by cbv
  obtain ⟨hall, hparse⟩ := parseContent_of_document content _ hread hone
  refine ⟨hread, hone, hall, ?_⟩
  rw [hparse _ _ (Or.inr hpath)]
  cbv

end Quarry.Records
