import Mathlib
import Quarry.Proofs.Flatten.Spots
import Quarry.Proofs.Records.Significant

/-! A stream of records and the list of the same records are flattened to the same text. -/
namespace Quarry

open Json (Value)

namespace Records

/-- The records of a stream are numbered as the items of a list are. -/
theorem groups_flatten (policy : Policy) (records : List Value) :
    (groups policy records).flatten = Flatten.itemLines policy [] 0 records := by
  rw [groups, Flatten.itemLines_eq_flatMap, List.mapIdx_eq_zipIdx_map, List.flatMap_def]

/-- A stream has the text of the list of its records, if one of them is a list or a record. -/
theorem flatten_eq_document (policy : Policy) (containersOnly : Bool) (content : Text)
    (records : List Value) (h : (all containersOnly content).outcome = .ok records)
    (hcontainer : records.any Value.isContainer = true) :
    (flatten policy containersOnly content).outcome =
      .ok (Flatten.document policy (.list records)) := by
  have hlist : Flatten.lines policy [] (.list records) = (groups policy records).flatten := by
    rw [Flatten.lines, if_pos hcontainer, groups_flatten]
  rw [flatten_outcome_lines, h, Flatten.document, hlist]
  rfl

/-- A stream of a line that is no JSON, a list of an empty record and a text, and a text. -/
theorem flatten_eq_document_mixed :
    let content : Text := "x\n[\x7b\x7d, \"b\"]\n\"a\"".toList
    let records : List Value := [.list [.record [], .text ['b']], .text ['a']]
    (all false content).outcome = .ok records ∧ records.any Value.isContainer = true ∧
    (flatten .standard false content).outcome = .ok (Flatten.document .standard (.list records)) ∧
    Flatten.document .standard (.list records) = "[0][1]: b\n[1]: a".toList := by
  have hlines : Text.lines "x\n[\x7b\x7d, \"b\"]\n\"a\"".toList =
      ["x".toList, "[\x7b\x7d, \"b\"]".toList, "\"a\"".toList] := by cbv
  intro content records
  have hsignificant : significant false content = records.map Line.record := by
    rw [significant, hlines]
    cbv
  have hall : (all false content).outcome = .ok records := by
    rw [all_outcome, reached, hsignificant]
    rfl
  have htext : Flatten.document .standard (.list records) = "[0][1]: b\n[1]: a".toList := by cbv
  exact ⟨hall, rfl, flatten_eq_document .standard false content records hall rfl, htext⟩

end Records
end Quarry
