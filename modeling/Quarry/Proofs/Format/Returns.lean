import Mathlib
import Quarry.Proofs.Format.Classified
import Quarry.Proofs.Json.Returns

/-! Line ends do not count. Where some line feeds of a content get a carriage return in front of them,
its records, their text and its format stay the same, and so does all that is logged. -/
namespace Quarry

namespace Records

variable (containersOnly : Bool)

theorem ofText_return (line : Text) :
    Line.ofText containersOnly (line ++ ['\r']) = Line.ofText containersOnly line := by
  rw [Line.ofText, Line.ofText, Text.strip_append_blanks line ['\r'] (by decide)]

/-- The numbers of the lines are added to what is read of them. -/
theorem readLines_eq (content : Text) : readLines containersOnly content =
    ((Text.lines content).map (Line.ofText containersOnly)).zipIdx 1 := by
  rw [List.zipIdx_map, readLines, numbered]
  rfl

/-- The search for a record takes one line after another as it is read. -/
theorem exist_eq (content : Text) : exist containersOnly content =
    let lines := readLines containersOnly content
    ⟨(lines.takeWhile fun line => line.1.isPassed).filterMap skipped?,
      match lines.dropWhile fun line => line.1.isPassed with
      | [] => .ok false
      | line :: _ => if line.1.isTooDeep then .error .nestedTooDeeply else .ok true⟩ := by
  simp only [exist, readLines, List.takeWhile_map, List.dropWhile_map, List.filterMap_map]
  congr 1
  rw [Function.comp_def]
  split
  · rename_i hnone
    rw [hnone, List.map_nil]
  · rename_i hsome
    rw [hsome, List.map_cons]

variable (content returned : Text) (h : Text.Returned content returned)

include h

theorem readLines_of_returned :
    readLines containersOnly returned = readLines containersOnly content := by
  rw [readLines_eq, readLines_eq,
    Text.map_lines_of_returned _ (ofText_return containersOnly) content returned h]

theorem all_of_returned : all containersOnly returned = all containersOnly content := by
  rw [all, readLines_of_returned containersOnly content returned h, all]

theorem exist_of_returned : exist containersOnly returned = exist containersOnly content := by
  rw [exist_eq, exist_eq, readLines_of_returned containersOnly content returned h]

theorem flatten_of_returned (policy : Policy) :
    flatten policy containersOnly returned = flatten policy containersOnly content := by
  rw [flatten, all_of_returned containersOnly content returned h, flatten]

end Records

namespace Detector

section

variable (content returned : Text) (h : Text.Returned content returned)

include h

theorem isSingleLine_of_returned : isSingleLine returned = isSingleLine content := by
  have hblank (line : Text) : Text.isBlank (line ++ ['\r']) = Text.isBlank line := by
    rw [Text.isBlank, List.all_append, ← Text.isBlank]
    exact Bool.and_true _
  have hcount (text : Text) : ((Text.lines text).filter fun line => !Text.isBlank line).length =
      ((Text.lines text).map Text.isBlank).countP (!·) := by
    rw [List.countP_map, List.countP_eq_length_filter]
    rfl
  rw [isSingleLine, isSingleLine, hcount, hcount,
    Text.map_lines_of_returned Text.isBlank hblank content returned h]

theorem whole_of_returned (detector : Detector) (hlimit : detector.maxDocumentSize = none) :
    detector.whole returned = detector.whole content := by
  have hadmits (text : Text) : detector.admits text = true := by rw [admits, hlimit]
  rw [whole, whole, hadmits, hadmits, Json.read_of_returned content returned h]

theorem wholeAs_of_returned (detector : Detector) (hlimit : detector.maxDocumentSize = none)
    (promise : Promise) : detector.wholeAs promise returned = detector.wholeAs promise content := by
  rw [wholeAs, wholeAs, whole_of_returned content returned h detector hlimit,
    isSingleLine_of_returned content returned h]

theorem classifyAs_of_returned (detector : Detector) (hlimit : detector.maxDocumentSize = none)
    (promise : Promise) :
    detector.classifyAs promise returned = detector.classifyAs promise content := by
  by_cases hsettled : ∃ format, promise = .settled format
  · obtain ⟨format, rfl⟩ := hsettled
    rfl
  · have hopen : ∀ format, promise ≠ .settled format := not_exists.1 hsettled
    rw [classifyAs_eq detector promise returned hopen, classifyAs_eq detector promise content hopen,
      wholeAs_of_returned content returned h detector hlimit,
      Records.exist_of_returned _ content returned h]

end

/-- A content has the same records, the same text as a stream and the same format, with the same value
where it is a document, whichever of its line feeds get a carriage return. -/
theorem classify_of_returned (content returned : Text) (h : Text.Returned content returned) :
    (∀ containersOnly, Records.all containersOnly returned = Records.all containersOnly content ∧
      ∀ policy, Records.flatten policy containersOnly returned =
        Records.flatten policy containersOnly content) ∧
    ∀ path, (Detector.mk none).classify path returned = (Detector.mk none).classify path content := by
  refine ⟨fun containersOnly => ⟨?_, fun policy => ?_⟩, fun path => ?_⟩
  · exact Records.all_of_returned containersOnly content returned h
  · exact Records.flatten_of_returned containersOnly content returned h policy
  · exact classifyAs_of_returned content returned h ⟨none⟩ rfl (.ofPath path)

/-- A list over three lines, of which the second one is a record by itself. -/
theorem classify_of_returned_list :
    let content : Text := ['[', '\n', '7', '\n', ']', '\n']
    let returned : Text := ['[', '\r', '\n', '7', '\n', ']', '\r', '\n']
    Text.Returned content returned ∧
    (Records.all false returned).outcome = .ok [.int 7] ∧
    ((Detector.mk none).classify (.ofText "x.txt".toList) returned).outcome =
      .ok (.document (.list [.int 7])) := by
  intro content returned
  have hreturned : Text.Returned content returned :=
    .keep _ _ _ (.feed _ _ (.keep _ _ _ (.keep _ _ _ (.keep _ _ _ (.feed _ _ .done)))))
  obtain ⟨hrecords, hclassify⟩ := classify_of_returned content returned hreturned
  have hsignificant : Records.significant false content = [.record (.int 7)] := by cbv
  have hall : (Records.all false content).outcome = .ok [.int 7] := by
    rw [Records.all_outcome, Records.reached, hsignificant]
    rfl
  have hsuffix : Text.lower (Path.ofText "x.txt".toList).suffix = ".txt".toList := by cbv
  have hpromise : Promise.ofPath (.ofText "x.txt".toList) = .anything := by
    rw [Promise.ofPath, hsuffix]
    rfl
  have hread : Json.read content = .ok (.list [.int 7]) := by cbv
  have hdocument : ((Detector.mk none).classify (.ofText "x.txt".toList) content).outcome =
      .ok (.document (.list [.int 7])) := by
    rw [classify, hpromise, classifyAs_of_takes _ _ _ (by simp) _ ⟨rfl, hread, fun _ => rfl⟩]
    rfl
  refine ⟨hreturned, ?_, ?_⟩
  · rw [(hrecords false).1, hall]
  · rw [hclassify, hdocument]

end Detector
end Quarry
