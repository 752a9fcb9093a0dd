import Mathlib
import Quarry.Proofs.Document.Detected
import Quarry.Proofs.Json.Reading
import Quarry.Proofs.Records.Significant
import Quarry.Proofs.Text.Filled

/-! A stream whose lines are all JSON: whatever its lines hold, it is no document, and its text is
that of the values of its lines. -/
namespace Quarry.Records

open Json (Value)

/-- A content whose lines that are not blank are JSON, with the values of these lines. -/
def Holds (content : Text) (records : List Value) : Prop :=
  List.Forall₂ (fun line record => Json.read (Text.strip line) = .ok record)
    (Text.filled content) records

theorem filled_of_holds (content : Text) (records : List Value) (h : Holds content records)
    (hn : records ≠ []) : ∃ first others, Text.filled content = first :: others := by
  cases hfilled : Text.filled content with
  | nil =>
    rw [Holds, hfilled, List.forall₂_nil_left_iff] at h
    exact absurd h hn
  | cons first others => exact ⟨first, others, rfl⟩

theorem significant_of_holds (content : Text) (records : List Value) (h : Holds content records) :
    significant false content = records.map Line.record := by
  rw [Holds, Text.filled] at h
  rw [significant]
  generalize Text.lines content = lines at h ⊢
  induction lines generalizing records with
  | nil =>
    cases h
    rfl
  | cons line others ih =>
    by_cases hblank : Text.isBlank line = true
    · have hline : Line.ofText false line = .blank := by
        rw [Line.ofText, (Text.strip_eq_nil_iff line).2 hblank]
        rfl
      have hothers := ih records (by simpa [hblank] using h)
      simpa [hline, Line.isPassed] using hothers
    · simp only [List.filter_cons, hblank, Bool.not_false, if_true] at h
      cases h with
      | cons hread htail =>
        rename_i record rest
        have hbody : (Text.strip line).isEmpty = false := by
          simpa [Text.strip_eq_nil_iff] using hblank
        have hline : Line.ofText false line = .record record := by
          simp [Line.ofText, hbody, hread]
        simpa [hline, Line.isPassed] using ih rest htail

theorem all_of_holds (content : Text) (records : List Value) (h : Holds content records) :
    (all false content).outcome = .ok records :=
  all_of_significant false content records (significant_of_holds content records h)

theorem exist_of_holds (content : Text) (records : List Value) (h : Holds content records)
    (hn : records ≠ []) : (exist false content).outcome = .ok true := by
  obtain ⟨record, others, rfl⟩ := List.exists_cons_of_ne_nil hn
  rw [exist_outcome, significant_of_holds content _ h, List.map_cons]
  rfl

/-- In front of the first record there are blank characters alone, and behind it there is nothing
or a blank, and then the other records. -/
theorem exists_first_record (content : Text) (record : Value) (others : List Value)
    (h : Holds content (record :: others)) :
    ∃ blanks body rest, content = blanks ++ (body ++ rest) ∧ Text.isBlank blanks = true ∧
      Json.read body = .ok record ∧ (∀ c ∈ rest.head?, Text.isBlankChar c = true) ∧
      Holds rest others := by
  obtain ⟨line, lines, hfilled⟩ := filled_of_holds content _ h (by simp)
  rw [Holds, hfilled] at h
  cases h with
  | cons hread htail =>
    obtain ⟨above, below, htext, habove, hbelow, hlines⟩ :=
      Text.exists_first content line lines hfilled
    obtain ⟨left, right, hleft, hright, hline⟩ := Text.exists_margins line
    refine ⟨above ++ left, Text.strip line, right ++ below, ?_, ?_, hread, ?_, ?_⟩
    · rw [htext]
      nth_rewrite 1 [hline]
      simp only [List.append_assoc]
    · rw [Text.isBlank, List.all_append, Bool.and_eq_true]
      exact ⟨habove, hleft⟩
    · intro c hc
      cases right with
      | nil =>
        rw [hbelow c hc]
        rfl
      | cons d right =>
        cases hc
        rw [Text.isBlank, List.all_cons, Bool.and_eq_true] at hright
        exact hright.1
    · rw [Holds, Text.filled_behind right below hright hbelow, hlines]
      exact htail

/-- A stream is no document unless it has one record. -/
theorem read_of_holds (content : Text) (record : Value) (others : List Value)
    (h : Holds content (record :: others)) :
    (Json.read content = .ok record ∧ others = []) ∨ Json.Refused content := by
  obtain ⟨blanks, body, rest, rfl, hblanks, hread, hrest, hothers⟩ :=
    exists_first_record content record others h
  rcases Json.read_below blanks (body ++ rest) hblanks with hbelow | hrefused
  · rcases Json.read_behind body rest record hread hrest with ⟨hbehind, hblank⟩ | hrefused
    · refine Or.inl ⟨hbelow.trans hbehind, ?_⟩
      rw [Holds, Text.filled_eq_nil rest hblank, List.forall₂_nil_left_iff] at hothers
      exact hothers
    · right
      rwa [Json.Refused, hbelow]
  · exact Or.inr hrefused

/-- No byte-order mark starts a stream, since no JSON starts with one. -/
theorem withoutMark_of_holds (content : Text) (record : Value) (others : List Value)
    (h : Holds content (record :: others)) : Text.withoutMark content = content := by
  obtain ⟨blanks, body, rest, rfl, hblanks, hread, -, -⟩ :=
    exists_first_record content record others h
  -- The mark is no blank, so it could only be the first character of the first record.
  cases blanks with
  | cons c blanks =>
    rw [Text.isBlank, List.all_cons, Bool.and_eq_true] at hblanks
    have hmark : c ≠ Text.byteOrderMark := by
      rintro rfl
      exact absurd hblanks.1 (by decide)
    simp [Text.withoutMark, hmark]
  | nil =>
    cases body with
    | nil => cases hread
    | cons c body =>
      have hmark : c ≠ Text.byteOrderMark := by
        rintro rfl
        obtain ⟨error, herror, -⟩ :=
          Json.refused_of_head Text.byteOrderMark body (by decide) (by decide)
        rw [hread] at herror
        cases herror
      simp [Text.withoutMark, hmark]

/-- The whole content counts as a document nowhere but in a stream of one line, which is told apart
by its number of lines. -/
theorem wholeAs_of_holds (detector : Detector) (content : Text) (record : Value)
    (others : List Value) (h : Holds content (record :: others)) :
    (detector.wholeAs .stream content).outcome = .ok none ∨
      (detector.wholeAs .stream content).outcome = .ok (some (.plain .jsonLines)) := by
  have hnone (hwhole : (detector.whole content).outcome = .ok none) :
      (detector.wholeAs .stream content).outcome = .ok none := by
    rw [Detector.wholeAs, Traced.outcome_bind_ok _ _ none hwhole]
    rfl
  by_cases hadmits : detector.admits content = true
  · rcases read_of_holds content record others h with ⟨hread, rfl⟩ | ⟨error, hread, herror⟩
    · have hsingle : Detector.isSingleLine content = true := by
        have hlength := h.length_eq
        rw [Text.filled, List.length_singleton] at hlength
        rw [Detector.isSingleLine, hlength]
        rfl
      have hwhole : (detector.whole content).outcome = .ok (some record) := by
        simp [Detector.whole, hadmits, hread]
      right
      rw [Detector.wholeAs, Traced.outcome_bind_ok _ _ _ hwhole]
      simp [Promise.containersOnly, hsingle]
    · left
      apply hnone
      cases error with
      | tooDeep => exact absurd rfl herror
      | malformed => simp [Detector.whole, hadmits, hread]
      | hugeInteger => simp [Detector.whole, hadmits, hread]
  · left
    apply hnone
    simp [Detector.whole, hadmits]

theorem classifyAs_of_holds (detector : Detector) (content : Text) (record : Value)
    (others : List Value) (h : Holds content (record :: others)) :
    (detector.classifyAs .stream content).outcome = .ok (.plain .jsonLines) := by
  rw [Detector.classifyAs]
  · rcases wholeAs_of_holds detector content record others h with hwhole | hwhole
    · have hexist := exist_of_holds content _ h (by simp)
      rw [Traced.outcome_bind_ok _ _ _ hwhole]
      exact Traced.outcome_bind_ok _ _ _ hexist
    · rw [Traced.outcome_bind_ok _ _ _ hwhole]
      rfl
  · intro format
    simp

theorem promise_of_suffix (path : Path)
    (hpath : Text.lower path.suffix = ".jsonl".toList ∨
      Text.lower path.suffix = ".ndjson".toList) : Promise.ofPath path = .stream := by
  rw [Promise.stream_iff, Promise.streamSuffixes, List.mem_pair]
  exact hpath

theorem flatten_of_holds (policy : Policy) (content : Text) (records : List Value)
    (h : Holds content records) : (flatten policy false content).outcome =
      .ok (Text.unlines (groups policy records).flatten) := by
  rw [flatten_outcome_lines, all_of_holds content records h]
  rfl

theorem parseContent_outcome_of_holds (reader : DocumentReader) (path : Path) (content : Text)
    (record : Value) (others : List Value) (hpromise : Promise.ofPath path = .stream)
    (h : Holds content (record :: others)) : (reader.parseContent content path).outcome =
      .ok (Text.unlines (groups reader.policy (record :: others)).flatten) := by
  have hmark := withoutMark_of_holds content record others h
  have hclassify : (reader.detector.classify path (Text.withoutMark content)).outcome =
      .ok (.plain .jsonLines) := by
    rw [hmark, Detector.classify, hpromise]
    exact classifyAs_of_holds reader.detector content record others h
  rw [reader.parseContent_outcome path content _ (by rw [hpromise]; rfl) (by simp [hpromise]) hclassify,
    reader.textOf_plain, DocumentReader.render, hpromise, hmark]
  exact flatten_of_holds reader.policy content (record :: others) h

/-- A stream whose lines are JSON, with at least one that is not blank, is never taken for a
document. Its records are the values of its lines, and its text is that of each of them at its
place among the records. -/
theorem parseContent_of_holds (reader : DocumentReader) (path : Path) (content : Text)
    (records : List Value)
    (hpath : Text.lower path.suffix = ".jsonl".toList ∨
      Text.lower path.suffix = ".ndjson".toList)
    (hn : records ≠ []) (h : Holds content records) :
    (reader.detector.classify path content).outcome = .ok (.plain .jsonLines) ∧
      (all false content).outcome = .ok records ∧
      (reader.parseContent content path).outcome = .ok (Text.unlines
        (records.mapIdx fun index record =>
          Flatten.lines reader.policy (Flatten.itemPath [] index) record).flatten) := by
  have hpromise := promise_of_suffix path hpath
  obtain ⟨record, others, rfl⟩ := List.exists_cons_of_ne_nil hn
  have hclassify : (reader.detector.classify path content).outcome = .ok (.plain .jsonLines) := by
    rw [Detector.classify, hpromise]
    exact classifyAs_of_holds reader.detector content record others h
  exact ⟨hclassify, all_of_holds content (record :: others) h,
    parseContent_outcome_of_holds reader path content record others hpromise h⟩

/-- A list and a text on two lines, with a blank line between them. -/
theorem parseContent_of_holds_text :
    Holds "[\"a\"]\n \n\"b\"".toList [.list [.text ['a']], .text ['b']] ∧
    (DocumentReader.parseContent ⟨⟨.ofText ['/'], 1, 1⟩, .standard, ⟨some 0⟩⟩
      "[\"a\"]\n \n\"b\"".toList (.ofText "x.JSONL".toList)).outcome =
        .ok "[0]: a\n[1]: b".toList := by
  have hpath : Text.lower (Path.ofText "x.JSONL".toList).suffix = ".jsonl".toList := by cbv
  have hfilled : Text.filled "[\"a\"]\n \n\"b\"".toList =
      ["[\"a\"]".toList, "\"b\"".toList] := by cbv
  have hholds : Holds "[\"a\"]\n \n\"b\"".toList [.list [.text ['a']], .text ['b']] := by
    rw [Holds, hfilled]
    exact .cons (by cbv) (.cons (by cbv) .nil)
  have h := parseContent_of_holds ⟨⟨.ofText ['/'], 1, 1⟩, .standard, ⟨some 0⟩⟩
    (.ofText "x.JSONL".toList) "[\"a\"]\n \n\"b\"".toList _ (Or.inl hpath) (by simp) hholds
  refine ⟨hholds, h.2.2.trans ?_⟩
  cbv

end Quarry.Records
