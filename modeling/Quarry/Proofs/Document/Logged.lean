import Quarry.Proofs.Records.Single
import Quarry.Proofs.Records.Skipped

/-! What is logged of content that is read as a stream. Its lines are read twice, up to the first
record to settle the format, and all of them for the text, and what is skipped is logged each time. -/
namespace Quarry

open Json (Value)

namespace Records

/-- The log entry behind a stream: how many records it has, and how many of them have text. -/
def summaryEntry (records kept : Nat) : Entry :=
  ⟨.debug, .records, "Flattened JSONL stream (".toList ++ Text.ofNat records ++ " records, ".toList ++
    Text.ofNat kept ++ " with text)".toList⟩

theorem skippedNumbers_eq_nil (lines : List Text) (h : ∀ line ∈ lines, isSkipped line = false) :
    skippedNumbers lines = [] := by
  rw [skippedNumbers, List.filterMap_eq_nil_iff]
  rintro ⟨line, number⟩ hline
  dsimp only
  rw [h line (List.fst_mem_of_mem_zipIdx hline)]
  rfl

/-- The only line of a document on one line is not skipped. -/
theorem isSkipped_of_single (content : Text) (value : Value) (hread : Json.read content = .ok value)
    (hone : (Text.filled content).length = 1) (line : Text) (hline : line ∈ Text.lines content) :
    isSkipped line = false := by
  obtain ⟨only, honly⟩ := List.length_eq_one_iff.1 hone
  have hholds := holds_of_read content only value honly hread
  by_cases hblank : Text.isBlank line = true
  · rw [isSkipped, hblank]
    rfl
  · have hfilled : line ∈ Text.filled content :=
      List.mem_filter.2 ⟨hline, by rw [Bool.eq_false_iff.2 hblank]; rfl⟩
    rw [honly, List.mem_singleton] at hfilled
    rw [Holds, honly] at hholds
    cases hholds with
    | cons hvalue _ =>
      rw [isSkipped, hfilled, hvalue]
      exact Bool.and_false _

section

variable (path : Path) (content : Text) (hlines : ¬HoldsTooDeep content)

include hlines

theorem all_outcome_of_shallow :
    (all (Promise.ofPath path).containersOnly content).outcome = .ok (accepted path content) := by
  apply all_of_significant
  rw [significant_of_shallow _ content hlines, accepted_eq]

theorem flatten_log (policy : Policy) :
    (flatten policy (Promise.ofPath path).containersOnly content).log =
      (skippedNumbers (Text.lines content)).map skippedEntry ++
        [summaryEntry (accepted path content).length
          ((groups policy (accepted path content)).filter fun group => !group.isEmpty).length] := by
  rw [flatten, Traced.log_bind_ok _ _ _ (all_outcome_of_shallow path content hlines),
    all_log content hlines]
  rfl

end

end Records

namespace Detector

variable (detector : Detector) (content : Text)

theorem whole_log : (detector.whole content).log = [] := by
  rw [whole]
  split
  · split
    · rfl
    · rfl
    · rfl
  · rfl

theorem wholeAs_log (promise : Promise) : (detector.wholeAs promise content).log = [] := by
  cases hwhole : (detector.whole content).outcome with
  | error fault =>
    rw [wholeAs, Traced.bind_eq, Traced.andThen, hwhole]
    exact whole_log detector content
  | ok found =>
    rw [wholeAs, Traced.log_bind_ok _ _ _ hwhole, whole_log, List.nil_append]
    cases found with
    | none => rfl
    | some value =>
      dsimp only
      split
      · rfl
      · split
        · rfl
        · rfl

/-- A value is taken for a stream only where it stands on the one line that is not blank. -/
theorem length_filled_of_taken (promise : Promise) (value : Value)
    (h : taken promise content value = .plain .jsonLines) : (Text.filled content).length = 1 := by
  rw [taken] at h
  split at h
  · rename_i hstream
    rw [Bool.and_eq_true, isSingleLine, beq_iff_eq] at hstream
    exact hstream.2
  · cases h

variable (path : Path) (hopen : ∀ format, Promise.ofPath path ≠ .settled format)

include hopen

/-- A document on one line is a stream without a look at its lines, none of which is skipped. -/
theorem classify_log_of_takes (value : Value)
    (htakes : detector.Takes (.ofPath path) content value)
    (h : (detector.classify path content).outcome = .ok (.plain .jsonLines)) :
    (detector.classify path content).log = [] ∧
      ∀ line ∈ Text.lines content, Records.isSkipped line = false := by
  have hwhole := wholeAs_of_takes detector (.ofPath path) content value htakes
  have htaken := classifyAs_of_takes detector (.ofPath path) content hopen value htakes
  have hone := length_filled_of_taken content _ value (Except.ok.inj (htaken.symm.trans h))
  constructor
  · rw [classify, classifyAs_eq detector _ content hopen, Traced.log_bind_ok _ _ _ hwhole, wholeAs_log]
    rfl
  · exact Records.isSkipped_of_single content value htakes.2.1 hone

/-- Other content is a stream by the first record in it, and is read up to there. -/
theorem classify_log_of_neither (hlines : ¬Records.HoldsTooDeep content)
    (hwhole : (detector.wholeAs (.ofPath path) content).outcome = .ok none)
    (h : (detector.classify path content).outcome = .ok (.plain .jsonLines)) :
    (detector.classify path content).log =
      (Records.skippedNumbers ((Text.lines content).takeWhile fun line =>
        !Records.holdsRecord path line)).map Records.skippedEntry := by
  have hclassify := classifyAs_eq detector (.ofPath path) content hopen
  rw [classify, hclassify, Traced.outcome_bind_ok _ _ _ hwhole, Traced.outcome_bind_eq_ok] at h
  obtain ⟨found, hfound, -⟩ := h
  rw [classify, hclassify, Traced.log_bind_ok _ _ _ hwhole, wholeAs_log, List.nil_append,
    Traced.log_bind_ok _ _ _ hfound, Records.exist_log path content hlines]
  exact List.append_nil _

/-- While a stream is told to be one, the lines in front of its first record are logged if they are
skipped. -/
theorem classify_log (hlines : ¬Records.HoldsTooDeep content)
    (h : (detector.classify path content).outcome = .ok (.plain .jsonLines)) :
    (detector.classify path content).log =
      (Records.skippedNumbers ((Text.lines content).takeWhile fun line =>
        !Records.holdsRecord path line)).map Records.skippedEntry := by
  by_cases hvalue : ∃ value, detector.Takes (.ofPath path) content value
  · obtain ⟨value, htakes⟩ := hvalue
    obtain ⟨hlog, hnone⟩ := classify_log_of_takes detector content path hopen value htakes h
    rw [hlog, Records.skippedNumbers_eq_nil]
    · rfl
    · exact fun line hline => hnone line ((List.takeWhile_sublist _).mem hline)
  · have hdeep : ¬detector.WholeTooDeep content := by
      intro hdeep
      rw [classify, classifyAs_of_tooDeep detector _ content hopen hdeep] at h
      cases h
    exact classify_log_of_neither detector content path hopen hlines
      (wholeAs_of_neither detector _ content (not_exists.1 hvalue) hdeep) h

end Detector

namespace DocumentReader

/-- The log entry of a JSON file that is read as a stream. -/
def fallbackEntry (path : Path) : Entry :=
  ⟨.info, .document, "JSON parse failed, using JSONL fallback: ".toList ++ path.text⟩

theorem logFallback_log (path : Path) : (logFallback path).log =
    if Text.lower path.suffix = ".json".toList then [fallbackEntry path] else [] := by
  rw [logFallback]
  by_cases h : Promise.ofPath path = .document
  · rw [if_pos h, if_pos ((Promise.document_iff path).1 h)]
    rfl
  · rw [if_neg h, if_neg ((Promise.document_iff path).not.1 h)]
    rfl

theorem checkContentSize_of_le (reader : DocumentReader) (path : Path) (content : Text)
    (h : Text.lower path.suffix = ".json".toList →
      content.length ≤ reader.settings.maxJsonSize) :
    reader.checkContentSize path content = pure () := by
  rw [checkContentSize, if_neg]
  rw [Bool.and_eq_true, decide_eq_true_eq, decide_eq_true_eq, Promise.document_iff]
  rintro ⟨hsuffix, hlarge⟩
  exact absurd (h hsuffix) (not_le.2 hlarge)

theorem open_of_jsonLines (detector : Detector) (path : Path) (content : Text)
    (h : (detector.classify path content).outcome = .ok (.plain .jsonLines)) :
    ∀ format, Promise.ofPath path ≠ .settled format := by
  have hsettled : Promise.ofPath path ≠ .settled .jsonLines := by
    intro hpromise
    rcases Promise.settled_cases path _ hpromise with h | h | h | h <;> cases h
  exact (Detector.taken_of_jsonLines detector (.ofPath path) content hsettled h).1

/-- A stream is logged line by line: what is skipped in front of its first record, that it is none of
one document if its suffix says so, and then all that is skipped, with what has been read. The lines
that are skipped, the records and the values that do not count are the lines that are not blank. -/
theorem parseContent_log (reader : DocumentReader) (path : Path) (content : Text)
    (hlines : ¬Records.HoldsTooDeep (Text.withoutMark content))
    (hsize : Text.lower path.suffix = ".json".toList →
      (Text.withoutMark content).length ≤ reader.settings.maxJsonSize)
    (hclassify : (reader.detector.classify path (Text.withoutMark content)).outcome =
      .ok (.plain .jsonLines)) :
    let lines := Text.lines (Text.withoutMark content)
    let records := Records.accepted path (Text.withoutMark content)
    let kept := (Records.groups reader.policy records).filter fun group => !group.isEmpty
    let text := Text.unlines (kept.map Text.unlines)
    let skipped := Records.skippedNumbers lines
    (reader.parseContent content path).outcome = .ok text ∧
      (reader.parseContent content path).log =
        (Records.skippedNumbers (lines.takeWhile fun line =>
          !Records.holdsRecord path line)).map Records.skippedEntry ++
        (if Text.lower path.suffix = ".json".toList then [fallbackEntry path] else []) ++
        skipped.map Records.skippedEntry ++
        [Records.summaryEntry records.length kept.length, parsedEntry .jsonLines path.text text []] ∧
      records.length + skipped.length + lines.countP (Records.holdsIgnored path) =
        (Text.filled (Text.withoutMark content)).length := by
  intro lines records kept text skipped
  have hopen := open_of_jsonLines reader.detector path _ hclassify
  have hbinary : (Promise.ofPath path).format.isBinary = false := by
    cases hpromise : Promise.ofPath path with
    | settled format => exact absurd hpromise (hopen format)
    | document | stream | anything => rfl
  have hflatten : (Records.flatten reader.policy (Promise.ofPath path).containersOnly
      (Text.withoutMark content)).outcome = .ok text := by
    rw [Records.flatten_outcome, Records.all_outcome_of_shallow path _ hlines]
    rfl
  have htext : (reader.textOf path (Text.withoutMark content) (.plain .jsonLines)).outcome =
      .ok text := by
    rw [textOf_plain]
    exact hflatten
  have htextLog : (reader.textOf path (Text.withoutMark content) (.plain .jsonLines)).log =
      (if Text.lower path.suffix = ".json".toList then [fallbackEntry path] else []) ++
        (skipped.map Records.skippedEntry ++ [Records.summaryEntry records.length kept.length]) := by
    rw [textOf, Traced.log_bind_ok _ _ () (logFallback_outcome path), logFallback_log, render,
      Records.flatten_log path _ hlines]
  have hparse : reader.parseContent content path =
      reader.parseText path (Text.withoutMark content) := by
    rw [parseContent, if_neg (by simp [hbinary])]
  rw [hparse, parseText_eq, checkContentSize_of_le reader path _ hsize, Traced.pure_bind,
    Traced.outcome_bind_ok _ _ _ hclassify, Traced.outcome_bind_ok _ _ _ htext,
    Traced.log_bind_ok _ _ _ hclassify, Traced.log_bind_ok _ _ _ htext, htextLog,
    Detector.classify_log reader.detector _ path hopen hlines hclassify]
  refine ⟨rfl, ?_, Records.length_filled path _ hlines⟩
  simp only [List.append_assoc]
  rfl

/-- Behind a mark, the only record stands on the second of four lines. The first one is logged twice,
the last one only when all of them are read. -/
theorem parseContent_log_marked :
    let content : Text := [Text.byteOrderMark, 'x', '\n', '[', '"', 'a', '"', ']', '\n', ' ', '\n', 'y']
    let path := Path.ofText "x.json".toList
    let reader : DocumentReader := ⟨⟨.ofText ['/'], 1, 11⟩, .standard, ⟨none⟩⟩
    (reader.parseContent content path).outcome = .ok "[0]: a".toList ∧
      (reader.parseContent content path).log =
        [Records.skippedEntry 1, fallbackEntry path, Records.skippedEntry 1, Records.skippedEntry 4,
          Records.summaryEntry 1 1, parsedEntry .jsonLines path.text "[0]: a".toList []] := by
  intro content path reader
  have hsuffix : Text.lower path.suffix = ".json".toList := by cbv
  have hmark : Text.withoutMark content =
      ['x', '\n', '[', '"', 'a', '"', ']', '\n', ' ', '\n', 'y'] := by rfl
  have hread : Json.read (Text.withoutMark content) = .error .malformed := by
    rw [hmark]
    cbv
  have hlines : Text.lines (Text.withoutMark content) =
      [['x'], ['[', '"', 'a', '"', ']'], [' '], ['y']] := by
    rw [hmark]
    cbv
  have hx : Json.read (Text.strip ['x']) = .error .malformed := by cbv
  have hlist : Json.read (Text.strip ['[', '"', 'a', '"', ']']) = .ok (.list [.text ['a']]) := by cbv
  have hblank : Json.read (Text.strip [' ']) = .error .malformed := by cbv
  have hy : Json.read (Text.strip ['y']) = .error .malformed := by cbv
  have hshallow : ¬Records.HoldsTooDeep (Text.withoutMark content) := by
    rintro ⟨line, hline, hdeep⟩
    rw [hlines] at hline
    simp only [List.mem_cons, List.not_mem_nil, or_false] at hline
    rcases hline with rfl | rfl | rfl | rfl
    · rw [hx] at hdeep
      cases hdeep
    · rw [hlist] at hdeep
      cases hdeep
    · rw [hblank] at hdeep
      cases hdeep
    · rw [hy] at hdeep
      cases hdeep
  have hpromise : Promise.ofPath path = .document := (Promise.document_iff path).2 hsuffix
  have hclassify : (reader.detector.classify path (Text.withoutMark content)).outcome =
      .ok (.plain .jsonLines) := by
    have hnone (value : Value) :
        ¬reader.detector.HoldsWhole path (Text.withoutMark content) value := by
      rintro ⟨-, hvalue, -⟩
      rw [hread] at hvalue
      cases hvalue
    obtain ⟨format, hformat, ⟨-, hprose⟩ | ⟨rfl, -⟩⟩ := reader.detector.classify_of_not_whole path
      _ (by simp [hpromise]) hnone (by simp [hread]) hshallow
    · exact absurd (by rw [hsuffix]; decide) hprose.1
    · exact hformat
  obtain ⟨houtcome, hlog, -⟩ := parseContent_log reader path content hshallow
    (fun _ => by rw [hmark]; decide) hclassify
  have hrecords : Records.accepted path (Text.withoutMark content) = [.list [.text ['a']]] := by cbv
  have hgroups : Records.groups reader.policy [.list [.text ['a']]] = [["[0]: a".toList]] := by cbv
  have hskipped : Records.skippedNumbers (Text.lines (Text.withoutMark content)) = [1, 4] := by cbv
  have hpassed : Records.skippedNumbers ((Text.lines (Text.withoutMark content)).takeWhile
      fun line => !Records.holdsRecord path line) = [1] := by cbv
  rw [hrecords, hgroups] at houtcome hlog
  rw [hskipped, hpassed, if_pos hsuffix] at hlog
  exact ⟨houtcome, hlog⟩

end DocumentReader
end Quarry
