import Mathlib
import Quarry.Proofs.Document.Reported
import Quarry.Proofs.Records.Stream

/-! What content is taken for where the suffix leaves it open, and what is made of it then: a document
where the whole of it counts as JSON, else a stream where the suffix or one of its lines tells so, else
text, which is left as it is. -/
namespace Quarry

open Json (Value)

namespace Records

/-- Whether a value counts as JSON in a file of this path: in prose, only lists and records do. -/
def counts (path : Path) (value : Value) : Bool :=
  Promise.jsonSuffixes.contains (Text.lower path.suffix) || value.isContainer

/-- The values that count among those that the lines hold. -/
def accepted (path : Path) (content : Text) : List Value :=
  (Text.lines content).filterMap fun line =>
    (Json.read (Text.strip line)).toOption.filter (counts path)

theorem counts_eq (path : Path) (value : Value) :
    counts path value = !((Promise.ofPath path).containersOnly && !value.isContainer) := by
  by_cases h : Text.lower path.suffix ∈ Promise.jsonSuffixes
  · simp [counts, h, (Promise.containersOnly_iff path).2 h]
  · have honly : (Promise.ofPath path).containersOnly = true := by
      rw [← Promise.containersOnly_iff path] at h
      simpa using h
    simp [counts, h, honly]

variable (containersOnly : Bool)

/-- What a line holds, blank or not, is told by reading it without its margins. -/
theorem record?_ofText (line : Text) : (Line.ofText containersOnly line).record? =
    (Json.read (Text.strip line)).toOption.filter fun value =>
      !(containersOnly && !value.isContainer) := by
  by_cases hempty : (Text.strip line).isEmpty = true
  · have hread : Json.read (Text.strip line) = .error .malformed := by
      rw [List.isEmpty_iff.1 hempty]
      rfl
    rw [Line.ofText, if_pos hempty, hread]
    rfl
  · rw [Line.ofText, if_neg hempty]
    cases hread : Json.read (Text.strip line) with
    | error error => cases error <;> rfl
    | ok value =>
      by_cases hignored : (containersOnly && !value.isContainer) = true
      · simp only [hignored, if_true, Except.toOption, Option.filter_some, Bool.not_true]
        rfl
      · simp only [hignored, Except.toOption, Option.filter_some]
        rfl

/-- If no line nests too deeply, the lines that matter are the records. -/
theorem significant_of_shallow (content : Text) (h : ¬HoldsTooDeep content) :
    significant containersOnly content =
      ((Text.lines content).filterMap fun line =>
        (Line.ofText containersOnly line).record?).map Line.record := by
  have hlines : ∀ line ∈ Text.lines content, (Line.ofText containersOnly line).isTooDeep = false := by
    intro line hline
    rw [← Bool.not_eq_true, isTooDeep_ofText]
    exact fun hdeep => h ⟨line, hline, hdeep⟩
  rw [significant]
  generalize Text.lines content = lines at hlines
  induction lines with
  | nil => rfl
  | cons line others ih =>
    obtain ⟨hline, hothers⟩ := List.forall_mem_cons.1 hlines
    rw [List.map_cons, List.filter_cons, List.filterMap_cons, ih hothers]
    cases hholds : Line.ofText containersOnly line with
    | blank | malformed | ignored | record value => rfl
    | tooDeep =>
      rw [hholds] at hline
      cases hline

theorem accepted_eq (path : Path) (content : Text) : accepted path content =
    (Text.lines content).filterMap fun line =>
      (Line.ofText (Promise.ofPath path).containersOnly line).record? := by
  have hcounts : counts path = fun value =>
      !((Promise.ofPath path).containersOnly && !value.isContainer) :=
    funext fun value => counts_eq path value
  simp only [accepted, record?_ofText, hcounts]

end Records

namespace Detector

/-- Nothing tells that the content is JSON: neither the suffix nor any line. -/
def IsProse (path : Path) (content : Text) : Prop :=
  Text.lower path.suffix ∉ Promise.jsonSuffixes ∧
    ∀ line ∈ Text.lines content, ∀ value, Json.read (Text.strip line) = .ok value →
      value.isContainer = false

/-- The whole content is short enough for a detector and is one value, which counts. -/
def HoldsWhole (detector : Detector) (path : Path) (content : Text) (value : Value) : Prop :=
  (∀ limit, detector.maxDocumentSize = some limit → (content.length : Int) ≤ limit) ∧
    Json.read content = .ok value ∧ Records.counts path value = true

/-- The content is a stream of one line, which is never taken for a document. -/
def IsOneRecord (path : Path) (content : Text) : Prop :=
  Text.lower path.suffix ∈ Promise.streamSuffixes ∧ (Text.filled content).length = 1

/-- What a detector is to take content for: a document exactly if the whole of it counts as one, else
text exactly if it is prose, and a stream in all other cases. -/
structure Judges (detector : Detector) (path : Path) (content : Text) (detected : Detected) :
    Prop where
  document_iff : ∀ value, detected = .document value ↔
    detector.HoldsWhole path content value ∧ ¬IsOneRecord path content
  text_iff : (∀ value, detected ≠ .document value) →
    (detected = .plain .text ↔ IsProse path content)
  jsonLines_iff : (∀ value, detected ≠ .document value) →
    (detected = .plain .jsonLines ↔ ¬IsProse path content)

theorem isProse_iff (path : Path) (content : Text) :
    IsProse path content ↔
      (Promise.ofPath path).containersOnly = true ∧ Records.accepted path content = [] := by
  have honly : (Promise.ofPath path).containersOnly = true ↔
      Text.lower path.suffix ∉ Promise.jsonSuffixes := by
    rw [← Promise.containersOnly_iff path, Bool.not_eq_false]
  rw [IsProse, honly]
  apply and_congr_right
  intro hsuffix
  have hcounts (value : Value) : Records.counts path value = value.isContainer := by
    simp [Records.counts, hsuffix]
  rw [Records.accepted, List.filterMap_eq_nil_iff]
  apply forall₂_congr
  intro line _
  cases hread : Json.read (Text.strip line) with
  | error error => simp [Except.toOption]
  | ok value => simp [Except.toOption, hcounts]

variable (detector : Detector) (path : Path) (content : Text)

theorem takes_iff (value : Value) : detector.Takes (.ofPath path) content value ↔
    detector.HoldsWhole path content value := by
  have hadmits : detector.admits content = true ↔
      ∀ limit, detector.maxDocumentSize = some limit → (content.length : Int) ≤ limit := by
    rw [admits]
    cases detector.maxDocumentSize <;> simp
  rw [Takes, HoldsWhole, hadmits, Records.counts_eq]
  cases (Promise.ofPath path).containersOnly <;> simp

theorem taken_of_stream (value : Value) (h : IsOneRecord path content) :
    taken (.ofPath path) content value = .plain .jsonLines := by
  obtain ⟨hsuffix, hone⟩ := h
  rw [← Promise.stream_iff] at hsuffix
  rw [Text.filled] at hone
  simp [taken, isSingleLine, hsuffix, hone]

theorem taken_of_not_stream (value : Value) (h : ¬IsOneRecord path content) :
    taken (.ofPath path) content value = .document value := by
  rw [IsOneRecord, ← Promise.stream_iff, Text.filled] at h
  rw [taken, if_neg]
  simpa [isSingleLine] using h

theorem judges_taken (value : Value) (h : detector.HoldsWhole path content value) :
    detector.Judges path content (taken (.ofPath path) content value) := by
  by_cases hone : IsOneRecord path content
  · -- A suffix that promises a stream is none of prose.
    have hnot : ¬IsProse path content := fun hprose => hprose.1 (List.mem_cons_of_mem _ hone.1)
    rw [taken_of_stream path content value hone]
    exact ⟨by simp [hone], by simp [hnot], by simp [hnot]⟩
  · rw [taken_of_not_stream path content value hone]
    refine ⟨fun other => ?_, fun hnot => absurd rfl (hnot value),
      fun hnot => absurd rfl (hnot value)⟩
    rw [Detected.document.injEq]
    constructor
    · rintro rfl
      exact ⟨h, hone⟩
    · -- The content is read as one value only.
      rintro ⟨hother, -⟩
      exact Except.ok.inj (h.2.1.symm.trans hother.2.1)

/-- What is no document is a stream, unless it is prose. -/
theorem judges_plain (format : Format) (hvalue : ∀ value, ¬detector.HoldsWhole path content value)
    (h : format = .text ∧ IsProse path content ∨ format = .jsonLines ∧ ¬IsProse path content) :
    detector.Judges path content (.plain format) := by
  have hdocument (value : Value) : Detected.plain format = .document value ↔
      detector.HoldsWhole path content value ∧ ¬IsOneRecord path content :=
    iff_of_false (by simp) fun hholds => hvalue value hholds.1
  rcases h with ⟨rfl, hprose⟩ | ⟨rfl, hprose⟩
  · exact ⟨hdocument, by simp [hprose], by simp [hprose]⟩
  · exact ⟨hdocument, by simp [hprose], by simp [hprose]⟩

theorem classify_of_not_whole (hopen : ∀ format, Promise.ofPath path ≠ .settled format)
    (hvalue : ∀ value, ¬detector.HoldsWhole path content value)
    (hwhole : Json.read content ≠ .error .tooDeep) (hlines : ¬Records.HoldsTooDeep content) :
    ∃ format, (detector.classify path content).outcome = .ok (.plain format) ∧
      (format = .text ∧ IsProse path content ∨ format = .jsonLines ∧ ¬IsProse path content) := by
  have htakes (value : Value) : ¬detector.Takes (.ofPath path) content value := by
    rw [takes_iff]
    exact hvalue value
  have hclassify := classifyAs_of_neither detector (.ofPath path) content hopen htakes
    fun hdeep => hwhole hdeep.2
  rw [Records.significant_of_shallow _ content hlines, ← Records.accepted_eq] at hclassify
  rw [isProse_iff, classify]
  -- As no line nests too deeply, the first one that matters is the first one that is accepted.
  cases haccepted : Records.accepted path content with
  | nil =>
    rw [haccepted] at hclassify
    cases honly : (Promise.ofPath path).containersOnly with
    | true =>
      rw [honly] at hclassify
      exact ⟨.text, hclassify, by simp⟩
    | false =>
      rw [honly] at hclassify
      exact ⟨.jsonLines, hclassify, by simp⟩
  | cons record others =>
    rw [haccepted] at hclassify
    exact ⟨.jsonLines, hclassify, by simp⟩

/-- A format is found for all content in which nothing nests too deeply. -/
theorem exists_judged (hopen : ∀ format, Promise.ofPath path ≠ .settled format)
    (hwhole : Json.read content ≠ .error .tooDeep) (hlines : ¬Records.HoldsTooDeep content) :
    ∃ detected, (detector.classify path content).outcome = .ok detected ∧
      detector.Judges path content detected := by
  by_cases hvalue : ∃ value, detector.HoldsWhole path content value
  · obtain ⟨value, hholds⟩ := hvalue
    have htakes := (takes_iff detector path content value).2 hholds
    exact ⟨_, classifyAs_of_takes detector _ content hopen value htakes,
      judges_taken detector path content value hholds⟩
  · have hnone := not_exists.1 hvalue
    obtain ⟨format, hclassify, hformat⟩ :=
      classify_of_not_whole detector path content hopen hnone hwhole hlines
    exact ⟨_, hclassify, judges_plain detector path content format hnone hformat⟩

end Detector

namespace DocumentReader

/-- Text is left as it is, up to the mark at its start. -/
theorem returned_of_text (reader : DocumentReader) (path : Path) (content : Text)
    (hopen : ∀ format, Promise.ofPath path ≠ .settled format)
    (h : (reader.detector.classify path (Text.withoutMark content)).outcome = .ok (.plain .text)) :
    (reader.parseContent content path).outcome = .ok (Text.withoutMark content) := by
  have honly := Detector.containersOnly_of_text reader.detector _ _ hopen h
  have hformat : Promise.ofPath path = .anything := by
    cases hpromise : Promise.ofPath path with
    | settled format => exact absurd hpromise (hopen format)
    | document | stream =>
      rw [hpromise] at honly
      cases honly
    | anything => rfl
  rw [reader.parseContent_outcome path content _ (by rw [hformat]; rfl) (by simp [hformat]) h,
    reader.textOf_plain]
  rfl

/-- Where the suffix leaves the format open and nothing nests too deeply, content is taken for what it
is to be taken for. The records of a stream, by their places among which the lines of its text are
named, are then the lines that are accepted, and what is taken for text without its byte-order mark is
returned without it. -/
theorem dispatch_exact (reader : DocumentReader) (path : Path) (content : Text)
    (hsuffix : Text.lower path.suffix ∉ Promise.settledSuffixes)
    (hwhole : Json.read content ≠ .error .tooDeep) (hlines : ¬Records.HoldsTooDeep content) :
    ∃ detected, (reader.detector.classify path content).outcome = .ok detected ∧
      reader.detector.Judges path content detected ∧
      (detected = .plain .jsonLines →
        (Records.all (Promise.ofPath path).containersOnly content).outcome =
          .ok (Records.accepted path content) ∧
        (Records.flatten reader.policy (Promise.ofPath path).containersOnly content).outcome =
          .ok (Text.unlines ((Records.accepted path content).mapIdx fun index record =>
            Flatten.lines reader.policy (Flatten.itemPath [] index) record).flatten)) ∧
      ((reader.detector.classify path (Text.withoutMark content)).outcome = .ok (.plain .text) →
        (reader.parseContent content path).outcome = .ok (Text.withoutMark content)) := by
  have hopen : ∀ format, Promise.ofPath path ≠ .settled format := by
    rw [← Promise.settled_iff] at hsuffix
    exact not_exists.1 hsuffix
  obtain ⟨detected, hclassify, hjudges⟩ :=
    reader.detector.exists_judged path content hopen hwhole hlines
  have hrecords : (Records.all (Promise.ofPath path).containersOnly content).outcome =
      .ok (Records.accepted path content) := by
    apply Records.all_of_significant
    rw [Records.significant_of_shallow _ content hlines, Records.accepted_eq]
  have hflatten : (Records.flatten reader.policy (Promise.ofPath path).containersOnly content).outcome =
      .ok (Text.unlines (Records.groups reader.policy (Records.accepted path content)).flatten) := by
    rw [Records.flatten_outcome_lines, hrecords]
    rfl
  refine ⟨detected, hclassify, hjudges, fun _ => ⟨hrecords, hflatten⟩, ?_⟩
  exact returned_of_text reader path content hopen

/-- A marked note with a list in it: the list is a record, and the note is none. -/
theorem dispatch_exact_note :
    let content : Text := [Text.byteOrderMark, 'n', '\n', '[', '"', 'x', '"', ']']
    let path := Path.ofText "x.TXT".toList
    Text.lower path.suffix ∉ Promise.settledSuffixes ∧
    Json.read content ≠ .error .tooDeep ∧ ¬Records.HoldsTooDeep content ∧
    ((Detector.mk (some 9)).classify path content).outcome = .ok (.plain .jsonLines) ∧
    (Records.flatten .standard true content).outcome = .ok "[0]: x".toList := by
  intro content path
  have hsuffix : Text.lower path.suffix = ".txt".toList := by cbv
  have hopen : Text.lower path.suffix ∉ Promise.settledSuffixes := by
    rw [hsuffix]
    decide
  have hpromise : Promise.ofPath path = .anything := by
    rw [Promise.ofPath, hsuffix]
    rfl
  have hread : Json.read content = .error .malformed := by cbv
  have hlines : Text.lines content = [[Text.byteOrderMark, 'n'], ['[', '"', 'x', '"', ']']] := by cbv
  have hnote : Json.read (Text.strip [Text.byteOrderMark, 'n']) = .error .malformed := by cbv
  have hlist : Json.read (Text.strip ['[', '"', 'x', '"', ']']) = .ok (.list [.text ['x']]) := by cbv
  have hshallow : ¬Records.HoldsTooDeep content := by
    rw [Records.HoldsTooDeep, hlines]
    simp [hnote, hlist]
  have haccepted : Records.accepted path content = [.list [.text ['x']]] := by
    have hcounts : Records.counts path (.list [.text ['x']]) = true := by simp [Records.counts, Value.isContainer]
    have hfirst : (some (.list [.text ['x']])).filter (Records.counts path) = some (.list [.text ['x']]) := by
      rw [Option.filter_some, if_pos hcounts]
    simp only [Records.accepted, hlines, List.filterMap_cons, hnote, hlist, Except.toOption, hfirst]
    rfl
  obtain ⟨detected, hclassify, hjudges, hstream, -⟩ := dispatch_exact
    ⟨⟨.ofText ['/'], 1, 1⟩, .standard, ⟨some 9⟩⟩ path content hopen (by simp [hread]) hshallow
  have hprose : ¬Detector.IsProse path content := by
    rw [Detector.isProse_iff, haccepted]
    simp
  have hdetected : detected = .plain .jsonLines := by
    refine (hjudges.jsonLines_iff fun value h => ?_).2 hprose
    have hholds := ((hjudges.document_iff value).1 h).1.2.1
    rw [hread] at hholds
    cases hholds
  subst hdetected
  have htext := (hstream rfl).2
  rw [hpromise, haccepted] at htext
  refine ⟨hopen, by simp [hread], hshallow, hclassify, htext.trans ?_⟩
  cbv

/-- A list behind a byte-order mark, in a file of prose. The mark is no JSON, so the content is taken
for text. But reading drops the mark first, and what it reads is the list. -/
theorem marked_text_not_returned :
    let content : Text := [Text.byteOrderMark, '[', '"', 'x', '"', ']']
    let path := Path.ofText "a.txt".toList
    Text.lower path.suffix ∉ Promise.settledSuffixes ∧
    Json.read content ≠ .error .tooDeep ∧ ¬Records.HoldsTooDeep content ∧
    ∃ reader : DocumentReader,
      (reader.detector.classify path content).outcome = .ok (.plain .text) ∧
      (reader.parseContent content path).outcome = .ok ['x'] ∧
      (reader.parseContent content path).outcome ≠ .ok (Text.withoutMark content) := by
  intro content path
  have hsuffix : Text.lower path.suffix = ".txt".toList := by cbv
  have hpromise : Promise.ofPath path = .anything := by
    rw [Promise.ofPath, hsuffix]
    rfl
  have hopen : Text.lower path.suffix ∉ Promise.settledSuffixes := by
    rw [hsuffix]
    decide
  have hread : Json.read content = .error .malformed := by cbv
  have hlines : Text.lines content = [content] := by cbv
  have hstrip : Text.strip content = content := by cbv
  have hshallow : ¬Records.HoldsTooDeep content := by
    rw [Records.HoldsTooDeep, hlines]
    simp [hstrip, hread]
  have hmark : Text.withoutMark content = ['[', '"', 'x', '"', ']'] := by cbv
  have hlist : Json.read ['[', '"', 'x', '"', ']'] = .ok (.list [.text ['x']]) := by cbv
  let reader : DocumentReader := ⟨⟨.ofText ['/'], 1, 1⟩, .standard, ⟨none⟩⟩
  have hclassify : (reader.detector.classify path content).outcome = .ok (.plain .text) := by
    have hnone (value : Value) : ¬reader.detector.HoldsWhole path content value := by
      rintro ⟨-, hvalue, -⟩
      rw [hread] at hvalue
      cases hvalue
    have hprose : Detector.IsProse path content :=
      ⟨by rw [hsuffix]; decide, by simp [hlines, hstrip, hread]⟩
    obtain ⟨format, hformat, ⟨rfl, -⟩ | ⟨-, hnot⟩⟩ := reader.detector.classify_of_not_whole path
      content (by simp [hpromise]) hnone (by simp [hread]) hshallow
    · exact hformat
    · exact absurd hprose hnot
  have hparse : (reader.parseContent content path).outcome = .ok ['x'] := by
    have hdocument : (reader.detector.classify path (Text.withoutMark content)).outcome =
        .ok (.document (.list [.text ['x']])) := by
      rw [hmark, Detector.classify, hpromise,
        Detector.classifyAs_of_takes _ _ _ (by simp) _ ⟨rfl, hlist, fun _ => rfl⟩]
      rfl
    rw [reader.parseContent_outcome path content _ (by rw [hpromise]; rfl) (by simp [hpromise]) hdocument,
      textOf]
    cbv
  refine ⟨hopen, by simp [hread], hshallow, reader, hclassify, hparse, ?_⟩
  rw [hparse, hmark]
  simp

end DocumentReader
end Quarry
