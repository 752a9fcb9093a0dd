import Mathlib
import Quarry.Proofs.Document.Quiet
import Quarry.Proofs.Format.Classified

/-! The format in which a file is read. A file that is parsed is parsed in the format that is
detected for it: the log names this format, and the text is what reading in it gives. -/
namespace Quarry

namespace Engines

variable (engines : Engines) (content : Except DiskError (List UInt8)) (extraction : Extraction)

theorem extractPdf_eq_ok (h : engines.extractPdf content = .ok extraction) :
    ∃ pages found, engines.pdf content = .ok pages ∧ textPages pages = .ok found ∧
      extraction.text = Text.unlines (found.map (·.1)) := by
  cases hpages : engines.pdf content with
  | error cause => simp [extractPdf, hpages, bind, Except.bind] at h
  | ok pages =>
    cases hfound : textPages pages with
    | error cause => simp [extractPdf, hpages, hfound, bind, Except.bind] at h
    | ok found =>
      simp only [extractPdf, hpages, hfound, bind, Except.bind, Except.ok.injEq] at h
      refine ⟨pages, found, rfl, hfound, ?_⟩
      rw [← h, Extraction.text, List.map_map]
      rfl

theorem extractDocx_eq_ok (h : engines.extractDocx content = .ok extraction) :
    ∃ paragraphs, engines.docx content = .ok paragraphs ∧
      extraction.text = Text.unlines paragraphs := by
  cases hparagraphs : engines.docx content with
  | error cause => simp [extractDocx, hparagraphs, bind, Except.bind] at h
  | ok paragraphs =>
    simp only [extractDocx, hparagraphs, bind, Except.bind, Except.ok.injEq] at h
    refine ⟨paragraphs, rfl, ?_⟩
    rw [← h]
    simp [Extraction.single, Extraction.text, Text.unlines, Text.joined]

end Engines

namespace DocumentReader

/-- What reading in a format makes of the file at a path, each format in its own way. -/
inductive Yields (reader : DocumentReader) (engines : Engines) (disk : Disk) (path : Path) :
    Format → Text → Prop where
  | text (content : Text) (hread : disk.readText path = .ok content) :
    Yields reader engines disk path .text content
  | markdown (content : Text) (hread : disk.readText path = .ok content) :
    Yields reader engines disk path .markdown content
  | html (content shown : Text) (hread : disk.readText path = .ok content)
    (hshown : Markup.visibleText content = .ok shown) :
    Yields reader engines disk path .html shown
  | json (content : Text) (value : Json.Value) (hread : disk.readText path = .ok content)
    (hvalue : Json.read content = .ok value) :
    Yields reader engines disk path .json (Flatten.document reader.policy value)
  | jsonLines (content text : Text) (hread : disk.readText path = .ok content)
    (htext : (Records.flatten reader.policy (Promise.ofPath path).containersOnly content).outcome =
      .ok text) :
    Yields reader engines disk path .jsonLines text
  | pdf (pages : List Page) (found : List (Text × Nat))
    (hpages : engines.pdf (disk.read path) = .ok pages) (hfound : textPages pages = .ok found) :
    Yields reader engines disk path .pdf (Text.unlines (found.map (·.1)))
  | docx (paragraphs : List Text) (hread : engines.docx (disk.read path) = .ok paragraphs) :
    Yields reader engines disk path .docx (Text.unlines paragraphs)

/-- The log entry of a document that has been read in a format. -/
def parsedEntry (format : Format) (path text extent : Text) : Entry :=
  ⟨.info, .document, "Parsed ".toList ++ Text.upper format.name ++ ": ".toList ++ path ++
    " (".toList ++ characters text ++ extent ++ [')']⟩

section

variable (reader : DocumentReader) (engines : Engines) (disk : Disk) (path : Path)

/-- The text of content whose format is known, before it is logged. -/
def textOf (content : Text) : Detected → Traced Text
  | .document value => pure (Flatten.document reader.policy value)
  | .plain format => logFallback path >>= fun _ => reader.render format path content

theorem textOf_quiet (content : Text) (detected : Detected) :
    (reader.textOf path content detected).Quiet := by
  cases detected with
  | document value => exact Traced.quiet_pure _
  | plain format =>
    apply Traced.quiet_bind _ _ (logFallback_quiet path)
    intro _
    exact render_quiet reader path content format

theorem logFallback_outcome : (logFallback path).outcome = .ok () := by
  unfold logFallback
  split
  · rfl
  · rfl

theorem parseText_eq (content : Text) : reader.parseText path content =
    reader.checkContentSize path content >>= fun _ =>
      reader.detector.classify path content >>= fun detected =>
        reader.textOf path content detected >>= fun text =>
          logParsed detected.format path.text text [] >>= fun _ => pure text := by
  have htext (detected : Detected) (next : Text → Traced Text) :
      (match detected with
        | .document value => next (Flatten.document reader.policy value)
        | .plain format =>
          logFallback path >>= fun _ => reader.render format path content >>= next) =
        reader.textOf path content detected >>= next := by
    cases detected with
    | document value => rfl
    | plain format => exact (Traced.bind_assoc _ _ _).symm
  rw [parseText]
  apply Traced.bind_congr
  intro _ _
  apply Traced.bind_congr
  intro detected _
  rw [← htext]
  cases detected <;> rfl

theorem textOf_plain (content : Text) (format : Format) :
    (reader.textOf path content (.plain format)).outcome =
      (reader.render format path content).outcome :=
  Traced.outcome_bind_ok _ _ () (logFallback_outcome path)

/-- Content in memory that no JSON file holds is read, less its byte-order mark, in the format detected
for it. -/
theorem parseContent_outcome (content : Text) (detected : Detected)
    (hbinary : (Promise.ofPath path).format.isBinary = false)
    (hdocument : Promise.ofPath path ≠ .document)
    (hclassify : (reader.detector.classify path (Text.withoutMark content)).outcome = .ok detected) :
    (reader.parseContent content path).outcome =
      (reader.textOf path (Text.withoutMark content) detected).outcome := by
  have hsize : (reader.checkContentSize path (Text.withoutMark content)).outcome = .ok () := by
    simp [checkContentSize, hdocument]
  have hlogged (run : Traced Text) (log : Text → Traced Unit) (hlog : ∀ text, (log text).outcome = .ok ()) :
      (run >>= fun text => log text >>= fun _ => pure text).outcome = run.outcome := by
    cases hrun : run.outcome with
    | error fault => exact Traced.outcome_bind_error _ _ fault hrun
    | ok text =>
      rw [Traced.outcome_bind_ok _ _ text hrun, Traced.outcome_bind_ok _ _ () (hlog text)]
      rfl
  rw [parseContent, if_neg (by simp [hbinary]), parseText_eq, Traced.outcome_bind_ok _ _ () hsize,
    Traced.outcome_bind_ok _ _ detected hclassify]
  exact hlogged _ _ fun text => rfl

/-- Parsing content ends with the entry that names the format detected, behind entries that tell
nothing of the kind. -/
theorem parseText_eq_ok (content text : Text)
    (h : (reader.parseText path content).outcome = .ok text) :
    ∃ detected, (reader.detector.classify path content).outcome = .ok detected ∧
      (reader.textOf path content detected).outcome = .ok text ∧
      ∃ before, (reader.parseText path content).log =
          before ++ [parsedEntry detected.format path.text text []] ∧
        ∀ entry ∈ before, ¬entry.TellsParsed := by
  rw [parseText_eq] at h ⊢
  obtain ⟨_, hsize, hbehind⟩ := (Traced.outcome_bind_eq_ok _ _ _).1 h
  obtain ⟨detected, hclassify, hbehind⟩ := (Traced.outcome_bind_eq_ok _ _ _).1 hbehind
  obtain ⟨found, hfound, hbehind⟩ := (Traced.outcome_bind_eq_ok _ _ _).1 hbehind
  obtain rfl : found = text := by
    obtain ⟨_, -, hlast⟩ := (Traced.outcome_bind_eq_ok _ _ _).1 hbehind
    simpa using hlast
  refine ⟨detected, hclassify, hfound, ?_⟩
  rw [Traced.log_bind_ok _ _ _ hsize, Traced.log_bind_ok _ _ _ hclassify,
    Traced.log_bind_ok _ _ _ hfound, ← List.append_assoc, ← List.append_assoc]
  refine ⟨_, rfl, fun entry hentry => ?_⟩
  rw [List.mem_append, List.mem_append] at hentry
  rcases hentry with (hentry | hentry) | hentry
  · exact checkContentSize_quiet reader path content entry hentry
  · exact Detector.classifyAs_quiet reader.detector _ content entry hentry
  · exact textOf_quiet reader path content detected entry hentry

/-- The text of content is what its format yields of the file it stands in. -/
theorem yields_of_textOf (content text : Text) (detected : Detected)
    (hbinary : (Promise.ofPath path).format.isBinary = false)
    (hread : disk.readText path = .ok content)
    (hclassify : (reader.detector.classify path content).outcome = .ok detected)
    (htext : (reader.textOf path content detected).outcome = .ok text) :
    reader.Yields engines disk path detected.format text := by
  rcases Detector.classifyAs_eq_ok _ _ _ detected hclassify with
    ⟨value, hvalue, rfl⟩ | hplain
  · obtain rfl : Flatten.document reader.policy value = text := by simpa [textOf] using htext
    exact .json content value hread hvalue
  -- What is no document is rendered in its format, which no binary format is.
  have hrender (format : Format) (h : detected = .plain format) :
      (reader.render format path content).outcome = .ok text := by
    subst h
    rwa [textOf_plain] at htext
  rcases hplain with ⟨format, hsettled, rfl⟩ | rfl | rfl
  · have htext := hrender format rfl
    rw [hsettled] at hbinary
    rcases Promise.settled_cases path format hsettled with rfl | rfl | rfl | rfl
    · cases hbinary
    · rw [render] at htext
      cases hshown : Markup.visibleText content with
      | error refusal => simp [hshown, Except.mapError] at htext
      | ok shown =>
        obtain rfl : shown = text := by simpa [hshown, Except.mapError] using htext
        exact .html content shown hread hshown
    · obtain rfl : content = text := by simpa [render] using htext
      exact .markdown content hread
    · cases hbinary
  · exact .jsonLines content text hread (hrender .jsonLines rfl)
  · obtain rfl : content = text := by simpa [render] using hrender .text rfl
    exact .text content hread

/-- Parsing a binary file ends with the entry that names its format, and its text is that of what
the engine has extracted. -/
theorem parseBinary_eq_ok (format : Format) (text : Text)
    (h : (parseBinary engines disk format path).outcome = .ok text) :
    ∃ extraction, (if format = .pdf then engines.extractPdf (disk.read path)
        else engines.extractDocx (disk.read path)) = .ok extraction ∧
      extraction.text = text ∧ ∃ extent, (parseBinary engines disk format path).log =
        [parsedEntry format path.text text extent] := by
  unfold parseBinary at h ⊢
  dsimp only at h ⊢
  split at h
  · cases h
  · rename_i extraction hextract
    obtain rfl : extraction.text = text := by
      obtain ⟨_, -, hlast⟩ := (Traced.outcome_bind_eq_ok _ _ _).1 h
      simpa using hlast
    exact ⟨extraction, hextract, rfl, _, rfl⟩

theorem yields_of_parseBinary (format : Format) (text : Text) (hbinary : format.isBinary = true)
    (h : (parseBinary engines disk format path).outcome = .ok text) :
    reader.Yields engines disk path format text := by
  obtain ⟨extraction, hextract, rfl, -⟩ := parseBinary_eq_ok engines disk path format text h
  cases format with
  | pdf =>
    obtain ⟨pages, found, hpages, hfound, htext⟩ :=
      Engines.extractPdf_eq_ok engines _ extraction hextract
    rw [htext]
    exact .pdf pages found hpages hfound
  | docx =>
    obtain ⟨paragraphs, hparagraphs, htext⟩ :=
      Engines.extractDocx_eq_ok engines _ extraction hextract
    rw [htext]
    exact .docx paragraphs hparagraphs
  | text | markdown | html | json | jsonLines => cases hbinary

end

/-- A file that is parsed has a format that is detected for it, in which it is parsed: the last log
entry, and no other one, tells that it has been read and names the format. -/
theorem parseFile_detected (reader : DocumentReader) (engines : Engines) (disk : Disk)
    (requested : Option Text) (text : Text)
    (h : (reader.parseFile engines disk requested).outcome = .ok text) :
    ∃ path format, (reader.sandbox.check disk requested).outcome = .ok path ∧
      (reader.detectFile disk requested).outcome = .ok format ∧
      (∃ before extent, (reader.parseFile engines disk requested).log =
          before ++ [parsedEntry format path.text text extent] ∧
        ∀ entry ∈ before, ¬entry.TellsParsed) ∧
      reader.Yields engines disk path format text := by
  obtain ⟨path, hpath, hparse⟩ := (Traced.outcome_bind_eq_ok _ _ _).1 h
  have hlog := Traced.log_bind_ok _ (fun path => if (Promise.ofPath path).format.isBinary then
    parseBinary engines disk (Promise.ofPath path).format path
    else readText disk path >>= reader.parseText path) path hpath
  have hcheck := Sandbox.check_quiet reader.sandbox disk requested
  -- Both ways ask the suffix first whether the file is read by an engine or as text.
  by_cases hbinary : (Promise.ofPath path).format.isBinary = true
  · rw [if_pos hbinary] at hparse
    rw [if_pos hbinary] at hlog
    obtain ⟨-, -, -, extent, hentry⟩ := parseBinary_eq_ok engines disk path _ text hparse
    refine ⟨path, (Promise.ofPath path).format, hpath, ?_, ⟨_, extent, ?_, hcheck⟩, ?_⟩
    · rw [detectFile, Traced.outcome_bind_ok _ _ path hpath, if_pos hbinary]
      rfl
    · rw [← hentry]
      exact hlog
    · exact yields_of_parseBinary reader engines disk path _ text hbinary hparse
  · rw [if_neg hbinary] at hparse
    rw [if_neg hbinary] at hlog
    obtain ⟨content, hcontent, hparse⟩ := (Traced.outcome_bind_eq_ok _ _ _).1 hparse
    rw [Traced.log_bind_ok _ _ content hcontent] at hlog
    obtain ⟨detected, hclassify, htext, before, hentry, hbefore⟩ :=
      parseText_eq_ok reader path content text hparse
    have hread : disk.readText path = .ok content := by
      unfold readText at hcontent
      split at hcontent
      · rename_i found hfound
        rw [hfound]
        simpa using hcontent
      · cases hcontent
    refine ⟨path, detected.format, hpath, ?_, ?_, ?_⟩
    · rw [detectFile, Traced.outcome_bind_ok _ _ path hpath, if_neg hbinary,
        Traced.outcome_bind_ok _ _ content hcontent, Detector.detect,
        Traced.outcome_bind_ok _ _ detected hclassify]
      rfl
    · rw [hentry, ← List.append_assoc, ← List.append_assoc] at hlog
      refine ⟨_, [], hlog, fun entry hmem => ?_⟩
      rw [List.mem_append, List.mem_append] at hmem
      rcases hmem with (hmem | hmem) | hmem
      · exact hcheck entry hmem
      · exact readText_quiet path disk entry hmem
      · exact hbefore entry hmem
    · exact yields_of_textOf reader engines disk path content text detected (by simpa using hbinary)
        hread hclassify htext

/-- A directory with a file `a.json` that holds one list. -/
def listDisk : Disk where
  nodes := [([['k']], .directory), ([['k'], "a.json".toList], .file [0x5B, 0x22, 0x78, 0x22, 0x5D])]
  workingDirectory := []

/-- A reader of that directory whose detector takes no content for a document, whatever the limit
of the settings. -/
def streamReader : DocumentReader := ⟨⟨.ofText ['/', 'k'], 9, 9⟩, .standard, ⟨some 0⟩⟩

theorem parseFile_detected_stream :
    (streamReader.detectFile listDisk (some "a.json".toList)).outcome = .ok .jsonLines ∧
      ∀ engines, (streamReader.parseFile engines listDisk (some "a.json".toList)).outcome =
          .ok "[0]: x".toList ∧
        ∃ path, streamReader.Yields engines listDisk path .jsonLines "[0]: x".toList := by
  have hcheck : (streamReader.sandbox.check listDisk (some "a.json".toList)).outcome =
      .ok ⟨.slash, [['k'], "a.json".toList]⟩ := by cbv
  have hpromise : Promise.ofPath ⟨.slash, [['k'], "a.json".toList]⟩ = .document := by cbv
  have hread : (readText listDisk ⟨.slash, [['k'], "a.json".toList]⟩).outcome =
      .ok "[\"x\"]".toList := by cbv
  have hclassify : (streamReader.detector.classify ⟨.slash, [['k'], "a.json".toList]⟩
      "[\"x\"]".toList).outcome = .ok (.plain .jsonLines) := by
    rw [Detector.classify, hpromise]
    cbv
  have hdetect : (streamReader.detectFile listDisk (some "a.json".toList)).outcome =
      .ok .jsonLines := by
    rw [detectFile, Traced.outcome_bind_ok _ _ _ hcheck, hpromise]
    refine (Traced.outcome_bind_ok _ _ _ hread).trans ?_
    rw [Detector.detect, Traced.outcome_bind_ok _ _ _ hclassify]
    rfl
  have hsize : (streamReader.checkContentSize ⟨.slash, [['k'], "a.json".toList]⟩
      "[\"x\"]".toList).outcome = .ok () := by
    rw [checkContentSize, hpromise]
    rfl
  have htext : (streamReader.textOf ⟨.slash, [['k'], "a.json".toList]⟩ "[\"x\"]".toList
      (.plain .jsonLines)).outcome = .ok "[0]: x".toList := by
    rw [textOf, Traced.outcome_bind_ok _ _ () (logFallback_outcome _), render, hpromise]
    cbv
  have hparse (engines : Engines) :
      (streamReader.parseFile engines listDisk (some "a.json".toList)).outcome =
        .ok "[0]: x".toList := by
    rw [parseFile, Traced.outcome_bind_ok _ _ _ hcheck, hpromise]
    refine (Traced.outcome_bind_ok _ _ _ hread).trans ?_
    rw [parseText_eq, Traced.outcome_bind_ok _ _ _ hsize, Traced.outcome_bind_ok _ _ _ hclassify,
      Traced.outcome_bind_ok _ _ _ htext]
    rfl
  refine ⟨hdetect, fun engines => ⟨hparse engines, ?_⟩⟩
  obtain ⟨path, format, -, hformat, -, hyields⟩ :=
    parseFile_detected streamReader engines listDisk (some "a.json".toList) _ (hparse engines)
  obtain rfl : format = .jsonLines := Except.ok.inj (hformat.symm.trans hdetect)
  exact ⟨path, hyields⟩

end DocumentReader
end Quarry
