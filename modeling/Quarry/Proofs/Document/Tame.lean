import Quarry.Proofs.Document.Reported

/-! Content that reading comes through wherever it is done, and whose text can be written wherever it
is shown. JSON that nests deeper than is safe is neither: whether it is read and walked through depends
on the stack that is left. Neither is content that refers to half of a surrogate pair: it is read, but
its text is none that an output takes. -/
namespace Quarry

namespace Json

/-- The depth up to which JSON is read and walked through, whatever else is under way. From
`depthLimit` on it is never read. -/
def safeDepth : Nat := 300

theorem not_tooDeep_of_safe (text : Text) (h : nesting text ≤ safeDepth) :
    read text ≠ .error .tooDeep := by
  intro hdeep
  have hlimit := depthLimit_le_nesting text hdeep
  unfold depthLimit at hlimit
  unfold safeDepth at h
  omega

def isHalf (unit : Nat) : Bool := isHighSurrogate unit || isLowSurrogate unit

/-- Some string of the text leaves half of a surrogate pair alone. -/
def HoldsHalf (text : Text) : Prop :=
  ∃ before inside after units unit, text = before ++ '"' :: after ∧
    (before.foldl Lexer.push ⟨[], .between⟩).mode = .inside inside ∧
    unescapeFrom? [] inside.reverse = some units ∧ unit ∈ units ∧ isHalf unit = true

end Json

namespace Detector

/-- Wherever JSON is looked for in the content, as a whole or line by line, it nests no deeper than is
safe. -/
structure Tame (detector : Detector) (path : Path) (content : Text) : Prop where
  whole : (∀ format, Promise.ofPath path ≠ .settled format) → detector.admits content = true →
    Json.nesting content ≤ Json.safeDepth
  lines : (∀ format, Promise.ofPath path ≠ .settled format) →
    ∀ line ∈ Text.lines content, Json.nesting (Text.strip line) ≤ Json.safeDepth

variable (detector : Detector) (path : Path) (content : Text)

theorem not_wholeTooDeep_of_tame (hopen : ∀ format, Promise.ofPath path ≠ .settled format)
    (h : detector.Tame path content) : ¬detector.WholeTooDeep content := by
  rintro ⟨hadmits, hdeep⟩
  exact Json.not_tooDeep_of_safe content (h.whole hopen hadmits) hdeep

theorem not_holdsTooDeep_of_tame (hopen : ∀ format, Promise.ofPath path ≠ .settled format)
    (h : detector.Tame path content) : ¬Records.HoldsTooDeep content := by
  rintro ⟨line, hline, hdeep⟩
  exact Json.not_tooDeep_of_safe _ (h.lines hopen line hline) hdeep

theorem not_undetected_of_tame (h : detector.Tame path content) :
    ¬detector.Undetected path content := by
  rintro (⟨hopen, hdeep⟩ | ⟨hopen, -, hfirst⟩)
  · exact not_wholeTooDeep_of_tame detector path content hopen h hdeep
  · exact not_holdsTooDeep_of_tame detector path content hopen h
      (DocumentReader.holdsTooDeep_of_head content _ hfirst)

end Detector

namespace DocumentReader

/-- Content that parsing comes through: markup that is not refused, or JSON that is too long to be read
or nests no deeper than is safe. -/
structure Tame (reader : DocumentReader) (path : Path) (content : Text) : Prop where
  markup : Promise.ofPath path = .settled .html → ∃ tokens, Markup.tokens content = .ok tokens
  json : (Promise.ofPath path = .document → content.length ≤ reader.settings.maxJsonSize) →
    reader.detector.Tame path content

/-- No string of JSON that is read from the content, and no reference of its markup, is to half of a
surrogate pair. -/
structure Writable (path : Path) (content : Text) : Prop where
  json : (∀ format, Promise.ofPath path ≠ .settled format) →
    ∀ text ∈ content :: (Text.lines content).map Text.strip, ∀ value,
      Json.read text = .ok value → ¬Json.HoldsHalf text
  markup : Promise.ofPath path = .settled .html → ∀ before after number rest,
    content = before ++ '&' :: '#' :: after → Markup.number? after = some (number, rest) →
      Json.isHalf number = false

variable (reader : DocumentReader) (path : Path) (content : Text)

theorem not_unread_of_tame (h : reader.Tame path content) : ¬reader.Unread path content := by
  rintro (⟨refusal, hformat, hrefused⟩ | ⟨hopen, hsize, hdeep⟩ | ⟨hopen, hsize, -, hline⟩)
  · obtain ⟨tokens, htokens⟩ := h.markup hformat
    rw [hrefused] at htokens
    cases htokens
  · exact Detector.not_wholeTooDeep_of_tame reader.detector path content hopen (h.json hsize) hdeep
  · exact Detector.not_holdsTooDeep_of_tame reader.detector path content hopen (h.json hsize) hline

section

variable (disk : Disk) (requested : Option Text)

/-- No null character is met on the way to what is requested, and the text that is found there, if there
is one, is of a kind. -/
structure LeadsTo (kind : Path → Text → Prop) : Prop where
  way : ¬reader.sandbox.MeetsNul disk requested
  content : ∀ path content, (reader.sandbox.check disk requested).outcome = .ok path →
    disk.readText path = .ok content → kind path content

theorem leadsTo_mono (kind other : Path → Text → Prop)
    (hkind : ∀ path content, kind path content → other path content)
    (h : reader.LeadsTo disk requested kind) : reader.LeadsTo disk requested other :=
  ⟨h.way, fun path content hpath hread => hkind path content (h.content path content hpath hread)⟩

theorem not_parsingStops_of_tame (h : reader.LeadsTo disk requested reader.Tame) :
    ¬reader.ParsingStops disk requested := by
  rintro (hnul | ⟨path, hpath, content, hread, hunread⟩)
  · exact h.way hnul
  · exact not_unread_of_tame reader path content (h.content path content hpath hread) hunread

theorem not_detectionStops_of_tame (h : reader.LeadsTo disk requested reader.detector.Tame) :
    ¬reader.DetectionStops disk requested := by
  rintro (hnul | ⟨path, hpath, content, hread, hundetected⟩)
  · exact h.way hnul
  · exact Detector.not_undetected_of_tame reader.detector path content
      (h.content path content hpath hread) hundetected

end

end DocumentReader
end Quarry
