import Quarry.Path
import Quarry.Records

/-! Which format a file is in. Some suffixes settle it. For the others the content decides: one
whole JSON document comes first, then a stream of records, then plain text. -/
namespace Quarry

inductive Format where
  | text
  | markdown
  | html
  | pdf
  | docx
  | json
  | jsonLines
  deriving DecidableEq, Repr

namespace Format

def name : Format → Text
  | .text => "text".toList
  | .markdown => "markdown".toList
  | .html => "html".toList
  | .pdf => "pdf".toList
  | .docx => "docx".toList
  | .json => "json".toList
  | .jsonLines => "jsonl".toList

/-- Formats that an extraction engine reads. -/
def isBinary : Format → Bool
  | .pdf | .docx => true
  | _ => false

end Format

/-- What a suffix tells about the content of a file. -/
inductive Promise where
  /-- The format, whatever the content is. -/
  | settled (format : Format)
  /-- A JSON document, or at least JSON. -/
  | document
  /-- A stream of JSON records. -/
  | stream
  /-- Nothing: the file may be prose. -/
  | anything
  deriving DecidableEq, Repr

namespace Promise

/-- The suffixes that promise something. -/
def suffixes : List (Text × Promise) :=
  [(".docx".toList, .settled .docx), (".htm".toList, .settled .html),
   (".html".toList, .settled .html), (".json".toList, .document), (".jsonl".toList, .stream),
   (".markdown".toList, .settled .markdown), (".md".toList, .settled .markdown),
   (".ndjson".toList, .stream), (".pdf".toList, .settled .pdf), (".txt".toList, .anything)]

/-- What the suffix of a path promises, in any case of its letters. -/
def ofPath (path : Path) : Promise :=
  (suffixes.lookup (Text.lower path.suffix)).getD .anything

/-- Whether only lists and records count as JSON, as in prose. -/
def containersOnly : Promise → Bool
  | .document | .stream => false
  | _ => true

/-- The format to assume as long as the content is not known. -/
def format : Promise → Format
  | .settled format => format
  | .document => .json
  | .stream => .jsonLines
  | .anything => .text

end Promise

/-- The suffixes that are known by name, in order. -/
def supportedSuffixes : List Text := Promise.suffixes.map (·.1)

/-- Whether the suffix of a path is known by name. -/
def isSupported (path : Path) : Bool := supportedSuffixes.contains (Text.lower path.suffix)

/-- A format, with the value of the whole document where it is JSON. -/
inductive Detected where
  | document (value : Json.Value)
  | plain (format : Format)

def Detected.format : Detected → Format
  | .document _ => .json
  | .plain format => format

/-- A detector, with the length above which no content is read as one document. -/
structure Detector where
  maxDocumentSize : Option Int

namespace Detector

open Json (Value)

def admits (detector : Detector) (content : Text) : Bool :=
  match detector.maxDocumentSize with
  | none => true
  | some limit => (content.length : Int) ≤ limit

/-- The whole content as one JSON value, if it is one. -/
def whole (detector : Detector) (content : Text) : Traced (Option Value) :=
  if detector.admits content then
    match Json.read content with
    | .ok value => pure (some value)
    | .error .tooDeep => .fail .nestedTooDeeply
    | .error _ => pure none
  else pure none

/-- Whether exactly one line of a content is not blank. -/
def isSingleLine (content : Text) : Bool :=
  ((Text.lines content).filter fun line => !Text.isBlank line).length == 1

/-- What the content is as one JSON value, if it counts as one: in prose only a list or record
does. A single line of a stream is a stream of one record and no document. -/
def wholeAs (detector : Detector) (promise : Promise) (content : Text) :
    Traced (Option Detected) := do
  let found ← detector.whole content
  match found with
  | none => pure none
  | some value =>
    if promise.containersOnly && !value.isContainer then pure none
    else if promise = .stream && isSingleLine content then pure (some (.plain .jsonLines))
    else pure (some (.document value))

/-- What content is behind a path that makes such a promise. -/
def classifyAs (detector : Detector) (promise : Promise) (content : Text) : Traced Detected :=
  match promise with
  | .settled format => pure (.plain format)
  | promise => do
    let found ← detector.wholeAs promise content
    match found with
    | some detected => pure detected
    | none => do
      let hasRecords ← Records.exist promise.containersOnly content
      pure (.plain (if hasRecords || !promise.containersOnly then .jsonLines else .text))

def classify (detector : Detector) (path : Path) (content : Text) : Traced Detected :=
  detector.classifyAs (.ofPath path) content

/-- The format of a file, by its path alone where the content is not given. -/
def detect (detector : Detector) (path : Path) (content : Option Text) : Traced Format :=
  match content with
  | none => pure (Promise.ofPath path).format
  | some content => do
    let detected ← detector.classify path content
    pure detected.format

end Detector
end Quarry
