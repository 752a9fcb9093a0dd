import Quarry.Extraction
import Quarry.Format
import Quarry.Sandbox
import Quarry.Settings

/-! Documents to searchable text: the sandbox lets a path through, the detector settles the format,
and the text is extracted or flattened by it. -/
namespace Quarry

/-- All that decides how documents are read. -/
structure DocumentReader where
  settings : Settings
  policy : Policy
  detector : Detector

namespace DocumentReader

/-- A reader whose detector has the limit of the settings, unless it is given another one. -/
def make (settings : Settings) (policy : Policy) (detector : Option Detector) : DocumentReader :=
  ⟨settings, policy, detector.getD ⟨some settings.maxJsonSize⟩⟩

def sandbox (reader : DocumentReader) : Sandbox :=
  ⟨reader.settings.baseDir, reader.settings.maxFileSize⟩

/-- A format as it is named in messages. -/
def shownFormat (format : Format) : Text := Text.upper format.name

def characters (text : Text) : Text := Text.ofNat text.length ++ " characters".toList

/-- Logs that a document has been read. -/
def logParsed (format : Format) (path text extent : Text) : Traced Unit :=
  .report .info .document
    ("Parsed ".toList ++ shownFormat format ++ ": ".toList ++ path ++ " (".toList ++
      characters text ++ extent ++ [')'])

/-- A JSON file must not have more characters than the limit. -/
def checkContentSize (reader : DocumentReader) (path : Path) (content : Text) : Traced Unit :=
  if Promise.ofPath path = .document && reader.settings.maxJsonSize < content.length then
    .fail (.contentTooLarge path.text content.length reader.settings.maxJsonSize)
  else pure ()

/-- The text of content in a format that is no document. -/
def render (reader : DocumentReader) (format : Format) (path : Path) (content : Text) :
    Traced Text :=
  match format with
  | .html => .ofExcept ((Markup.visibleText content).mapError .refusedMarkup)
  | .jsonLines =>
    Records.flatten reader.policy (Promise.ofPath path).containersOnly content
  | _ => pure content

/-- Logs that a JSON file is read as a stream. -/
def logFallback (path : Path) : Traced Unit :=
  if Promise.ofPath path = .document then
    .report .info .document ("JSON parse failed, using JSONL fallback: ".toList ++ path.text)
  else pure ()

/-- The text of content, whose format is settled by the path and the content. -/
def parseText (reader : DocumentReader) (path : Path) (content : Text) : Traced Text := do
  reader.checkContentSize path content
  let detected ← reader.detector.classify path content
  let text ← match detected with
    | .document value => pure (Flatten.document reader.policy value)
    | .plain format => do
      logFallback path
      reader.render format path content
  logParsed detected.format path.text text []
  pure text

/-- The text of content that is decoded already, as if it came from a file of this path. -/
def parseContent (reader : DocumentReader) (content : Text) (path : Path) : Traced Text :=
  if (Promise.ofPath path).format.isBinary then .fail (.binaryContent (Text.lower path.suffix))
  else reader.parseText path (Text.withoutMark content)

/-- The text of a file in a binary format. If its engine fails, there is none. -/
def parseBinary (engines : Engines) (disk : Disk) (format : Format) (path : Path) : Traced Text :=
  let content := disk.read path
  match if format = .pdf then engines.extractPdf content else engines.extractDocx content with
  | .error cause => .fail (.extractionFailed (shownFormat format) path.text cause)
  | .ok extraction => do
    logParsed format path.text extraction.text
      (", ".toList ++ Text.ofNat extraction.pageCount ++ " pages".toList)
    pure extraction.text

/-- The text of a file that is no binary, or a fault if it cannot be read. -/
def readText (disk : Disk) (path : Path) : Traced Text :=
  match disk.readText path with
  | .ok text => pure text
  | .error _ => .fail (.unreadable path.text)

/-- The text of a file within the sandbox. -/
def parseFile (reader : DocumentReader) (engines : Engines) (disk : Disk)
    (requested : Option Text) : Traced Text := do
  let path ← reader.sandbox.check disk requested
  let format := (Promise.ofPath path).format
  if format.isBinary then parseBinary engines disk format path
  else do
    let content ← readText disk path
    reader.parseText path content

/-- The format in which a file within the sandbox is read. -/
def detectFile (reader : DocumentReader) (disk : Disk) (requested : Option Text) :
    Traced Format := do
  let path ← reader.sandbox.check disk requested
  let format := (Promise.ofPath path).format
  if format.isBinary then pure format
  else do
    let content ← readText disk path
    reader.detector.detect path (some content)

end DocumentReader
end Quarry
