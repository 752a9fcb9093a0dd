import Quarry.Disk.Basic
import Quarry.Markup.Visible
import Quarry.Text.Newline
import Quarry.Text.Utf8

/-! Text taken out of a file, page by page. -/
namespace Quarry

/-- The pages of a file with their numbers, where pages have numbers, and the way they were
obtained. -/
structure Extraction where
  pages : List (Text × Option Int)
  method : Text

namespace Extraction

def pageCount (extraction : Extraction) : Nat := extraction.pages.length

def totalCharacters (extraction : Extraction) : Nat :=
  (extraction.pages.flatMap (·.1)).length

/-- All pages, one below the other. -/
def text (extraction : Extraction) : Text := Text.unlines (extraction.pages.map (·.1))

/-- A text without page numbers. -/
def single (method : String) (text : Text) : Extraction := ⟨[(text, none)], method.toList⟩

end Extraction

/-- What an engine finds on a page: a text layer, none, or something it cannot read. -/
inductive Page where
  | text (layer : Text)
  | empty
  | failed (cause : Text)

/-- The text layer of a page. -/
def Page.layer : Page → Except Text Text
  | .text layer => .ok layer
  | .empty => .ok []
  | .failed cause => .error cause

/-- The pages whose text is not blank, with their numbers among all pages from `number` on. The
first page that cannot be read is the end. -/
def textPagesFrom (number : Nat) : List Page → Except Text (List (Text × Nat))
  | [] => .ok []
  | page :: others => do
    let layer ← page.layer
    let found ← textPagesFrom (number + 1) others
    .ok (if Text.isBlank layer then found else (layer, number) :: found)

/-- The pages whose text is not blank, with their numbers among all pages, which start at one. -/
def textPages (pages : List Page) : Except Text (List (Text × Nat)) := textPagesFrom 1 pages

/-- The engines that read binary formats: what reading a file gave becomes pages or paragraphs, or
the engine tells why it refuses. -/
structure Engines where
  pdf : Except DiskError (List UInt8) → Except Text (List Page)
  docx : Except DiskError (List UInt8) → Except Text (List Text)

/-- The extraction of a PDF file: the text layers of its pages. -/
def Engines.extractPdf (engines : Engines) (content : Except DiskError (List UInt8)) :
    Except Text Extraction := do
  let pages ← engines.pdf content
  let found ← textPages pages
  .ok ⟨found.map fun (text, number) => (text, some (number : Int)), "pypdf".toList⟩

/-- The extraction of a Word file: its paragraphs, one below the other, without page numbers. -/
def Engines.extractDocx (engines : Engines) (content : Except DiskError (List UInt8)) :
    Except Text Extraction := do
  let paragraphs ← engines.docx content
  .ok (.single "docx" (Text.unlines paragraphs))

namespace Disk

/-- The text of a file: UTF-8, with uniform line ends and no byte-order mark. -/
def readText (disk : Disk) (path : Path) : Except DiskError Text := do
  let octets ← disk.read path
  .ok (Text.withoutMark (Text.uniformLineEnds (Utf8.decode octets)))

def extractText (disk : Disk) (path : Path) : Except DiskError Extraction := do
  let text ← disk.readText path
  .ok (.single "text" text)

/-- The extraction of a markup file, which may be refused when it has been read. -/
def extractMarkup (disk : Disk) (path : Path) :
    Except DiskError (Except Markup.Refusal Extraction) := do
  let text ← disk.readText path
  .ok ((Markup.visibleText text).map fun shown => .single "html" shown)

end Disk
end Quarry
