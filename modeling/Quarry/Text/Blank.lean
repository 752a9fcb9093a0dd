import Quarry.Text.Basic
import Quarry.Text.Span

/-! Blank characters: the spaces, line ends and separators of Unicode, together with the
four information separators U+001C to U+001F. -/
namespace Quarry.Text

def blankSpans : List Span :=
  [⟨0x09, 0x0D⟩, ⟨0x1C, 0x20⟩, ⟨0x85, 0x85⟩, ⟨0xA0, 0xA0⟩, ⟨0x1680, 0x1680⟩, ⟨0x2000, 0x200A⟩,
   ⟨0x2028, 0x2029⟩, ⟨0x202F, 0x202F⟩, ⟨0x205F, 0x205F⟩, ⟨0x3000, 0x3000⟩]

def isBlankChar (c : Char) : Bool := Span.covers blankSpans c.toNat

/-- A text that is empty or holds blank characters alone. -/
def isBlank (text : Text) : Bool := text.all isBlankChar

/-- A text without the blank characters at its two ends. -/
def strip (text : Text) : Text :=
  ((text.dropWhile isBlankChar).reverse.dropWhile isBlankChar).reverse

/-- Where a run of blank characters is written as one space. The flag says that the last
character seen was blank, so that the rest of its run adds nothing. -/
structure Squeezed where
  written : Text
  inBlanks : Bool

def Squeezed.push (state : Squeezed) (c : Char) : Squeezed :=
  if isBlankChar c then
    ⟨if state.inBlanks then state.written else ' ' :: state.written, true⟩
  else ⟨c :: state.written, false⟩

/-- Writes every run of blank characters as one space and drops the spaces at the two ends. -/
def squeeze (text : Text) : Text :=
  strip (text.foldl Squeezed.push ⟨[], false⟩).written.reverse

end Quarry.Text
