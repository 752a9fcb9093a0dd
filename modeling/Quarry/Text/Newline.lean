import Quarry.Text.Basic

/-! Line ends and the byte-order mark of text that comes from a file. -/
namespace Quarry.Text

/-- Text with its line ends made uniform, the last character first, and whether the character
read last was a carriage return, which a line feed completes. -/
structure LineEnds where
  written : Text
  afterReturn : Bool

def LineEnds.push (state : LineEnds) (c : Char) : LineEnds :=
  if c = '\r' then ⟨'\n' :: state.written, true⟩
  else if c = '\n' && state.afterReturn then ⟨state.written, false⟩
  else ⟨c :: state.written, false⟩

/-- Every carriage return, with a line feed after it or not, becomes one line feed. -/
def uniformLineEnds (text : Text) : Text :=
  (text.foldl LineEnds.push ⟨[], false⟩).written.reverse

def byteOrderMark : Char := Char.ofNat 0xFEFF

/-- Drops one byte-order mark at the start. -/
def withoutMark : Text → Text
  | [] => []
  | c :: rest => if c = byteOrderMark then rest else c :: rest

end Quarry.Text
