import Quarry.Text.Blank

/-! The lexemes of a search string: every character of the string belongs to exactly one. -/
namespace Quarry.Query

/-- A piece of a search string. -/
inductive Lexeme where
  /-- One blank character. -/
  | blank (c : Char)
  /-- A quote and the text up to the next quote, which the end of the string may leave out. -/
  | quotation (inside : Text) (closed : Bool)
  | openGroup
  | closeGroup
  /-- A dash and the word characters behind it, if there are any. -/
  | dashed (run : Text)
  /-- Word characters, of which the first is no dash. -/
  | word (run : Text)
  deriving DecidableEq, Repr

/-- A character that does not end a word: neither blank nor a parenthesis nor a quote. -/
def isWordChar (c : Char) : Bool :=
  !Text.isBlankChar c && c != '(' && c != ')' && c != '"'

/-- The characters a lexeme stands for. -/
def Lexeme.source : Lexeme → Text
  | .blank c => [c]
  | .quotation inside closed => '"' :: inside ++ if closed then ['"'] else []
  | .openGroup => ['(']
  | .closeGroup => [')']
  | .dashed run => '-' :: run
  | .word run => run

/-- Cuts a search string into lexemes, from left to right. -/
def lexemes : Text → List Lexeme
  | [] => []
  | c :: rest =>
    if Text.isBlankChar c then .blank c :: lexemes rest
    else if c = '"' then
      .quotation (rest.takeWhile (· != '"')) (rest.contains '"') ::
        lexemes ((rest.dropWhile (· != '"')).drop 1)
    else if c = '(' then .openGroup :: lexemes rest
    else if c = ')' then .closeGroup :: lexemes rest
    else if c = '-' then
      .dashed (rest.takeWhile isWordChar) :: lexemes (rest.dropWhile isWordChar)
    else .word (c :: rest.takeWhile isWordChar) :: lexemes (rest.dropWhile isWordChar)
termination_by text => text.length
decreasing_by
  all_goals simp only [List.length_cons, List.length_drop]
  · omega
  · have bound := Text.length_dropWhile_le (· != '"') rest
    omega
  · omega
  · omega
  · exact Nat.lt_succ_of_le (Text.length_dropWhile_le isWordChar rest)
  · exact Nat.lt_succ_of_le (Text.length_dropWhile_le isWordChar rest)

end Quarry.Query
