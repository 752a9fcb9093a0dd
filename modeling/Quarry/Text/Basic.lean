/-! Text as a list of characters, with the few operations that every other part shares:
cutting at a separator, joining, and looking for one text inside another. -/
namespace Quarry

/-- Text, one code point after another. Its length counts code points. -/
abbrev Text := List Char

namespace Text

/-- The pieces between the occurrences of a separator. There is one piece more than there are
separators, so the empty text has one empty piece. -/
def cut (separator : Char) (text : Text) : List Text :=
  text.foldr (fun c pieces =>
    if c = separator then [] :: pieces
    else match pieces with
      | [] => [[c]]
      | piece :: others => (c :: piece) :: others) [[]]

/-- The lines of a text; only a line feed ends a line. -/
def lines (text : Text) : List Text := cut '\n' text

/-- Puts a separator between the pieces. -/
def joined (separator : Text) (pieces : List Text) : Text := List.intercalate separator pieces

/-- Joins lines by line feeds. -/
def unlines (pieces : List Text) : Text := joined ['\n'] pieces

/-- Whether a text occurs somewhere in another. -/
def occursIn (needle : Text) : Text → Bool
  | [] => needle.isEmpty
  | c :: rest => needle.isPrefixOf (c :: rest) || occursIn needle rest

/-- The decimal digits of a number. -/
def ofNat (n : Nat) : Text := Nat.toDigits 10 n

/-- The decimal digits of an integer, after a minus sign where it is negative. -/
def ofInt : Int → Text
  | .ofNat n => ofNat n
  | .negSucc n => '-' :: ofNat (n + 1)

theorem length_dropWhile_le (p : Char → Bool) (text : Text) :
    (text.dropWhile p).length ≤ text.length :=
  (List.dropWhile_sublist p).length_le

end Text
end Quarry
