import Quarry.Text.Blank
import Quarry.Text.Digit

/-! Integers in text: an optional sign and decimal digits of any script, where single underscores
may stand between digits and blanks around the whole. -/
namespace Quarry.Integer

/-- The most digits an integer may be written with. -/
def digitLimit : Nat := 4300

/-- The number that digits denote, the first one the most significant. -/
def ofDigits (digits : List Nat) : Nat := digits.foldl (fun n d => 10 * n + d) 0

/-- The blanks allowed around an integer: all but the information separators. -/
def isMargin (c : Char) : Bool :=
  Text.isBlankChar c && !(0x1C ≤ c.toNat && c.toNat ≤ 0x1F)

/-- The digits of an unsigned integer, underscores between them left out. -/
def digits? (text : Text) : Option (List Nat) :=
  let groups := Text.cut '_' text
  if groups.any List.isEmpty then none
  else
    let found := groups.flatten.mapM Text.digitValue?
    found.filter fun digits => digits.length ≤ digitLimit

/-- Reads an integer, or none if the text is not one or has too many digits. -/
def read? (text : Text) : Option Int :=
  let body := ((text.dropWhile isMargin).reverse.dropWhile isMargin).reverse
  match body with
  | '-' :: rest => (digits? rest).map fun digits => -(ofDigits digits : Int)
  | '+' :: rest => (digits? rest).map fun digits => (ofDigits digits : Int)
  | rest => (digits? rest).map fun digits => (ofDigits digits : Int)

end Quarry.Integer
