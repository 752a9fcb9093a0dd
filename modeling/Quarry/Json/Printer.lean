import Quarry.Json.Value
import Quarry.Json.String
import Quarry.Number.Layout

/-! Writing JSON text, on one line or indented. Characters beyond ASCII are written as they are. -/
namespace Quarry.Json

/-- How values are laid out: all on one line, or each item on a line of its own, indented by so
many spaces for each list or record around it. -/
inductive Style where
  | compact
  | indented (width : Nat)

/-- What stands before the first item and after the last one. -/
def Style.lineBreak (style : Style) (depth : Nat) : Text :=
  match style with
  | .compact => []
  | .indented width => '\n' :: List.replicate (width * depth) ' '

/-- What stands between two items. -/
def Style.separator (style : Style) (depth : Nat) : Text :=
  match style with
  | .compact => [',', ' ']
  | .indented _ => ',' :: style.lineBreak depth

/-- Brackets around items, with nothing between them where there is no item. -/
def Style.bracket (style : Style) (depth : Nat) (left right : Char) (items : List Text) : Text :=
  if items.isEmpty then [left, right]
  else
    left :: style.lineBreak (depth + 1) ++ Text.joined (style.separator (depth + 1)) items ++
      style.lineBreak depth ++ [right]

def writeText (t : Text) : Text := '"' :: escape t ++ ['"']

def writeReal : Binary64 → Text
  | .nan => "NaN".toList
  | .infinite negative => if negative then "-Infinity".toList else "Infinity".toList
  | x => x.text

mutual

/-- Writes a value that stands inside so many lists and records. -/
def write (style : Style) (depth : Nat) : Value → Text
  | .null => "null".toList
  | .bool b => if b then "true".toList else "false".toList
  | .int n => Text.ofInt n
  | .real x => writeReal x
  | .text t => writeText t
  | .list items => style.bracket depth '[' ']' (writeItems style (depth + 1) items)
  | .record fields => style.bracket depth '\x7b' '\x7d' (writeFields style (depth + 1) fields)

def writeItems (style : Style) (depth : Nat) : List Value → List Text
  | [] => []
  | item :: others => write style depth item :: writeItems style depth others

def writeFields (style : Style) (depth : Nat) : List (Text × Value) → List Text
  | [] => []
  | (key, value) :: others =>
    (writeText key ++ [':', ' '] ++ write style depth value) :: writeFields style depth others

end

/-- The JSON text of a value. -/
def render (style : Style) (value : Value) : Text := write style 0 value

end Quarry.Json
