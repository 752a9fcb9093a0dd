import Quarry.Json.Value
import Quarry.Number.Layout
import Quarry.Text.Quoted

/-! Values as they are shown in messages and compared with search text: text is quoted inside
lists and records, and truth values and the null value have capital letters. -/
namespace Quarry.Json

mutual

/-- The literal of a value, where text is quoted. -/
def Value.literal : Value → Text
  | .null => "None".toList
  | .bool b => if b then "True".toList else "False".toList
  | .int n => Text.ofInt n
  | .real x => x.text
  | .text t => Text.quoted t
  | .list items => ['['] ++ Text.joined [',', ' '] (Value.itemLiterals items) ++ [']']
  | .record fields => ['\x7b'] ++ Text.joined [',', ' '] (Value.fieldLiterals fields) ++ ['\x7d']

def Value.itemLiterals : List Value → List Text
  | [] => []
  | item :: others => item.literal :: Value.itemLiterals others

def Value.fieldLiterals : List (Text × Value) → List Text
  | [] => []
  | (key, value) :: others =>
    (Text.quoted key ++ [':', ' '] ++ value.literal) :: Value.fieldLiterals others

end

/-- A value as text: text is shown as it is, everything else by its literal. -/
def Value.shown : Value → Text
  | .text t => t
  | value => value.literal

end Quarry.Json
