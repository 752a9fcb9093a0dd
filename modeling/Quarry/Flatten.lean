import Quarry.Policy

/-! JSON documents as searchable lines, each of which is a path and the text found there. -/
namespace Quarry.Flatten

open Json (Value)

/-- A line: the path, a colon, and the text. At the root the text stands alone. -/
def line (path text : Text) : Text :=
  if path.isEmpty then text else path ++ ':' :: ' ' :: text

/-- The path of a field. -/
def fieldPath (path key : Text) : Text :=
  if path.isEmpty then key else path ++ '.' :: key

/-- The path of an item. -/
def itemPath (path : Text) (index : Nat) : Text :=
  path ++ '[' :: Text.ofNat index ++ [']']

/-- The texts that are kept of a list without lists and records. -/
def keptTexts (policy : Policy) (path : Text) (items : List Value) : List Text :=
  items.filterMap fun item =>
    match item with
    | .text t => if policy.keepsText path t then some t else none
    | _ => none

/-- The line of a list without lists and records: its kept texts side by side. -/
def leafListLines (policy : Policy) (path : Text) (items : List Value) : List Text :=
  let kept := keptTexts policy path items
  if kept.isEmpty then [] else [line path (Text.joined [',', ' '] kept)]

mutual

/-- The lines of the value at a path, in document order. Only a list that holds lists or records
has its items numbered. The value is taken to nest no deeper than it can be walked through. -/
def lines (policy : Policy) (path : Text) : Value → List Text
  | .text t => if policy.keepsText path t then [line path t] else []
  | .list items =>
    if items.any Value.isContainer then itemLines policy path 0 items
    else leafListLines policy path items
  | .record fields => fieldLines policy path fields
  | _ => []

def itemLines (policy : Policy) (path : Text) (index : Nat) : List Value → List Text
  | [] => []
  | item :: others =>
    lines policy (itemPath path index) item ++ itemLines policy path (index + 1) others

def fieldLines (policy : Policy) (path : Text) : List (Text × Value) → List Text
  | [] => []
  | (key, value) :: others =>
    lines policy (fieldPath path key) value ++ fieldLines policy path others

end

/-- The text of a whole document. -/
def document (policy : Policy) (value : Value) : Text := Text.unlines (lines policy [] value)

end Quarry.Flatten
