import Quarry.Json.Token

/-! Reading JSON text. The reader takes one token after another and keeps the lists and records
that are still open on a stack. Text is refused where it is malformed, where it nests too deeply,
or where an integer has too many digits, whichever comes first. -/
namespace Quarry.Json

/-- The depth at which nesting is too deep to be read, however little else is under way. A text that
nests less is read here, also where a reader that has less of a stack left would give up. -/
def depthLimit : Nat := 1000

inductive ReadError where
  | malformed
  | hugeInteger
  | tooDeep
  deriving DecidableEq, Repr

/-- A list or record that is still open and waits for one of its values. The items of a list come
last first. -/
inductive Frame where
  | list (items : List Value)
  | record (fields : Fields) (key : Text)

/-- What the reader waits for, with the open lists and records around it, the innermost first. -/
inductive Reader where
  /-- A value. -/
  | value (around : List Frame)
  /-- The first item of a list, or its end. -/
  | firstItem (around : List Frame)
  /-- A comma or the end, after the items of a list. -/
  | afterItem (items : List Value) (around : List Frame)
  /-- The first key of a record, or its end. -/
  | firstKey (around : List Frame)
  /-- A key, after a comma. -/
  | nextKey (fields : Fields) (around : List Frame)
  /-- The colon behind a key. -/
  | colon (fields : Fields) (key : Text) (around : List Frame)
  /-- A comma or the end, after the fields of a record. -/
  | afterField (fields : Fields) (around : List Frame)
  /-- Nothing more. -/
  | done (value : Value)
  | failed (error : ReadError)

namespace Reader

/-- Puts a complete value where it belongs. -/
def complete (v : Value) : List Frame → Reader
  | [] => .done v
  | .list items :: around => .afterItem (v :: items) around
  | .record fields key :: around => .afterField (Fields.put key v fields) around

/-- Opens a list or record inside those around it. -/
def descend (around : List Frame) (opened : Reader) : Reader :=
  if depthLimit ≤ around.length + 1 then .failed .tooDeep else opened

/-- Reads a token where a value must come. -/
def takeValue (around : List Frame) : Token → Reader
  | .openList => descend around (.firstItem around)
  | .openRecord => descend around (.firstKey around)
  | .text t => complete (.text t) around
  | .atom v => complete v around
  | .hugeInteger => .failed .hugeInteger
  | _ => .failed .malformed

def push (reader : Reader) (token : Token) : Reader :=
  match reader, token with
  | .value around, token => takeValue around token
  | .firstItem around, .closeList => complete (.list []) around
  | .firstItem around, token => takeValue (.list [] :: around) token
  | .afterItem items around, .comma => .value (.list items :: around)
  | .afterItem items around, .closeList => complete (.list items.reverse) around
  | .firstKey around, .closeRecord => complete (.record []) around
  | .firstKey around, .text key => .colon [] key around
  | .nextKey fields around, .text key => .colon fields key around
  | .colon fields key around, .colon => .value (.record fields key :: around)
  | .afterField fields around, .comma => .nextKey fields around
  | .afterField fields around, .closeRecord => complete (.record fields) around
  | .failed error, _ => .failed error
  | _, _ => .failed .malformed

/-- The value read, when no token follows. -/
def finish : Reader → Except ReadError Value
  | .done v => .ok v
  | .failed error => .error error
  | _ => .error .malformed

end Reader

/-- Reads a text that holds one JSON value and nothing else but blanks. -/
def read (text : Text) : Except ReadError Value :=
  ((tokens text).foldl Reader.push (.value [])).finish

end Quarry.Json
