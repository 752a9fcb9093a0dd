import Quarry.Flatten
import Quarry.Json.Reader
import Quarry.Trace

/-! Streams of JSON records, one to a line. Lines that hold no JSON are skipped and logged, and
never count; in prose a line must hold a list or a record to count. -/
namespace Quarry.Records

open Json (Value)

/-- What a line of a stream holds. -/
inductive Line where
  | blank
  | malformed
  /-- A value that is no record where only lists and records are. -/
  | ignored
  | record (value : Value)
  | tooDeep

def Line.ofText (containersOnly : Bool) (text : Text) : Line :=
  let body := Text.strip text
  if body.isEmpty then .blank
  else match Json.read body with
    | .ok value => if containersOnly && !value.isContainer then .ignored else .record value
    | .error .tooDeep => .tooDeep
    | .error _ => .malformed

/-- The lines of a stream with their numbers, which start at one. -/
def numbered (content : Text) : List (Text × Nat) := (Text.lines content).zipIdx 1

/-- The lines of a stream, read, with their numbers. -/
def readLines (containersOnly : Bool) (content : Text) : List (Line × Nat) :=
  (numbered content).map fun (text, number) => (.ofText containersOnly text, number)

def Line.record? : Line → Option Value
  | .record value => some value
  | _ => none

def Line.isTooDeep : Line → Bool
  | .tooDeep => true
  | _ => false

/-- Whether a search for a record goes on behind a line. -/
def Line.isPassed : Line → Bool
  | .record _ | .tooDeep => false
  | _ => true

/-- The log entry of a skipped line. -/
def skipped? : Line × Nat → Option Entry
  | (.malformed, number) =>
    some ⟨.debug, .records,
      "JSONL line ".toList ++ Text.ofNat number ++ " skipped (invalid JSON)".toList⟩
  | _ => none

/-- The records of a stream. Lines are read in order up to one that nests too deeply. -/
def all (containersOnly : Bool) (content : Text) : Traced (List Value) :=
  let lines := readLines containersOnly content
  ⟨(lines.takeWhile fun line => !line.1.isTooDeep).filterMap skipped?,
    if lines.any fun line => line.1.isTooDeep then .error .nestedTooDeeply
    else .ok (lines.filterMap fun line => line.1.record?)⟩

/-- Whether a stream has a record at all. No line behind the first record is read. -/
def exist (containersOnly : Bool) (content : Text) : Traced Bool :=
  let isPassed := fun line : Text × Nat => (Line.ofText containersOnly line.1).isPassed
  let lines := numbered content
  ⟨(lines.takeWhile isPassed).filterMap fun (text, number) =>
      skipped? (.ofText containersOnly text, number),
    match lines.dropWhile isPassed with
    | [] => .ok false
    | (text, _) :: _ =>
      if (Line.ofText containersOnly text).isTooDeep then .error .nestedTooDeeply else .ok true⟩

/-- The lines of each record, in groups. A record's path is its place among the records. -/
def groups (policy : Policy) (records : List Value) : List (List Text) :=
  records.mapIdx fun index record => Flatten.lines policy (Flatten.itemPath [] index) record

/-- The text of a stream: the lines of every record that has any. -/
def flatten (policy : Policy) (containersOnly : Bool) (content : Text) : Traced Text := do
  let records ← all containersOnly content
  let kept := (groups policy records).filter fun group => !group.isEmpty
  .report .debug .records
    ("Flattened JSONL stream (".toList ++ Text.ofNat records.length ++ " records, ".toList ++
      Text.ofNat kept.length ++ " with text)".toList)
  pure (Text.unlines (kept.map Text.unlines))

end Quarry.Records
