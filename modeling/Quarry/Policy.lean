import Quarry.Fault
import Quarry.Pattern.Reader
import Quarry.Text.Blank
import Quarry.Text.Case

/-! Which leaves of a JSON document are worth searching: text that is not blank, under a key that
tells something to a reader. Identifiers, times, durations and flags are left out. -/
namespace Quarry

/-- The keys that are always kept and the patterns of those that are not, in normal form. -/
structure Policy where
  allowed : List Text
  denied : List Pattern

namespace Policy

/-- Keys of prose, whatever else their names may resemble. -/
def proseKeys : List Text :=
  ["title", "name", "heading", "caption", "summary", "scene", "chapter", "section", "speaker",
    "dialogue", "line", "text", "description", "content", "body", "message", "note", "comment",
    "label"].map String.toList

/-- A pattern that holds for whole keys. -/
def wholly (pattern : Pattern) : Pattern := .both .start (.both pattern .finish)

/-- A pattern that holds at the end of keys. -/
def atEnd (pattern : Pattern) : Pattern := .both pattern .finish

/-- A pattern that holds at the start of keys. -/
def atStart (pattern : Pattern) : Pattern := .both .start pattern

def words (first : String) (others : List String) : Pattern :=
  .word first.toList (others.map String.toList)

/-- An underscore and then a pattern. -/
def behindUnderscore (pattern : Pattern) : Pattern := .both (.literal ['_']) pattern

/-- The patterns of identifiers, durations, times and flags. -/
def standardDenied : List Pattern :=
  [wholly (.either (words "id" ["ids", "uuid", "guid", "key", "hash", "checksum", "md5"])
      (.both (.literal "sha".toList) (.many (.one .digit)))),
   atEnd (behindUnderscore (words "id" ["ids", "uuid", "guid", "key", "hash", "checksum"])),
   atEnd (behindUnderscore
      (words "ms" ["msec", "millis", "us", "ns", "sec", "secs", "seconds"])),
   atStart (words "duration" ["elapsed"]),
   .literal "timestamp".toList,
   wholly (words "ts" ["created", "updated", "modified", "date", "datetime", "time"]),
   atEnd (behindUnderscore (words "at" ["ts", "time", "date", "datetime"])),
   atStart (.both (words "is" ["has", "can", "should"]) (.literal ['_'])),
   atEnd (.literal "_flag".toList),
   wholly (words "flag" ["flags"]),
   wholly (words "enabled" ["disabled", "active", "inactive", "visible", "hidden", "deleted",
      "archived"])]

/-- An array index at the end of a path, read backwards, and what precedes it. -/
def dropIndex? : (reversed : Text) → Option { rest : Text // rest.length < reversed.length }
  | ']' :: rest =>
    let before := rest.dropWhile Text.isDigit
    match h : before with
    | '[' :: others =>
      if before.length < rest.length then
        some ⟨others, by
          have shorter := Text.length_dropWhile_le Text.isDigit rest
          simp only [before] at h
          rw [h] at shorter
          simp only [List.length_cons] at shorter ⊢
          omega⟩
      else none
    | _ => none
  | _ => none

/-- Drops all array indices at the end of a path that is read backwards. -/
def dropIndices (reversed : Text) : Text :=
  match dropIndex? reversed with
  | none => reversed
  | some ⟨rest, _⟩ => dropIndices rest
termination_by reversed.length

/-- A path segment without the array indices at its end, or before the line feed that ends it. -/
def withoutIndices (segment : Text) : Text :=
  match segment.reverse with
  | '\n' :: reversed => ('\n' :: dropIndices reversed).reverse
  | reversed => (dropIndices reversed).reverse

/-- The key at the end of a path: its last segment, without array indices. -/
def keyName (path : Text) : Text :=
  withoutIndices (path.reverse.takeWhile (· != '.')).reverse

/-- A small letter or digit before a capital letter, in ASCII. -/
def isWordBoundary (before after : Char) : Bool :=
  (before.isLower || before.isDigit) && after.isUpper

/-- Puts an underscore at every word boundary. -/
def separateWords : Text → Text
  | a :: b :: rest =>
    if isWordBoundary a b then a :: '_' :: separateWords (b :: rest)
    else a :: separateWords (b :: rest)
  | text => text

/-- The normal form of a key: words in lower case with underscores between them. -/
def normalize (key : Text) : Text :=
  Text.lower ((separateWords key).map fun c => if c = '-' then '_' else c)

/-- The standard policy with more keys that are always kept, and more patterns of keys that are
not. -/
def standardWith (allow : List Text) (deny : List Text) : Except Fault Policy :=
  match deny.mapM Pattern.read with
  | .ok patterns => .ok ⟨proseKeys ++ allow.map normalize, standardDenied ++ patterns⟩
  | .error error => .error (.refusedPattern error)

def standard : Policy := ⟨proseKeys, standardDenied⟩

/-- Whether the key itself is kept. An allowed key is, whatever the patterns say. -/
def keepsKey (policy : Policy) (key : Text) : Bool :=
  let key := normalize key
  policy.allowed.contains key || !policy.denied.any fun pattern => pattern.occurs key

/-- Whether the text at a path is kept. -/
def keepsText (policy : Policy) (path text : Text) : Bool :=
  !Text.isBlank text && policy.keepsKey (keyName path)

/-- Whether the value at a path is kept, which only text can be. -/
def keeps (policy : Policy) (path : Text) : Json.Value → Bool
  | .text t => policy.keepsText path t
  | _ => false

end Policy
end Quarry
