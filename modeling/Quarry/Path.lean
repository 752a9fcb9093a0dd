import Quarry.Text.Basic

/-! Paths in a file system: a root, or none for a relative path, and the names that lead from it.
Empty names and single dots are dropped when a path is read; double dots stay. -/
namespace Quarry

/-- Where a path starts. Exactly two slashes at the start are a root of their own. -/
inductive Root where
  | relative
  | slash
  | doubleSlash
  deriving DecidableEq, Repr

def Root.text : Root → Text
  | .relative => []
  | .slash => ['/']
  | .doubleSlash => ['/', '/']

structure Path where
  root : Root
  names : List Text
  deriving DecidableEq, Repr

namespace Path

/-- The pieces of a text between slashes. -/
def segments (text : Text) : List Text := Text.cut '/' text

/-- The name of the directory that a path is in. -/
def here : Text := ['.']

/-- The name of the directory above. -/
def up : Text := ['.', '.']

/-- A segment that leads nowhere. -/
def isIdle (segment : Text) : Bool := segment.isEmpty || segment == here

def rootOf : Text → Root
  | '/' :: '/' :: '/' :: _ => .slash
  | '/' :: '/' :: _ => .doubleSlash
  | '/' :: _ => .slash
  | _ => .relative

/-- Reads a path. -/
def ofText (text : Text) : Path :=
  ⟨rootOf text, (segments text).filter fun segment => !isIdle segment⟩

/-- Writes a path; the relative path without names is a dot. -/
def text (path : Path) : Text :=
  if path.root = .relative && path.names.isEmpty then here
  else path.root.text ++ Text.joined ['/'] path.names

def isAbsolute (path : Path) : Bool := path.root != .relative

/-- A path that starts at another one, unless it has a root itself. -/
def join (base path : Path) : Path :=
  if path.isAbsolute then path else ⟨base.root, base.names ++ path.names⟩

/-- Whether a path is a directory or lies below it, name by name. -/
def isWithin (path base : Path) : Bool :=
  path.root == base.root && base.names.isPrefixOf path.names

/-- The last name of a path, which is empty where there is none. -/
def name (path : Path) : Text := path.names.getLast?.getD []

/-- The suffix of a name: what follows from its last dot on, if the dot is neither its first nor
its last character. -/
def suffixOf (name : Text) : Text :=
  let ending := (name.reverse.takeWhile (· != '.')).reverse
  let stem := name.length - ending.length - 1
  if ending.isEmpty || name.length ≤ ending.length || stem = 0 then [] else '.' :: ending

def suffix (path : Path) : Text := suffixOf path.name

/-- One name more along a path that is kept as a list, where a double dot leads back. -/
def step (names : List Text) (segment : Text) : List Text :=
  if isIdle segment then names
  else if segment = up then names.dropLast
  else names ++ [segment]

/-- The names of an absolute path with its double dots worked out, links aside. -/
def lexicalNames (segments : List Text) : List Text := segments.foldl step []

end Path
end Quarry
