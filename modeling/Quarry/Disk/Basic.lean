import Quarry.Path
import Quarry.Text.Utf8

/-! The state of a file system: files, directories and symbolic links by their locations, and how
the system follows a path to one of them. -/
namespace Quarry

/-- A location: the names that lead to it from the root, none of which is a link. -/
abbrev Location := List Text

inductive Node where
  | file (octets : List UInt8)
  | directory
  | link (target : Text)
  deriving DecidableEq, Repr

structure Disk where
  nodes : List (Location × Node)
  /-- Where relative paths start. -/
  workingDirectory : Location

/-- Why a path leads to no file. -/
inductive DiskError where
  | notFound
  | notADirectory
  | isADirectory
  | tooManyLinks
  | nameTooLong
  deriving DecidableEq, Repr

namespace Disk

def empty : Disk := ⟨[], []⟩

/-- What is at a location. The root is always there. -/
def node? (disk : Disk) (location : Location) : Option Node :=
  if location.isEmpty then some .directory else disk.nodes.lookup location

/-- The target of the link at a location. -/
def link? (disk : Disk) (location : Location) : Option Text :=
  match disk.node? location with
  | some (.link target) => some target
  | _ => none

/-- The links that the system follows along one path before it gives up. -/
def linkLimit : Nat := 40

/-- The most octets a name may have. -/
def nameLimit : Nat := 255

/-- The most octets a path may have. -/
def pathLimit : Nat := 4095

def octetCount (text : Text) : Nat := (Utf8.encode text).length

/-- Where a link leads from: the root, or the directory that it is in. -/
def linkOrigin (target : Text) (here : Location) : Location :=
  if Path.rootOf target = .relative then here else []

/-- Follows segments from a location. Links are followed as long as some are left of the limit.
Where `mayCreate` holds, the last name need not exist. -/
def walk (disk : Disk) (mayCreate : Bool) (links : Nat) (here : Location) :
    List Text → Except DiskError Location
  | [] => .ok here
  | segment :: rest =>
    if disk.node? here != some .directory then .error .notADirectory
    else if Path.isIdle segment then disk.walk mayCreate links here rest
    else if segment = Path.up then disk.walk mayCreate links here.dropLast rest
    else if nameLimit < octetCount segment then .error .nameTooLong
    else
      let next := here ++ [segment]
      match disk.node? next with
      | none => if mayCreate && rest.isEmpty then .ok next else .error .notFound
      | some (.link target) =>
        -- The target stands in the place of the link, in front of what is left.
        match links with
        | 0 => .error .tooManyLinks
        | links + 1 =>
          disk.walk mayCreate links (linkOrigin target here) (Path.segments target ++ rest)
      | some _ => disk.walk mayCreate links next rest
termination_by todo => (links, todo.length)

/-- Where a path starts. -/
def origin (disk : Disk) (path : Path) : Location :=
  if path.isAbsolute then [] else disk.workingDirectory

/-- The location that a path leads to. -/
def locate (disk : Disk) (path : Path) : Except DiskError Location :=
  if pathLimit < octetCount path.text then .error .nameTooLong
  else disk.walk false linkLimit (disk.origin path) path.names

/-- The octets that a directory itself takes up. -/
def directorySize : Nat := 4096

/-- The size of what a path leads to. -/
def size (disk : Disk) (path : Path) : Except DiskError Nat := do
  let location ← disk.locate path
  match disk.node? location with
  | some (.file octets) => .ok octets.length
  | _ => .ok directorySize

/-- The octets of the file that a path leads to. -/
def read (disk : Disk) (path : Path) : Except DiskError (List UInt8) := do
  let location ← disk.locate path
  match disk.node? location with
  | some (.file octets) => .ok octets
  | _ => .error .isADirectory

end Disk
end Quarry
