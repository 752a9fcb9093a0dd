import Quarry.Disk.Basic

/-! Changes to a file system. -/
namespace Quarry.Disk

/-- Puts a node at a location, in the place of what is there. -/
def put (disk : Disk) (location : Location) (node : Node) : Disk :=
  { disk with nodes := (location, node) :: disk.nodes.filter fun entry => entry.1 != location }

/-- Follows names from a location and makes the directories that are missing on the way. -/
def makeDirectories (disk : Disk) (here : Location) :
    List Text → Except DiskError (Disk × Location)
  | [] => .ok (disk, here)
  | name :: rest =>
    match disk.walk false linkLimit here [name] with
    | .ok next => disk.makeDirectories next rest
    | .error .notFound =>
      (disk.put (here ++ [name]) .directory).makeDirectories (here ++ [name]) rest
    | .error error => .error error

/-- The directory of a path, made where it is missing, and the last name. -/
def prepare (disk : Disk) (path : Path) : Except DiskError (Disk × Location × Text) := do
  let (disk, parent) ← disk.makeDirectories (disk.origin path) path.names.dropLast
  .ok (disk, parent, path.name)

/-- Makes a directory and those above it. -/
def makeDirectory (disk : Disk) (path : Path) : Except DiskError Disk := do
  let (disk, _) ← disk.makeDirectories (disk.origin path) path.names
  .ok disk

/-- Writes a file, in the place of an old one, and at the end of links. -/
def write (disk : Disk) (path : Path) (octets : List UInt8) : Except DiskError Disk := do
  let (disk, parent, name) ← disk.prepare path
  let location ← disk.walk true linkLimit parent [name]
  if disk.node? location = some .directory then .error .isADirectory
  else .ok (disk.put location (.file octets))

/-- Makes a symbolic link. -/
def makeLink (disk : Disk) (path : Path) (target : Text) : Except DiskError Disk := do
  let (disk, parent, name) ← disk.prepare path
  .ok (disk.put (parent ++ [name]) (.link target))

/-- Removes a file, a link, or a directory with all that is in it. -/
def remove (disk : Disk) (path : Path) : Except DiskError Disk := do
  let parent ← disk.walk false linkLimit (disk.origin path) path.names.dropLast
  let location := parent ++ [path.name]
  match disk.node? location with
  | none => .error .notFound
  | some _ =>
    .ok { disk with nodes := disk.nodes.filter fun entry => !location.isPrefixOf entry.1 }

end Quarry.Disk
