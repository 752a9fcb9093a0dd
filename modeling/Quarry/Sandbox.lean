import Quarry.Disk.Resolve
import Quarry.Text.Blank
import Quarry.Trace

/-! The directory that no file access leaves, and the size that no file may exceed. -/
namespace Quarry

structure Sandbox where
  base : Path
  maxFileSize : Nat

namespace Sandbox

/-- The form of a path without links, or a fault if it has none. -/
def canonical (disk : Disk) (path : Path) : Except Fault Path :=
  match disk.resolve path with
  | .ok resolved => .ok resolved
  | .error .nulCharacter => .error .nulInPath
  | .error .circle => .error (.unresolvable path.text)

/-- The form without links of a requested path, which may be relative to the base. It must lie
within the base, links resolved in both. -/
def resolve (sandbox : Sandbox) (disk : Disk) (requested : Option Text) : Traced Path :=
  match requested with
  | none => .fail .emptyPath
  | some requested =>
    if Text.isBlank requested then .fail .emptyPath
    else do
      let base ← .ofExcept (canonical disk sandbox.base)
      let path ← .ofExcept (canonical disk (base.join (.ofText requested)))
      if path.isWithin base then pure path
      else do
        .report .warning .sandbox ("Rejected path outside base dir: ".toList ++ requested)
        .fail (.outsideBase requested base.text)

/-- Whether a path holds a null character, which the system refuses. -/
def holdsNul (path : Path) : Bool := path.names.any fun name => name.contains (Char.ofNat 0)

/-- The size of a file, which must not exceed the limit. -/
def checkSize (sandbox : Sandbox) (disk : Disk) (path : Path) : Except Fault Nat :=
  if holdsNul path then .error .nulInPath
  else match disk.size path with
    | .error .notFound => .error (.fileMissing path.text)
    | .error _ => .error (.sizeUnknown path.text)
    | .ok size =>
      if sandbox.maxFileSize < size then
        .error (.fileTooLarge path.text size sandbox.maxFileSize)
      else .ok size

/-- The form without links of a path to a file that may be read. -/
def check (sandbox : Sandbox) (disk : Disk) (requested : Option Text) : Traced Path := do
  let path ← sandbox.resolve disk requested
  let _ ← .ofExcept (sandbox.checkSize disk path)
  pure path

end Sandbox
end Quarry
