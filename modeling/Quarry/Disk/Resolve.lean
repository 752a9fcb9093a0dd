import Quarry.Disk.Basic

/-! Paths without links: every link on the way is replaced by its target, double dots lead back
from where the links have led, and names that are missing stay. Where links run in a circle the
rest of the path is left as it is, and only its double dots are worked out. -/
namespace Quarry.Disk

/-- What is still to be followed: a segment, or the note that a link has been followed to its end
when everything before the note is done. -/
inductive Todo where
  | segment (text : Text)
  | followed (link : Location)
  deriving DecidableEq, Repr

/-- Where following ends. -/
inductive Destination where
  | location (location : Location)
  /-- Links run in a circle here, and this path is left. -/
  | circle (rest : Text)
  /-- A name holds a null character. -/
  | nulCharacter
  deriving DecidableEq, Repr

def locationText (location : Location) : Text := '/' :: Text.joined ['/'] location

/-- Puts a path behind another one, unless it has a root itself. -/
def joinTexts (base rest : Text) : Text :=
  if rest.head? = some '/' then rest
  else if base.getLast? = some '/' || base.isEmpty then base ++ rest
  else base ++ '/' :: rest

/-- The path that is left when the link at the base is part of a circle: the segments up to each
note are put behind what precedes them. -/
def leftOver (base : Text) (level : List Text) : List Todo → Text
  | [] => joinTexts base (Text.joined ['/'] level.reverse)
  | .segment text :: todo => leftOver base (text :: level) todo
  | .followed _ :: todo => leftOver (joinTexts base (Text.joined ['/'] level.reverse)) [] todo

/-- The links that are left when one has been met. -/
def without (link : Location) (fresh : List Location) : List Location :=
  fresh.filter (· != link)

theorem length_without_lt {link : Location} {fresh : List Location} (h : link ∈ fresh) :
    (without link fresh).length < fresh.length :=
  List.length_filter_lt_length_iff_exists.2 ⟨link, h, by simp⟩

/-- Follows what is to be done. A link is followed once: `fresh` holds the links not met so far, and
`known` those that have been followed to their ends. One that is neither is part of a circle.

What is at a location is always found out here. So every location on the way is taken to have a text
within `pathLimit`, every directory to be one that may be searched, and chains of links to be short
enough for each to be followed inside the one before. -/
def follow (disk : Disk) (fresh : List Location) (known : List (Location × Location))
    (here : Location) : List Todo → Destination
  | [] => .location here
  | .followed link :: todo => disk.follow fresh ((link, here) :: known) here todo
  | .segment text :: todo =>
    if Path.isIdle text then disk.follow fresh known here todo
    else if text = Path.up then disk.follow fresh known here.dropLast todo
    else if text.contains (Char.ofNat 0) then .nulCharacter
    else
      let next := here ++ [text]
      match disk.link? next with
      | none => disk.follow fresh known next todo
      | some target =>
        match known.lookup next with
        | some ending => disk.follow fresh known ending todo
        | none =>
          -- A link that was met before and has not come to an end leads back to itself.
          if fresh.contains next then
            disk.follow (without next fresh) known (linkOrigin target here)
              ((Path.segments target).map .segment ++ .followed next :: todo)
          else .circle (leftOver (locationText next) [] todo)
termination_by todo => (fresh.length, todo.length)
decreasing_by
  · exact Prod.Lex.right _ (Nat.lt_succ_self _)
  · exact Prod.Lex.right _ (Nat.lt_succ_self _)
  · exact Prod.Lex.right _ (Nat.lt_succ_self _)
  · exact Prod.Lex.right _ (Nat.lt_succ_self _)
  · exact Prod.Lex.right _ (Nat.lt_succ_self _)
  · rename_i met
    exact Prod.Lex.left _ _ (length_without_lt (List.contains_iff_mem.1 met))

/-- All links of a file system. -/
def linkLocations (disk : Disk) : List Location :=
  disk.nodes.filterMap fun (location, node) =>
    match node with
    | .link _ => some location
    | _ => none

/-- The path that a text is for, with its double dots worked out; it ends before a null
character. -/
def lexicalPath (text : Text) : Path :=
  let path : Path := ⟨Path.rootOf text, Path.lexicalNames (Path.segments text)⟩
  .ofText (path.text.takeWhile (· != Char.ofNat 0))

/-- Why a path has no form without links. -/
inductive ResolveError where
  | nulCharacter
  | circle
  deriving DecidableEq, Repr

/-- The absolute path without links and double dots. A circle of links is an error only if the
system, following what is left, runs into it. -/
def resolve (disk : Disk) (path : Path) : Except ResolveError Path :=
  let destination :=
    disk.follow disk.linkLocations [] (disk.origin path) (path.names.map .segment)
  match destination with
  | .nulCharacter => .error .nulCharacter
  | .location location => .ok ⟨.slash, location⟩
  | .circle rest =>
    let resolved := lexicalPath rest
    match disk.locate resolved with
    | .error .tooManyLinks => .error .circle
    | _ => .ok resolved

end Quarry.Disk
