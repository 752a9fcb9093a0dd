import Quarry.Number.Integer
import Quarry.Pattern.Basic

/-! The written form of patterns: plain characters stand for themselves; a dot, `\d` and classes in
brackets for one character; `^` and `$` for the two ends; parentheses and bars for choices; and
`*`, `+`, `?` and counts in braces repeat what comes before them. A `?` behind a repetition makes
it reluctant, and a `+` possessive. Of a larger syntax this is all that is read: the other classes
and anchors behind a backslash, such as `\w`, `\s` and `\b`, and groups that start with `(?` are
refused as malformed. -/
namespace Quarry.Pattern

/-- Why a written pattern is refused. -/
inductive ReadError where
  | malformed
  /-- A count from `countLimit` on. -/
  | countTooLarge
  /-- A count of more digits than an integer may have. -/
  | countTooLong
  deriving DecidableEq, Repr

/-- A part of a written pattern. -/
inductive Piece where
  | atom (pattern : Pattern)
  | bar
  | openGroup
  | closeGroup
  /-- A star or a count in braces. -/
  | count (least : Nat) (most : Option Nat)
  | questionMark
  | plus
  | refused (error : ReadError)

/-- A part of a class in brackets. -/
inductive ClassPart where
  | char (c : Char)
  | digit
  | dash

/-- The character of a part, which may be an end of a range. -/
def ClassPart.char? : ClassPart → Option Char
  | .char c => some c
  | .digit => none
  | .dash => some '-'

def ClassPart.charClass : ClassPart → CharClass
  | .char c => .only c
  | .digit => .digit
  | .dash => .only '-'

/-- The classes that the parts denote, or none for a range with a wrong end. A dash behind a part
makes a range up to the part behind the dash, which may be a dash too; elsewhere it stands for
itself. -/
def classes? : List ClassPart → Option (List CharClass)
  | [] => some []
  | first :: .dash :: last :: others => do
    let first ← first.char?
    let last ← last.char?
    let found ← classes? others
    if last < first then none else some (.range first last :: found)
  | part :: others => (classes? others).map (part.charClass :: ·)

/-- Where the reader of pieces stands: between pieces, behind a backslash, in a class or behind a
backslash in one, or in the braces of a count. What is read comes last first. -/
inductive Mode where
  | between
  | escape
  | openClass
  | inClass (negated : Bool) (parts : List ClassPart)
  | classEscape (negated : Bool) (parts : List ClassPart)
  | braces (read : Text)

/-- A written pattern read in part, with its pieces so far, the last one first. -/
structure Scan where
  pieces : List Piece
  mode : Mode

def plain (c : Char) : Piece := .atom (.one (.only c))

/-- The piece that a character makes by itself. -/
def Scan.begin (pieces : List Piece) (c : Char) : Scan :=
  match c with
  | '\\' => ⟨pieces, .escape⟩
  | '[' => ⟨pieces, .openClass⟩
  | '\x7b' => ⟨pieces, .braces []⟩
  | '.' => ⟨.atom (.one .any) :: pieces, .between⟩
  | '^' => ⟨.atom .start :: pieces, .between⟩
  | '$' => ⟨.atom .finish :: pieces, .between⟩
  | '|' => ⟨.bar :: pieces, .between⟩
  | '(' => ⟨.openGroup :: pieces, .between⟩
  | ')' => ⟨.closeGroup :: pieces, .between⟩
  | '*' => ⟨.count 0 none :: pieces, .between⟩
  | '+' => ⟨.plus :: pieces, .between⟩
  | '?' => ⟨.questionMark :: pieces, .between⟩
  | c => ⟨plain c :: pieces, .between⟩

def isPlainDigit (c : Char) : Bool := '0' ≤ c && c ≤ '9'

/-- The least number that is no count. -/
def countLimit : Nat := 4294967295

/-- The number that the digits of a count denote. -/
def countValue (digits : Text) : Except ReadError Nat :=
  if Integer.digitLimit < digits.length then .error .countTooLong
  else
    let value := Integer.ofDigits (digits.map fun c => c.toNat - '0'.toNat)
    if countLimit ≤ value then .error .countTooLarge else .ok value

/-- The upper bound of a count, which may be missing. -/
def upperBound (digits : Text) : Except ReadError (Option Nat) :=
  if digits.isEmpty then .ok none else (countValue digits).map some

/-- The piece for a count between two bounds as they are written. -/
def countPiece (least most : Text) : Piece :=
  match countValue least, upperBound most with
  | .error error, _ | .ok _, .error error => .refused error
  | .ok least, .ok none => .count least none
  | .ok least, .ok (some most) =>
    if most < least then .refused .malformed else .count least (some most)

/-- The count in a pair of braces, or none where the braces stand for themselves. -/
def count? (inside : Text) : Option Piece :=
  let least := inside.takeWhile isPlainDigit
  match inside.dropWhile isPlainDigit with
  | [] => if least.isEmpty then none else some (countPiece least least)
  | ',' :: most => if most.all isPlainDigit then some (countPiece least most) else none
  | _ => none

/-- Braces that hold no count, and what is read behind the left one, as plain characters. -/
def plainBraces (pieces : List Piece) (read : Text) : List Piece :=
  read.map plain ++ plain '\x7b' :: pieces

/-- Adds a character to a class. A right bracket ends the class unless it comes first. -/
def Scan.pushClass (pieces : List Piece) (negated : Bool) (parts : List ClassPart) (c : Char) :
    Scan :=
  if c = ']' && !parts.isEmpty then
    match classes? parts.reverse with
    | some found =>
      ⟨.atom (.one (if negated then .noneOf found else .oneOf found)) :: pieces, .between⟩
    | none => ⟨.refused .malformed :: pieces, .between⟩
  else if c = '\\' then ⟨pieces, .classEscape negated parts⟩
  else if c = '-' then ⟨pieces, .inClass negated (.dash :: parts)⟩
  else ⟨pieces, .inClass negated (.char c :: parts)⟩

/-- Escaped letters and digits other than `\d` have no meaning here. -/
def isKnownEscape (c : Char) : Bool := !c.isAlphanum

def Scan.push (scan : Scan) (c : Char) : Scan :=
  match scan.mode with
  | .between => .begin scan.pieces c
  | .escape =>
    if c = 'd' then ⟨.atom (.one .digit) :: scan.pieces, .between⟩
    else ⟨(if isKnownEscape c then plain c else .refused .malformed) :: scan.pieces, .between⟩
  | .openClass =>
    if c = '^' then ⟨scan.pieces, .inClass true []⟩ else .pushClass scan.pieces false [] c
  | .inClass negated parts => .pushClass scan.pieces negated parts c
  | .classEscape negated parts =>
    if c = 'd' then ⟨scan.pieces, .inClass negated (.digit :: parts)⟩
    else if isKnownEscape c then ⟨scan.pieces, .inClass negated (.char c :: parts)⟩
    else ⟨.refused .malformed :: scan.pieces, .inClass negated parts⟩
  | .braces read =>
    if isPlainDigit c || c = ',' then ⟨scan.pieces, .braces (c :: read)⟩
    else if c = '\x7d' then
      match count? read.reverse with
      | some piece => ⟨piece :: scan.pieces, .between⟩
      | none => .begin (plainBraces scan.pieces read) c
    else .begin (plainBraces scan.pieces read) c

/-- All pieces, the last one first, when no character follows. -/
def Scan.finish (scan : Scan) : List Piece :=
  match scan.mode with
  | .between => scan.pieces
  | .braces read => plainBraces scan.pieces read
  | _ => .refused .malformed :: scan.pieces

def pieces (written : Text) : List Piece :=
  (written.foldl Scan.push ⟨[], .between⟩).finish.reverse

/-- A pattern in a sequence. Only an atom can be repeated: no anchor, and nothing twice. -/
inductive Element where
  | atom (pattern : Pattern)
  /-- An anchor, or a repetition that is complete. -/
  | settled (pattern : Pattern)
  /-- A repetition whose eagerness the next piece may change. -/
  | counted (pattern : Pattern) (least : Nat) (most : Option Nat)

def Element.pattern : Element → Pattern
  | .atom pattern | .settled pattern => pattern
  | .counted pattern least most => .repeated pattern least most .eager

/-- A group that is still open: the choices that are complete and the sequence that is under way,
both last first. -/
structure Group where
  choices : List Pattern
  elements : List Element

/-- The sequence that is under way. -/
def Group.sequence (group : Group) : Pattern :=
  .sequence (group.elements.reverse.map Element.pattern)

/-- The pattern of a group. -/
def Group.pattern (group : Group) : Pattern :=
  match group.choices.reverse with
  | [] => group.sequence
  | first :: others => choice first (others ++ [group.sequence])

def Group.add (group : Group) (element : Element) : Group :=
  { group with elements := element :: group.elements }

/-- Repeats the last element of a group. A mark behind a repetition changes its eagerness. -/
def Group.repeatLast (group : Group) (least : Nat) (most : Option Nat)
    (change : Option Eagerness) : Except ReadError Group :=
  match group.elements, change with
  | .atom pattern :: elements, _ =>
    .ok { group with elements := .counted pattern least most :: elements }
  | .counted pattern least most :: elements, some eagerness =>
    .ok { group with elements := .settled (.repeated pattern least most eagerness) :: elements }
  | _, _ => .error .malformed

/-- Takes a piece inside a group that has others around it, or refuses it. -/
def pushPiece : List Group → Piece → Except ReadError (List Group)
  | [], _ => .error .malformed
  | group :: around, piece =>
    match piece with
    | .atom .start => .ok (group.add (.settled .start) :: around)
    | .atom .finish => .ok (group.add (.settled .finish) :: around)
    | .atom pattern => .ok (group.add (.atom pattern) :: around)
    | .bar => .ok (⟨group.sequence :: group.choices, []⟩ :: around)
    | .openGroup => .ok (⟨[], []⟩ :: group :: around)
    | .closeGroup =>
      match around with
      | [] => .error .malformed
      | outer :: others => .ok (outer.add (.atom group.pattern) :: others)
    | .count least most => (group.repeatLast least most none).map (· :: around)
    | .questionMark => (group.repeatLast 0 (some 1) (some .reluctant)).map (· :: around)
    | .plus => (group.repeatLast 1 none (some .possessive)).map (· :: around)
    | .refused error => .error error

/-- Reads a written pattern. -/
def read (written : Text) : Except ReadError Pattern :=
  match (pieces written).foldlM pushPiece [⟨[], []⟩] with
  | .error error => .error error
  | .ok [group] => .ok group.pattern
  | .ok _ => .error .malformed

end Quarry.Pattern
