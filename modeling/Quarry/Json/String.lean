import Quarry.Text.Quoted

/-! JSON strings: what may stand between the quotes, and the text it denotes. -/
namespace Quarry.Json

def isHighSurrogate (n : Nat) : Bool := 0xD800 ≤ n && n < 0xDC00
def isLowSurrogate (n : Nat) : Bool := 0xDC00 ≤ n && n < 0xE000

/-- Adds a code unit to those read so far, the last one first. A low surrogate right after a high
one joins it to a single code point. -/
def pushUnit (read : List Nat) (unit : Nat) : List Nat :=
  match read with
  | high :: others =>
    if isHighSurrogate high && isLowSurrogate unit then
      (0x10000 + (high - 0xD800) * 0x400 + (unit - 0xDC00)) :: others
    else unit :: read
  | [] => [unit]

/-- The character of a code point. A surrogate left alone is none, so no text holds it, and another
character stands for it: what is done with such a surrogate later on does not show. -/
def charOfUnit (unit : Nat) : Char :=
  if 0xD800 ≤ unit && unit < 0xE000 then Char.ofNat 0xFFFD else Char.ofNat unit

def hexValue? (c : Char) : Option Nat :=
  if '0' ≤ c && c ≤ '9' then some (c.toNat - '0'.toNat)
  else if 'a' ≤ c && c ≤ 'f' then some (c.toNat - 'a'.toNat + 10)
  else if 'A' ≤ c && c ≤ 'F' then some (c.toNat - 'A'.toNat + 10)
  else none

/-- The code unit that four hexadecimal digits denote. -/
def hexUnit? (a b c d : Char) : Option Nat := do
  let a ← hexValue? a
  let b ← hexValue? b
  let c ← hexValue? c
  let d ← hexValue? d
  pure (((a * 16 + b) * 16 + c) * 16 + d)

/-- The character of an escape of one letter. -/
def shortEscape? : Char → Option Char
  | '"' => some '"'
  | '\\' => some '\\'
  | '/' => some '/'
  | 'b' => some (Char.ofNat 8)
  | 'f' => some (Char.ofNat 12)
  | 'n' => some '\n'
  | 'r' => some '\r'
  | 't' => some '\t'
  | _ => none

/-- Reads the inside of a string behind the code units read so far. Control characters must be
escaped, and every escape must be one of the known ones. -/
def unescapeFrom? (read : List Nat) : Text → Option (List Nat)
  | [] => some read
  | '\\' :: 'u' :: a :: b :: c :: d :: rest =>
    match hexUnit? a b c d with
    | some unit => unescapeFrom? (pushUnit read unit) rest
    | none => none
  | '\\' :: c :: rest =>
    match shortEscape? c with
    | some e => unescapeFrom? (pushUnit read e.toNat) rest
    | none => none
  | c :: rest =>
    if c = '\\' || c.toNat < 0x20 then none else unescapeFrom? (pushUnit read c.toNat) rest

/-- The text that the inside of a string denotes. -/
def unescape? (inside : Text) : Option Text :=
  (unescapeFrom? [] inside).map fun units => (units.map charOfUnit).reverse

/-- How a character is written inside a string: only quotes, backslashes and control characters
are escaped. -/
def escapeChar (c : Char) : Text :=
  if c = '"' then ['\\', '"']
  else if c = '\\' then ['\\', '\\']
  else if c = '\n' then ['\\', 'n']
  else if c = '\r' then ['\\', 'r']
  else if c = '\t' then ['\\', 't']
  else if c.toNat = 8 then ['\\', 'b']
  else if c.toNat = 12 then ['\\', 'f']
  else if c.toNat < 0x20 then ['\\', 'u'] ++ Text.hexDigits 4 c.toNat
  else [c]

def escape (text : Text) : Text := text.flatMap escapeChar

end Quarry.Json
