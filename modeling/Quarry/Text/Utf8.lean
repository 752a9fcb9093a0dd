import Quarry.Text.Basic

/-! UTF-8 octets read as text. Octets that belong to no well-formed character are dropped, one
character at a time: an unfinished character ends where an octet does not continue it, and that
octet starts afresh. -/
namespace Quarry.Utf8

/-- The octets of a text. -/
def encode (text : Text) : List UInt8 := text.flatMap String.utf8EncodeChar

/-- A character whose first octets are read: their value, the range of the next octet, and the
number of octets after that one. -/
structure Unfinished where
  value : Nat
  least : Nat
  most : Nat
  more : Nat

/-- What an octet of 0x80 or more starts, or none if no character starts with it. The ranges
leave out overlong forms, surrogates, and what lies beyond U+10FFFF. -/
def Unfinished.start? (octet : Nat) : Option Unfinished :=
  if octet < 0xC2 then none
  else if octet < 0xE0 then some ⟨octet % 32, 0x80, 0xBF, 0⟩
  else if octet = 0xE0 then some ⟨0, 0xA0, 0xBF, 1⟩
  else if octet = 0xED then some ⟨13, 0x80, 0x9F, 1⟩
  else if octet < 0xF0 then some ⟨octet % 16, 0x80, 0xBF, 1⟩
  else if octet = 0xF0 then some ⟨0, 0x90, 0xBF, 2⟩
  else if octet < 0xF4 then some ⟨octet % 8, 0x80, 0xBF, 2⟩
  else if octet = 0xF4 then some ⟨4, 0x80, 0x8F, 2⟩
  else none

/-- A decoder between two octets: the characters read, the last one first, and the character
that is under way. -/
structure Decoder where
  read : Text
  unfinished : Option Unfinished

/-- Reads an octet where a character may start. -/
def Decoder.start (read : Text) (octet : Nat) : Decoder :=
  if octet < 0x80 then ⟨Char.ofNat octet :: read, none⟩ else ⟨read, Unfinished.start? octet⟩

def Decoder.push (decoder : Decoder) (octet : UInt8) : Decoder :=
  match decoder.unfinished with
  | none => .start decoder.read octet.toNat
  | some begun =>
    if begun.least ≤ octet.toNat && octet.toNat ≤ begun.most then
      let value := begun.value * 64 + octet.toNat % 64
      match begun.more with
      | 0 => ⟨Char.ofNat value :: decoder.read, none⟩
      | more + 1 => ⟨decoder.read, some ⟨value, 0x80, 0xBF, more⟩⟩
    else .start decoder.read octet.toNat

/-- The well-formed characters among the octets. -/
def decode (octets : List UInt8) : Text :=
  (octets.foldl Decoder.push ⟨[], none⟩).read.reverse

end Quarry.Utf8
