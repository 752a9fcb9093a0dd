import Quarry.Markup.Entity.Table
import Quarry.Text.Basic
import Quarry.Number.Integer

/-! Character references of markup, by name and by number. -/
namespace Quarry.Markup

/-- What a reference by name stands for. An unknown name stands for itself, behind its ampersand. -/
def namedText (name : Text) : Text :=
  match entities.lookup (String.ofList name), pairEntities.lookup (String.ofList name) with
  | some n, _ => [Char.ofNat n]
  | none, some (first, second) => [Char.ofNat first, Char.ofNat second]
  | none, none => '&' :: name

/-- The characters that the numbers from 128 to 159 mean in Windows-1252; those without a meaning
there stay as they are. -/
def windowsCharacters : List Nat :=
  [0x20AC, 0x81, 0x201A, 0x192, 0x201E, 0x2026, 0x2020, 0x2021, 0x2C6, 0x2030, 0x160, 0x2039,
   0x152, 0x8D, 0x17D, 0x8F, 0x90, 0x2018, 0x2019, 0x201C, 0x201D, 0x2022, 0x2013, 0x2014, 0x2DC,
   0x2122, 0x161, 0x203A, 0x153, 0x9D, 0x17E, 0x178]

def replacement : Char := Char.ofNat 0xFFFD

/-- What a reference by number stands for. Numbers of no character, those of surrogates among them,
are replaced. -/
def numberedText (n : Nat) : Text :=
  if n = 0 || 0x110000 ≤ n || (0xD800 ≤ n && n < 0xE000) then [replacement]
  else if 0x80 ≤ n && n < 0xA0 then [Char.ofNat (windowsCharacters.getD (n - 0x80) n)]
  else [Char.ofNat n]

end Quarry.Markup
