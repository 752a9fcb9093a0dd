import Quarry.Number.Binary64

/-! The fewest decimal digits that read back as a given floating-point number. -/
namespace Quarry.Binary64

/-- A decimal `digits * 10 ^ scale`. -/
structure Decimal where
  digits : Nat
  scale : Int

/-- The positive reals that round to a number, as numerators over one denominator, with the
number itself. -/
structure Rounding where
  low : Nat
  value : Nat
  high : Nat
  den : Nat
  endsIncluded : Bool

/-- The reals nearer to `significand * 2 ^ exponent` than to its neighbours. The lower neighbour
of a power of two is only half as far away as the upper one. -/
def Rounding.ofFinite (significand : Nat) (exponent : Int) : Rounding :=
  let below := if significand = leastFull && leastExponent < exponent then 1 else 2
  let scaled := fun n : Nat => n * Nat.pow 2 (exponent - 2).toNat
  ⟨scaled (4 * significand - below), scaled (4 * significand), scaled (4 * significand + 2),
    Nat.pow 2 (2 - exponent).toNat, significand % 2 = 0⟩

def Rounding.holds (r : Rounding) (num den : Nat) : Bool :=
  if r.endsIncluded then r.low * den ≤ num * r.den && num * r.den ≤ r.high * den
  else r.low * den < num * r.den && num * r.den < r.high * den

/-- The power of ten at or below a positive quotient. -/
def decimalExponent (num den : Nat) : Int :=
  if den ≤ num then (Nat.toDigits 10 (num / den)).length - 1
  else
    match (List.range 400).find? fun places => den ≤ num * Nat.pow 10 places with
    | some places => -(places : Int)
    | none => 0

/-- The multiple of a power of ten that rounds to the number, if one of the two around it does.
Of two the nearer is taken, and the even one of two equally near. -/
def onGrid? (r : Rounding) (scale : Int) : Option Decimal :=
  let up := Nat.pow 10 scale.toNat
  let down := Nat.pow 10 (-scale).toNat
  let below := r.value * down / (r.den * up)
  let candidate := fun n : Nat => r.holds (n * up) down
  let twice := 2 * (r.value * down - below * r.den * up)
  let nearer :=
    if twice < r.den * up || (twice == r.den * up && below % 2 == 0) then below else below + 1
  let farther := if nearer = below then below + 1 else below
  if candidate nearer then some ⟨nearer, scale⟩
  else if candidate farther then some ⟨farther, scale⟩
  else none

/-- The shortest decimal that rounds to a positive finite number; seventeen digits suffice. -/
def shortest (significand : Nat) (exponent : Int) : Decimal :=
  let r := Rounding.ofFinite significand exponent
  let top := decimalExponent r.value r.den
  match (List.range 17).findSome? fun more : Nat => onGrid? r (top - more) with
  | some decimal => decimal
  | none => ⟨0, 0⟩

end Quarry.Binary64
