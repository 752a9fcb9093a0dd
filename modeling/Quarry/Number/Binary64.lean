/-! Binary floating-point numbers of 64 bits as exact values, and the one nearest to a decimal. -/
namespace Quarry

/-- A floating-point number. A finite one is `significand * 2 ^ exponent` with a sign, where the
significand has 53 bits unless the exponent is the least one. -/
inductive Binary64 where
  | nan
  | infinite (negative : Bool)
  | finite (negative : Bool) (significand : Nat) (exponent : Int)
  deriving DecidableEq, Repr

namespace Binary64

/-- The least integer with 53 bits. -/
def leastFull : Nat := 4503599627370496

def leastExponent : Int := -1074
def greatestExponent : Int := 971

/-- The quotient rounded to the nearest integer, a half to the even neighbour. -/
def roundedQuotient (num den : Nat) : Nat :=
  let quotient := num / den
  let twice := 2 * (num % den)
  if den < twice || (twice == den && quotient % 2 == 1) then quotient + 1 else quotient

/-- The exponent at which the quotient has 53 bits, or the least exponent. -/
def exponentFor (num den : Nat) : Int :=
  let guess : Int := (num.log2 : Int) - den.log2 - 52
  let full :=
    if guess < 0 then num * Nat.pow 2 (-guess).toNat / den
    else num / (den * Nat.pow 2 guess.toNat)
  max leastExponent (if full < leastFull then guess - 1 else guess)

/-- The number nearest to a quotient. -/
def ofQuotient (negative : Bool) (num den : Nat) : Binary64 :=
  if num = 0 then .finite negative 0 leastExponent
  else
    let exponent := exponentFor num den
    let significand :=
      if exponent < 0 then roundedQuotient (num * Nat.pow 2 (-exponent).toNat) den
      else roundedQuotient num (den * Nat.pow 2 exponent.toNat)
    -- Rounding up the greatest significand gives the next power of two.
    let carried := significand == 2 * leastFull
    let exponent := if carried then exponent + 1 else exponent
    if greatestExponent < exponent then .infinite negative
    else .finite negative (if carried then leastFull else significand) exponent

/-- The number nearest to `digits * 10 ^ scale`. Beyond 310 places before the point every number
is infinite, and beyond 326 places after it every number is zero. -/
def ofDecimal (negative : Bool) (digits : Nat) (scale : Int) : Binary64 :=
  let places : Int := (Nat.toDigits 10 digits).length + scale
  if digits = 0 || places < -326 then .finite negative 0 leastExponent
  else if 310 < places then .infinite negative
  else if scale < 0 then ofQuotient negative digits (Nat.pow 10 (-scale).toNat)
  else ofQuotient negative (digits * Nat.pow 10 scale.toNat) 1

end Binary64
end Quarry
