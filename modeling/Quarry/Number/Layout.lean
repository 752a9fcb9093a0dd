import Quarry.Number.Shortest
import Quarry.Text.Basic

/-! The written form of a floating-point number: its shortest digits, laid out by one record of
decisions. -/
namespace Quarry.Binary64

/-- Where positional notation begins and ends, counted by the exponent of the first digit, and
how an exponent is written. -/
structure Layout where
  leastPositional : Int
  greatestPositional : Int
  exponentWidth : Nat

/-- Numbers from 0.0001 up to below 1e16 are positional; an exponent has two digits or more. -/
def Layout.standard : Layout := ⟨-4, 15, 2⟩

def padded (width : Nat) (digits : Text) : Text :=
  List.replicate (width - digits.length) '0' ++ digits

/-- An exponent with its sign, also where it is positive. -/
def Layout.exponent (layout : Layout) (n : Int) : Text :=
  (if n < 0 then '-' else '+') :: padded layout.exponentWidth (Text.ofNat n.natAbs)

/-- Lays out significant digits of which the first counts `10 ^ top`. A positional number always
has a digit after its point. -/
def Layout.digits (layout : Layout) (digits : Text) (top : Int) : Text :=
  if layout.leastPositional ≤ top && top ≤ layout.greatestPositional then
    if top < 0 then "0.".toList ++ List.replicate (-top - 1).toNat '0' ++ digits
    else
      let whole := top.toNat + 1
      let front := digits.take whole
      let fraction := digits.drop whole
      front ++ List.replicate (whole - front.length) '0' ++ ['.'] ++
        (if fraction.isEmpty then ['0'] else fraction)
  else
    digits.take 1 ++ (if digits.length ≤ 1 then [] else '.' :: digits.drop 1) ++
      ['e'] ++ layout.exponent top

def withoutFinalZeros (digits : Text) : Text :=
  (digits.reverse.dropWhile (· = '0')).reverse

/-- The written form of a number. -/
def Layout.write (layout : Layout) : Binary64 → Text
  | .nan => "nan".toList
  | .infinite negative => if negative then "-inf".toList else "inf".toList
  | .finite negative significand exponent =>
    (if negative then ['-'] else []) ++
      if significand = 0 then "0.0".toList
      else
        let decimal := shortest significand exponent
        let digits := Text.ofNat decimal.digits
        layout.digits (withoutFinalZeros digits) (digits.length - 1 + decimal.scale)

/-- The written form under the standard layout. -/
def text (x : Binary64) : Text := Layout.standard.write x

end Quarry.Binary64
