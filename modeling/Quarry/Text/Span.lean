/-! Classes of characters given as ascending ranges of code points. -/
namespace Quarry

/-- A closed range of code points. -/
structure Span where
  first : Nat
  last : Nat
  deriving DecidableEq, Repr

namespace Span

/-- Whether one of the ascending ranges holds the code point. -/
def covers : List Span → Nat → Bool
  | [], _ => false
  | span :: others, n =>
    if n < span.first then false
    else if n ≤ span.last then true
    else covers others n

end Span
end Quarry
