/-! Why markup is not read at all. Nearly all markup is; what is wrong in it counts as text. -/
namespace Quarry.Markup

inductive Refusal where
  /-- A marked section of a kind that does not exist, or of no kind. -/
  | unknownSection
  /-- A reference by a number of more digits than an integer may have. -/
  | hugeNumber
  deriving DecidableEq, Repr

end Quarry.Markup
