import Quarry.Text.Basic
import Quarry.Text.Case.Table

/-! Lower and upper case of whole texts, for all of Unicode. A letter's form may have several
letters, and a capital sigma is lowered by its place in the word. -/
namespace Quarry.Text

def capitalSigma : Char := 'Σ'
def finalSigma : Char := 'ς'
def innerSigma : Char := 'σ'

/-- The capital I with a dot keeps its dot as a combining mark when it is lowered. -/
def dottedCapitalI : Char := 'İ'

/-- The lower case form of a letter other than a capital sigma. -/
def lowerChar (c : Char) : Text :=
  if c = dottedCapitalI then ['i', Char.ofNat 0x307]
  else [((CaseRun.image? lowerRuns c.toNat).map Char.ofNat).getD c]

def upperChar (c : Char) : Text :=
  match upperExpansions.lookup c.toNat with
  | some form => form.map Char.ofNat
  | none => [((CaseRun.image? upperRuns c.toNat).map Char.ofNat).getD c]

def isCaseIgnorable (c : Char) : Bool := Span.covers caseIgnorableSpans c.toNat
def isCased (c : Char) : Bool := Span.covers casedSpans c.toNat

/-- Whether the text goes on with a cased letter, case-ignorable characters skipped. -/
def startsCased (text : Text) : Bool :=
  match text.dropWhile isCaseIgnorable with
  | [] => false
  | c :: _ => isCased c

/-- Lowers a text that follows a cased letter, or does not. A capital sigma takes its final form
after a cased letter when none comes next. -/
def lowerFrom (afterCased : Bool) : Text → Text
  | [] => []
  | c :: rest =>
    (if c = capitalSigma then
      [if afterCased && !startsCased rest then finalSigma else innerSigma]
     else lowerChar c) ++
    -- A letter that is both cased and ignorable leaves the state as it is.
    lowerFrom (if isCaseIgnorable c then afterCased else isCased c) rest

/-- The lower case form of a text. -/
def lower (text : Text) : Text := lowerFrom false text

/-- The upper case form of a text. -/
def upper (text : Text) : Text := text.flatMap upperChar

end Quarry.Text
