import Quarry.Text.Digit

/-! Patterns to look for in a text: regular expressions with anchors. Choices are tried in order,
and a choice is taken back where it leads nowhere, but not inside a repetition that is for good. -/
namespace Quarry

/-- What one character of a text may be. -/
inductive CharClass where
  | only (c : Char)
  /-- Any character but a line feed. -/
  | any
  | digit
  | range (first last : Char)
  | oneOf (classes : List CharClass)
  | noneOf (classes : List CharClass)

/-- How often a repetition tries to repeat. -/
inductive Eagerness where
  /-- As often as it can, or less often if that leads nowhere. -/
  | eager
  /-- As seldom as it can, or more often if that leads nowhere. -/
  | reluctant
  /-- As often as it can, for good. -/
  | possessive
  deriving DecidableEq, Repr

inductive Pattern where
  | empty
  | one (cls : CharClass)
  | start
  | finish
  | both (first second : Pattern)
  | either (left right : Pattern)
  /-- At least `least` times, and at most `most` times where that is given. -/
  | repeated (body : Pattern) (least : Nat) (most : Option Nat) (eagerness : Eagerness)

mutual

def CharClass.holds (c : Char) : CharClass → Bool
  | .only d => c == d
  | .any => c != '\n'
  | .digit => Text.isDigit c
  | .range first last => first ≤ c && c ≤ last
  | .oneOf classes => CharClass.someHolds c classes
  | .noneOf classes => !CharClass.someHolds c classes

def CharClass.someHolds (c : Char) : List CharClass → Bool
  | [] => false
  | cls :: others => cls.holds c || CharClass.someHolds c others

end

namespace Pattern

/-- A place in a text: whether it is the start, and what follows. -/
structure Place where
  atStart : Bool
  rest : Text

/-- The end of a text, or the line feed that ends it. -/
def Place.atEnd (place : Place) : Bool := place.rest = [] || place.rest = ['\n']

/-- What comes behind a pattern: it finds the place where everything ends, if there is one. -/
abbrev Sequel := Place → Option Place

/-- Whether a place lies behind another one. -/
def Place.isBehind (later earlier : Place) : Bool := later.rest.length < earlier.rest.length

/-- Takes a step so many times before the sequel. -/
def stepsBefore (step : Sequel → Sequel) (sequel : Sequel) : Nat → Sequel
  | 0, place => sequel place
  | times + 1, place => step (stepsBefore step sequel times) place

/-- Takes a step at most so many times before the sequel. A step that uses up no text is the
last one. -/
def stepsAtMost (reluctant : Bool) (step : Sequel → Sequel) (sequel : Sequel) : Nat → Sequel
  | 0, place => sequel place
  | times + 1, place =>
    let further := fun later : Place =>
      if later.isBehind place then stepsAtMost reluctant step sequel times later
      else sequel later
    if reluctant then (sequel place).orElse fun _ => step further place
    else (step further place).orElse fun _ => sequel place

/-- The steps that are worth taking at a place where more may follow than the least number: as
many as there are characters left. -/
def extraSteps (least : Nat) (most : Option Nat) (place : Place) : Nat :=
  match most with
  | none => place.rest.length
  | some most => min (most - least) place.rest.length

/-- Repeats a step. Of more steps than there are characters one uses up no text, and it may as
well be taken once. -/
def repeats (least : Nat) (most : Option Nat) (reluctant : Bool) (step : Sequel → Sequel)
    (sequel : Sequel) : Sequel := fun place =>
  stepsBefore step (fun place => stepsAtMost reluctant step sequel (extraSteps least most place) place)
    (min least (place.rest.length + 1)) place

/-- The place where a pattern and its sequel end, from a place on. -/
def leads : Pattern → Sequel → Sequel
  | .empty, sequel, place => sequel place
  | .one cls, sequel, place =>
    match place.rest with
    | [] => none
    | c :: rest => if cls.holds c then sequel ⟨false, rest⟩ else none
  | .start, sequel, place => if place.atStart then sequel place else none
  | .finish, sequel, place => if place.atEnd then sequel place else none
  | .both first second, sequel, place => first.leads (second.leads sequel) place
  | .either left right, sequel, place =>
    (left.leads sequel place).orElse fun _ => right.leads sequel place
  | .repeated body least most .possessive, sequel, place =>
    -- Each repetition ends where the body ends first, and so does the whole.
    let step := fun later place => (body.leads some place).bind later
    (repeats least most false step some place).bind sequel
  | .repeated body least most eagerness, sequel, place =>
    repeats least most (eagerness == .reluctant) body.leads sequel place

/-- Whether a pattern occurs at one of the places that follow. -/
def occursFrom (pattern : Pattern) (atStart : Bool) : Text → Bool
  | [] => (pattern.leads some ⟨atStart, []⟩).isSome
  | c :: rest =>
    (pattern.leads some ⟨atStart, c :: rest⟩).isSome || pattern.occursFrom false rest

/-- Whether a pattern occurs anywhere in a text. -/
def occurs (pattern : Pattern) (text : Text) : Bool := pattern.occursFrom true text

/-- One pattern after another. -/
def sequence : List Pattern → Pattern
  | [] => .empty
  | [pattern] => pattern
  | pattern :: others => .both pattern (sequence others)

/-- Any of several patterns; there is at least one. -/
def choice (first : Pattern) : List Pattern → Pattern
  | [] => first
  | second :: others => .either first (choice second others)

/-- The characters of a text, one after another. -/
def literal (text : Text) : Pattern := sequence (text.map fun c => .one (.only c))

/-- Any of several words. -/
def word (first : Text) (others : List Text) : Pattern :=
  choice (literal first) (others.map literal)

/-- A pattern any number of times. -/
def many (pattern : Pattern) : Pattern := .repeated pattern 0 none .eager

end Pattern
end Quarry
