import Quarry.Json.Value
import Quarry.Json.String
import Quarry.Number.Integer

/-! The tokens of JSON text. Brackets, commas and colons are tokens of their own; strings run from
quote to quote; everything else up to the next blank, quote or mark is one word, which is a
literal, a number, or no JSON at all. -/
namespace Quarry.Json

inductive Token where
  | openList
  | closeList
  | openRecord
  | closeRecord
  | comma
  | colon
  | text (t : Text)
  | atom (value : Value)
  /-- An integer of too many digits. -/
  | hugeInteger
  | malformed

/-- The blanks that may stand between tokens. -/
def isBlank (c : Char) : Bool := c = ' ' || c = '\t' || c = '\n' || c = '\r'

/-- The marks that are tokens by themselves. -/
def mark? : Char → Option Token
  | '[' => some .openList
  | ']' => some .closeList
  | '\x7b' => some .openRecord
  | '\x7d' => some .closeRecord
  | ',' => some .comma
  | ':' => some .colon
  | _ => none

def isAsciiDigit (c : Char) : Bool := '0' ≤ c && c ≤ '9'

/-- The number that a run of plain digits denotes. -/
def digitsValue (digits : Text) : Nat :=
  Integer.ofDigits (digits.map fun c => c.toNat - '0'.toNat)

/-- An exponent: an `e`, an optional sign, and digits. No text at all is the exponent zero. -/
def exponent? : Text → Option Int
  | [] => some 0
  | e :: rest =>
    if e = 'e' || e = 'E' then
      let (negative, digits) : Bool × Text := match rest with
        | '-' :: digits => (true, digits)
        | '+' :: digits => (false, digits)
        | digits => (false, digits)
      if digits.isEmpty || !digits.all isAsciiDigit then none
      else some (if negative then -(digitsValue digits : Int) else digitsValue digits)
    else none

/-- A number without its sign. Without point and exponent it is an integer, of a bounded number
of digits. A leading zero stands alone. -/
def unsigned? (negative : Bool) (text : Text) : Option Value :=
  let whole := text.takeWhile isAsciiDigit
  let rest := text.dropWhile isAsciiDigit
  if whole.isEmpty || (whole.head? = some '0' && whole.length ≠ 1) then none
  else match rest with
    | [] =>
      if whole.length ≤ Integer.digitLimit then
        some (.int (if negative then -(digitsValue whole : Int) else digitsValue whole))
      else none
    | '.' :: rest =>
      let fraction := rest.takeWhile isAsciiDigit
      if fraction.isEmpty then none
      else (exponent? (rest.dropWhile isAsciiDigit)).map fun exponent =>
        .real (.ofDecimal negative (digitsValue (whole ++ fraction)) (exponent - fraction.length))
    | rest => (exponent? rest).map fun exponent =>
        .real (.ofDecimal negative (digitsValue whole) exponent)

def number? : Text → Option Value
  | '-' :: rest => unsigned? true rest
  | text => unsigned? false text

/-- The words that are no numbers. -/
def literals : List (Text × Value) :=
  [("null".toList, .null), ("true".toList, .bool true), ("false".toList, .bool false),
   ("NaN".toList, .real .nan), ("Infinity".toList, .real (.infinite false)),
   ("-Infinity".toList, .real (.infinite true))]

/-- Whether an exponent of at least one digit starts a text. -/
def startsExponent : Text → Bool
  | e :: rest =>
    (e = 'e' || e = 'E') &&
      match rest with
      | '-' :: digits | '+' :: digits => digits.head?.any isAsciiDigit
      | digits => digits.head?.any isAsciiDigit
  | [] => false

/-- Whether a fraction of at least one digit starts a text. -/
def startsFraction : Text → Bool
  | '.' :: rest => rest.head?.any isAsciiDigit
  | _ => false

/-- Whether a word starts with an integer of too many digits, whatever else is wrong with it. -/
def startsHuge (word : Text) : Bool :=
  let digits := match word with
    | '-' :: rest => rest
    | _ => word
  let rest := digits.dropWhile isAsciiDigit
  digits.head? != some '0' && Integer.digitLimit < (digits.takeWhile isAsciiDigit).length &&
    !startsFraction rest && !startsExponent rest

def Token.ofWord (word : Text) : Token :=
  match (literals.lookup word).or (number? word) with
  | some value => .atom value
  -- An integer counts as read up to where the word goes wrong.
  | none => if startsHuge word then .hugeInteger else .malformed

def Token.ofInside (inside : Text) : Token :=
  match unescape? inside with
  | some t => .text t
  | none => .malformed

/-- Where a lexer stands: between tokens, in a word, in a string, or behind a backslash in a
string. What is read of the word or string comes last character first. -/
inductive Mode where
  | between
  | word (read : Text)
  | inside (read : Text)
  | escaped (read : Text)

/-- A lexer in the middle of a text, with the tokens found so far, the last one first. -/
structure Lexer where
  tokens : List Token
  mode : Mode

/-- Reads a character that belongs to no token that is under way. -/
def Lexer.begin (tokens : List Token) (c : Char) : Lexer :=
  if isBlank c then ⟨tokens, .between⟩
  else if c = '"' then ⟨tokens, .inside []⟩
  else match mark? c with
    | some token => ⟨token :: tokens, .between⟩
    | none => ⟨tokens, .word [c]⟩

/-- Whether a character ends a word. -/
def endsWord (c : Char) : Bool := isBlank c || c = '"' || (mark? c).isSome

def Lexer.push (lexer : Lexer) (c : Char) : Lexer :=
  match lexer.mode with
  | .between => .begin lexer.tokens c
  | .word read =>
    if endsWord c then .begin (.ofWord read.reverse :: lexer.tokens) c
    else ⟨lexer.tokens, .word (c :: read)⟩
  | .inside read =>
    if c = '"' then ⟨.ofInside read.reverse :: lexer.tokens, .between⟩
    else if c = '\\' then ⟨lexer.tokens, .escaped (c :: read)⟩
    else ⟨lexer.tokens, .inside (c :: read)⟩
  | .escaped read => ⟨lexer.tokens, .inside (c :: read)⟩

/-- All tokens found, the last one first, when no character follows. A string without its closing
quote is no token. -/
def Lexer.finish (lexer : Lexer) : List Token :=
  match lexer.mode with
  | .between => lexer.tokens
  | .word read => .ofWord read.reverse :: lexer.tokens
  | .inside _ | .escaped _ => .malformed :: lexer.tokens

def tokens (text : Text) : List Token :=
  (text.foldl Lexer.push ⟨[], .between⟩).finish.reverse

end Quarry.Json
