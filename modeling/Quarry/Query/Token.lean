import Quarry.Query.Lexeme
import Quarry.Text.Case

/-! The tokens of a search string: phrases, filters, exclusions, operators, parentheses, terms. -/
namespace Quarry.Query

inductive Token where
  | phrase (text : Text)
  | filter (field value : Text)
  | exclude (term : Text)
  | both
  | either
  | openGroup
  | closeGroup
  | term (text : Text)
  deriving DecidableEq, Repr

/-- The word of the operator that asks for both terms, which is also the default. -/
def bothWord : Text := ['A', 'N', 'D']

/-- The word of the operator that asks for either term. -/
def eitherWord : Text := ['O', 'R']

/-- A word is an operator in any case of its letters; else a filter, if its first colon has text on
both sides; else a term. -/
def Token.ofWord (word : Text) : Token :=
  if Text.upper word = bothWord then .both
  else if Text.upper word = eitherWord then .either
  else
    let field := word.takeWhile (· != ':')
    let value := (word.dropWhile (· != ':')).drop 1
    if field.isEmpty || value.isEmpty then .term word else .filter field value

/-- The token of a lexeme. Blanks, empty phrases and bare dashes have none. -/
def Token.ofLexeme? : Lexeme → Option Token
  | .blank _ => none
  | .quotation inside _ => if inside.isEmpty then none else some (.phrase inside)
  | .openGroup => some .openGroup
  | .closeGroup => some .closeGroup
  | .dashed run => if run.isEmpty then none else some (.exclude run)
  | .word run => some (.ofWord run)

/-- The tokens of a search string. -/
def tokenize (query : Text) : List Token := (lexemes query).filterMap Token.ofLexeme?

/-- How a token is written in a search string. -/
def Token.render : Token → Text
  | .phrase text => '"' :: text ++ ['"']
  | .filter field value => field ++ ':' :: value
  | .exclude run => '-' :: run
  | .both => bothWord
  | .either => eitherWord
  | .openGroup => ['(']
  | .closeGroup => [')']
  | .term text => text

/-- Writes tokens with single spaces between them. -/
def render (tokens : List Token) : Text := Text.joined [' '] (tokens.map Token.render)

end Quarry.Query
