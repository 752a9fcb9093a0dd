import Quarry.Query.Token
import Quarry.Json.Value

/-! A search string by its parts. -/
namespace Quarry.Query

/-- How the terms of a query combine. -/
inductive Combination where
  | both
  | either
  deriving DecidableEq, Repr

/-- A field of the metadata that must contain a value. -/
structure Filter where
  field : Text
  value : Text
  deriving DecidableEq, Repr

def Filter.text (filter : Filter) : Text := filter.field ++ ':' :: filter.value

/-- The parts of a query. Every phrase is a semantic term too. -/
structure Parsed where
  semanticTerms : List Text
  phrases : List Text
  filters : List Filter
  excludeTerms : List Text
  combination : Combination
  source : Text
  deriving DecidableEq, Repr

def Token.semantic? : Token → Option Text
  | .phrase text | .term text => some text
  | _ => none

def Token.phrase? : Token → Option Text
  | .phrase text => some text
  | _ => none

def Token.filter? : Token → Option Filter
  | .filter field value => some ⟨field, value⟩
  | _ => none

def Token.exclude? : Token → Option Text
  | .exclude run => some run
  | _ => none

/-- Sorts tokens into parts. A single `OR` lets either term do; parentheses have no effect. -/
def Parsed.ofTokens (source : Text) (tokens : List Token) : Parsed where
  semanticTerms := tokens.filterMap Token.semantic?
  phrases := tokens.filterMap Token.phrase?
  filters := tokens.filterMap Token.filter?
  excludeTerms := tokens.filterMap Token.exclude?
  combination := if tokens.contains .either then .either else .both
  source := source

/-- The parts of a query with nothing in it. -/
def Parsed.empty (source : Text) : Parsed where
  semanticTerms := []
  phrases := []
  filters := []
  excludeTerms := []
  combination := .both
  source := source

/-- The parts of a search string. No string at all counts as an empty one, and a blank string is
not even looked at. -/
def parse (query : Option Text) : Parsed :=
  let source := query.getD []
  if Text.isBlank source then .empty source else .ofTokens source (tokenize source)

/-- Whether a query asks for nothing. -/
def Parsed.isEmpty (parsed : Parsed) : Bool :=
  parsed.semanticTerms.isEmpty && parsed.phrases.isEmpty && parsed.filters.isEmpty &&
    parsed.excludeTerms.isEmpty

/-- The word that names a combination. -/
def Combination.word : Combination → Text
  | .both => bothWord
  | .either => eitherWord

open Json (Value)

def Filter.toJson (filter : Filter) : Value :=
  .record [("field".toList, .text filter.field), ("value".toList, .text filter.value)]

def jsonTexts (texts : List Text) : Value := .list (texts.map .text)

/-- The parts of a query as the fields of a JSON record. -/
def Parsed.fields (parsed : Parsed) : Json.Fields :=
  [("semantic_terms".toList, jsonTexts parsed.semanticTerms),
   ("phrases".toList, jsonTexts parsed.phrases),
   ("filters".toList, .list (parsed.filters.map Filter.toJson)),
   ("exclude_terms".toList, jsonTexts parsed.excludeTerms),
   ("boolean_op".toList, .text parsed.combination.word),
   ("original_query".toList, .text parsed.source)]

end Quarry.Query
