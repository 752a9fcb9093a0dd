import Quarry.Query.Parsed
import Quarry.Json.Literal

/-! What a query asks of each kind of search: a text to embed, a text for keyword ranking, and
tests on the results. Tests ignore case and look for a text anywhere inside another. -/
namespace Quarry.Query

/-- Whether a text contains one of the terms. -/
def excludes (terms : List Text) (text : Text) : Bool :=
  terms.any fun term => Text.occursIn (Text.lower term) (Text.lower text)

/-- The terms to embed: those that contain no excluded term. The excluded terms are lowered once
for all of them. -/
def Parsed.embedded (parsed : Parsed) : List Text :=
  let excluded := parsed.excludeTerms.map Text.lower
  parsed.semanticTerms.filter fun term =>
    !excluded.any fun run => Text.occursIn run (Text.lower term)

/-- The text to embed, with a space between its terms. -/
def Parsed.semanticQuery (parsed : Parsed) : Text := Text.joined [' '] parsed.embedded

/-- The phrases in quotes, and then the terms that occur in no phrase. -/
def Parsed.keywordQuery (parsed : Parsed) : Text :=
  Text.joined [' ']
    (parsed.phrases.map (fun phrase => '"' :: phrase ++ ['"']) ++
      parsed.semanticTerms.filter fun term => !parsed.phrases.any (Text.occursIn term))

/-- Whether the metadata hold a filter's field and its value contains the filter's value. A field
without a value counts as missing. -/
def Filter.accepts (filter : Filter) (metadata : Json.Fields) : Bool :=
  match metadata.lookup filter.field with
  | none | some .null => false
  | some value => Text.occursIn (Text.lower filter.value) (Text.lower value.shown)

/-- Whether a result with these metadata passes every filter. -/
def passes (filters : List Filter) (metadata : Option Json.Fields) : Bool :=
  match metadata with
  | none => filters.isEmpty
  | some fields => filters.all fun filter => filter.accepts fields

end Quarry.Query
