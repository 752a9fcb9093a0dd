import Quarry.Proofs.Query.Parts
import Quarry.Proofs.Text.Occurrence
import Quarry.Query.Projection

/-! The keyword query of a query is a query itself: it asks for the same phrases and for the terms
that no phrase covers, and its own keyword query is the same text again. -/
namespace Quarry.Query

/-- The terms that occur in no phrase. -/
def Parsed.uncovered (parsed : Parsed) : List Text :=
  parsed.semanticTerms.filter fun term => ∀ phrase ∈ parsed.phrases, ¬ term <:+: phrase

/-- The tokens of a keyword query. -/
def keywords (phrases terms : List Text) : List Token :=
  phrases.map .phrase ++ terms.map .term

theorem ofTokens_keywords (source : Text) (phrases terms : List Text) :
    Parsed.ofTokens source (keywords phrases terms) =
      ⟨phrases ++ terms, phrases, [], [], .both, source⟩ := by
  simp [keywords, Parsed.ofTokens, List.filterMap_append, List.filterMap_map, Function.comp_def,
    Token.semantic?, Token.phrase?, Token.filter?, Token.exclude?]

section

variable (parsed : Parsed)

theorem keywordQuery_eq_render :
    parsed.keywordQuery = render (keywords parsed.phrases parsed.uncovered) := by
  have hcovers (term : Text) : (!parsed.phrases.any (Text.occursIn term)) =
      decide (∀ phrase ∈ parsed.phrases, ¬ term <:+: phrase) := by
    rw [Bool.eq_iff_iff]
    simp [← Text.occursIn_iff]
  have hquoted : (keywords parsed.phrases parsed.uncovered).map Token.render =
      parsed.phrases.map (fun phrase => '"' :: phrase ++ ['"']) ++ parsed.uncovered := by
    simp [keywords, Function.comp_def, Token.render]
  rw [render, hquoted, Parsed.keywordQuery, Parsed.uncovered]
  simp only [hcovers]

/-- Every phrase is a term too, and covers itself. -/
theorem uncovered_keywords (source : Text) :
    Parsed.uncovered ⟨parsed.phrases ++ parsed.uncovered, parsed.phrases, [], [], .both, source⟩ =
      parsed.uncovered := by
  have hphrases : parsed.phrases.filter (fun term => ∀ phrase ∈ parsed.phrases,
      ¬ term <:+: phrase) = [] := by
    rw [List.filter_eq_nil_iff]
    intro term hterm
    have hself : ¬ ∀ phrase ∈ parsed.phrases, ¬ term <:+: phrase :=
      fun h => h term hterm List.infix_rfl
    simpa using hself
  have hterms : parsed.uncovered.filter (fun term => ∀ phrase ∈ parsed.phrases,
      ¬ term <:+: phrase) = parsed.uncovered := by
    rw [List.filter_eq_self]
    intro term hterm
    exact (List.mem_filter.1 hterm).2
  rw [Parsed.uncovered, List.filter_append, hphrases, hterms, List.nil_append]

theorem infix_keywordQuery (term : Text) (h : term ∈ parsed.semanticTerms) :
    term <:+: parsed.keywordQuery := by
  by_cases hcovered : ∃ phrase ∈ parsed.phrases, term <:+: phrase
  · obtain ⟨phrase, hphrase, hoccurs⟩ := hcovered
    have hmem : '"' :: phrase ++ ['"'] ∈
        (keywords parsed.phrases parsed.uncovered).map Token.render :=
      List.mem_map.2 ⟨.phrase phrase, by simp [keywords, hphrase], rfl⟩
    have hquoted : phrase <:+: '"' :: phrase ++ ['"'] := ⟨['"'], ['"'], by simp⟩
    rw [keywordQuery_eq_render, render]
    exact (hoccurs.trans hquoted).trans (Text.infix_joined [' '] _ _ hmem)
  · have hnone : ∀ phrase ∈ parsed.phrases, ¬ term <:+: phrase :=
      fun phrase hphrase hoccurs => hcovered ⟨phrase, hphrase, hoccurs⟩
    have hterm : term ∈ parsed.uncovered := List.mem_filter.2 ⟨h, by simpa using hnone⟩
    have hmem : term ∈ (keywords parsed.phrases parsed.uncovered).map Token.render :=
      List.mem_map.2 ⟨.term term, by simp [keywords, hterm], rfl⟩
    rw [keywordQuery_eq_render, render]
    exact Text.infix_joined [' '] term _ hmem

end

theorem mem_phrases_iff (tokens : List Token) (text : Text) :
    text ∈ tokens.filterMap Token.phrase? ↔ Token.phrase text ∈ tokens := by
  rw [List.mem_filterMap]
  constructor
  · rintro ⟨token, htoken, hsome⟩
    cases token <;> simp [Token.phrase?] at hsome
    exact hsome ▸ htoken
  · intro h
    exact ⟨.phrase text, h, rfl⟩

theorem mem_semanticTerms_iff (tokens : List Token) (text : Text) :
    text ∈ tokens.filterMap Token.semantic? ↔
      Token.phrase text ∈ tokens ∨ Token.term text ∈ tokens := by
  rw [List.mem_filterMap]
  constructor
  · rintro ⟨token, htoken, hsome⟩
    cases token <;> simp [Token.semantic?] at hsome
    · exact .inl (hsome ▸ htoken)
    · exact .inr (hsome ▸ htoken)
  · rintro (h | h)
    · exact ⟨.phrase text, h, rfl⟩
    · exact ⟨.term text, h, rfl⟩

section

variable (query : Option Text)

/-- A term that no phrase covers was no phrase, so it can stand without quotes. -/
theorem wellFormed_keywords :
    ∀ token ∈ keywords (parse query).phrases (parse query).uncovered, token.WellFormed := by
  have hform := wellFormed_of_mem_tokenize (query.getD [])
  have hparse := parse_eq_ofTokens query
  have hphrases : (parse query).phrases =
      (tokenize (query.getD [])).filterMap Token.phrase? := by rw [hparse]; rfl
  have hterms : (parse query).semanticTerms =
      (tokenize (query.getD [])).filterMap Token.semantic? := by rw [hparse]; rfl
  intro token htoken
  rw [keywords, List.mem_append, List.mem_map, List.mem_map] at htoken
  rcases htoken with ⟨phrase, hphrase, rfl⟩ | ⟨term, hterm, rfl⟩
  · rw [hphrases, mem_phrases_iff] at hphrase
    exact hform _ hphrase
  · obtain ⟨hmem, huncovered⟩ := List.mem_filter.1 hterm
    rw [hterms, mem_semanticTerms_iff] at hmem
    rcases hmem with hphrase | hterm
    · rw [← mem_phrases_iff, ← hphrases] at hphrase
      have hnone : ∀ phrase ∈ (parse query).phrases, ¬ term <:+: phrase := by
        simpa using huncovered
      exact absurd List.infix_rfl (hnone term hphrase)
    · exact hform _ hterm

theorem parse_keywordQuery : parse (some (parse query).keywordQuery) =
    ⟨(parse query).phrases ++ (parse query).uncovered, (parse query).phrases, [], [], .both,
      (parse query).keywordQuery⟩ := by
  have htokens : tokenize (parse query).keywordQuery =
      keywords (parse query).phrases (parse query).uncovered := by
    rw [keywordQuery_eq_render]
    exact tokenize_render _ (wellFormed_keywords query)
  rw [parse_eq_ofTokens, Option.getD_some, htokens, ofTokens_keywords]

end

/-- The keyword query of a query asks for the same phrases, for them and the terms that they do not
cover as terms, and for nothing else. It holds every term, and it is its own keyword query. -/
theorem keywordQuery_faithful (query : Option Text) :
    let parsed := parse query
    let again := parse (some parsed.keywordQuery)
    again.phrases = parsed.phrases ∧ again.filters = [] ∧ again.excludeTerms = [] ∧
      again.combination = .both ∧
      again.semanticTerms = parsed.phrases ++ parsed.semanticTerms.filter
        (fun term => ∀ phrase ∈ parsed.phrases, ¬ term <:+: phrase) ∧
      (∀ term ∈ parsed.semanticTerms, term <:+: parsed.keywordQuery) ∧
      again.keywordQuery = parsed.keywordQuery := by
  intro parsed again
  have hagain : again = ⟨parsed.phrases ++ parsed.uncovered, parsed.phrases, [], [], .both,
      parsed.keywordQuery⟩ := parse_keywordQuery query
  have hsame : again.keywordQuery = parsed.keywordQuery := by
    rw [keywordQuery_eq_render, hagain, uncovered_keywords]
    exact (keywordQuery_eq_render parsed).symm
  refine ⟨?_, ?_, ?_, ?_, ?_, infix_keywordQuery parsed, hsame⟩
  all_goals rw [hagain]
  rfl

end Quarry.Query
