import Quarry.Proofs.Query.Parts
import Quarry.Proofs.Text.Lowered
import Quarry.Proofs.Text.Occurrence
import Quarry.Query.Projection

/-! What a query excludes is not in the text that it has embedded. -/
namespace Quarry.Query

section

variable (runs : List Text)

theorem excludes_iff (text : Text) :
    excludes runs text = true ↔ ∃ run ∈ runs, Text.lower run <:+: Text.lower text := by
  simp only [excludes, List.any_eq_true, Text.occursIn_iff]

/-- A run without spaces is found in joined terms only where it is found in one of them. -/
theorem excludes_joined_iff (terms : List Text) (hruns : ∀ run ∈ runs, run ≠ [] ∧ ' ' ∉ run) :
    excludes runs (Text.joined [' '] terms) = true ↔
      ∃ term ∈ terms, excludes runs term = true := by
  simp only [excludes_iff, Text.lower_joined]
  constructor
  · rintro ⟨run, hrun, hoccurs⟩
    obtain ⟨hne, hspace⟩ := hruns run hrun
    have hlower : Text.lower run ≠ [] := Text.lowerFrom_ne_nil false run hne
    obtain ⟨piece, hpiece, hwithin⟩ := Text.exists_infix_of_joined _ ' ' _ hlower
      (Text.space_notMem_lower run hspace) hoccurs
    obtain ⟨term, hterm, rfl⟩ := List.mem_map.1 hpiece
    exact ⟨term, hterm, run, hrun, hwithin⟩
  · rintro ⟨term, hterm, run, hrun, hoccurs⟩
    exact ⟨run, hrun, hoccurs.trans (Text.infix_joined [' '] _ _ (List.mem_map_of_mem hterm))⟩

end

theorem embedded_eq_filter (parsed : Parsed) : parsed.embedded =
    parsed.semanticTerms.filter fun term => excludes parsed.excludeTerms term = false := by
  have hkept (term : Text) : (!(parsed.excludeTerms.map Text.lower).any fun run =>
      Text.occursIn run (Text.lower term)) =
        decide (excludes parsed.excludeTerms term = false) := by
    rw [List.any_map, Bool.decide_eq_false]
    rfl
  simp only [Parsed.embedded, hkept]

theorem isWord_of_mem_excludeTerms (query : Option Text) (run : Text)
    (h : run ∈ (parse query).excludeTerms) : IsWord run := by
  have hexclude : (parse query).excludeTerms =
      (tokenize (query.getD [])).filterMap Token.exclude? := by
    rw [parse_eq_ofTokens]
    rfl
  rw [hexclude, List.mem_filterMap] at h
  obtain ⟨token, htoken, hsome⟩ := h
  have hform := wellFormed_of_mem_tokenize _ token htoken
  cases token <;> simp [Token.exclude?] at hsome
  exact hsome ▸ hform

/-- The text to embed is made of the terms that the query does not exclude, and holds nothing that
the query excludes, not even across two terms. -/
theorem semanticQuery_not_excluded (query : Option Text) :
    let parsed := parse query
    excludes parsed.excludeTerms parsed.semanticQuery = false ∧
      parsed.semanticQuery = Text.joined [' '] (parsed.semanticTerms.filter
        fun term => excludes parsed.excludeTerms term = false) := by
  intro parsed
  have hruns : ∀ run ∈ parsed.excludeTerms, run ≠ [] ∧ ' ' ∉ run := by
    intro run hrun
    obtain ⟨hne, hword⟩ := isWord_of_mem_excludeTerms query run hrun
    refine ⟨hne, fun hspace => ?_⟩
    exact absurd (hword ' ' hspace) (by decide)
  have hkept := embedded_eq_filter parsed
  refine ⟨?_, by rw [Parsed.semanticQuery, hkept]⟩
  by_contra hexcluded
  rw [Bool.not_eq_false, Parsed.semanticQuery, excludes_joined_iff _ _ hruns] at hexcluded
  obtain ⟨term, hterm, hfound⟩ := hexcluded
  rw [hkept, List.mem_filter, hfound] at hterm
  simp at hterm

end Quarry.Query
