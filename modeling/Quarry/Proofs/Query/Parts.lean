import Quarry.Proofs.Query.Tokens
import Quarry.Query.Parsed

/-! The parts of a query by its tokens. -/
namespace Quarry.Query

theorem tokenize_blanks (blanks rest : Text) (h : Text.isBlank blanks = true) :
    tokenize (blanks ++ rest) = tokenize rest := by
  induction blanks with
  | nil => rfl
  | cons c blanks ih =>
    rw [Text.isBlank, List.all_cons, Bool.and_eq_true] at h
    rw [List.cons_append, tokenize_blank c _ h.1, ih h.2]

theorem tokenize_of_isBlank (text : Text) (h : Text.isBlank text = true) : tokenize text = [] := by
  have htext := tokenize_blanks text [] h
  rwa [List.append_nil, tokenize_nil] at htext

/-- A blank string needs no look at its tokens, since it has none. -/
theorem parse_eq_ofTokens (query : Option Text) :
    parse query = .ofTokens (query.getD []) (tokenize (query.getD [])) := by
  by_cases hblank : Text.isBlank (query.getD []) = true
  · rw [tokenize_of_isBlank _ hblank]
    exact if_pos hblank
  · exact if_neg hblank

theorem combination_eq_either_iff (source : Text) (tokens : List Token) :
    (Parsed.ofTokens source tokens).combination = .either ↔ Token.either ∈ tokens := by
  have hcombination : (Parsed.ofTokens source tokens).combination =
      if tokens.contains .either then .either else .both := rfl
  rw [hcombination]
  simp

end Quarry.Query
