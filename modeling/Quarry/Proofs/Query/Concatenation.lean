import Mathlib
import Quarry.Proofs.Query.Parts
import Quarry.Query.Projection

/-! A search string that is cut at a blank outside of quotations is asked for part by part. -/
namespace Quarry.Query

section

variable (lexeme : Lexeme) (rest : Text)

theorem count_quote_run (run : Text) (h : ∀ c ∈ run, isWordChar c = true) :
    run.count '"' = 0 := by
  rw [List.count_eq_zero]
  intro hquote
  exact absurd (h '"' hquote) (by decide)

/-- Every lexeme has its quotes in pairs, but for a quotation without its second one. -/
theorem even_count_source (hform : lexeme.WellFormed)
    (hclosed : ∀ inside, lexeme ≠ .quotation inside false) : Even (lexeme.source.count '"') := by
  cases lexeme with
  | blank c =>
    have hc : c ≠ '"' := by
      rintro rfl
      have hblank : Text.isBlankChar '"' = true := hform
      exact absurd hblank (by decide)
    simp [Lexeme.source, hc]
  | quotation inside closed =>
    cases closed with
    | true =>
      have hinside : inside.count '"' = 0 := List.count_eq_zero.2 hform
      have hcount : (Lexeme.quotation inside true).source.count '"' = 2 := by
        simp [Lexeme.source, hinside]
      rw [hcount]
      exact even_two
    | false => exact absurd rfl (hclosed inside)
  | openGroup => decide
  | closeGroup => decide
  | dashed run =>
    have hcount : (Lexeme.dashed run).source.count '"' = 0 := by
      simp [Lexeme.source, count_quote_run run hform]
    rw [hcount]
    exact Even.zero
  | word run =>
    have hcount : (Lexeme.word run).source.count '"' = 0 := count_quote_run run hform.2.1
    rw [hcount]
    exact Even.zero

theorem endsAt_append (more : Text) (hend : lexeme.EndsAt rest)
    (hclosed : ∀ inside, lexeme ≠ .quotation inside false)
    (hmore : ∀ c ∈ more.head?, isWordChar c = false) : lexeme.EndsAt (rest ++ more) := by
  have hhead (h : ∀ c ∈ rest.head?, isWordChar c = false) :
      ∀ c ∈ (rest ++ more).head?, isWordChar c = false := by
    cases rest with
    | nil => exact hmore
    | cons c rest => exact h
  cases lexeme with
  | quotation inside closed =>
    cases closed with
    | true => exact .inl rfl
    | false => exact absurd rfl (hclosed inside)
  | dashed run => exact hhead hend
  | word run => exact hhead hend
  | blank c => trivial
  | openGroup => trivial
  | closeGroup => trivial

end

/-- Behind an even number of quotes no quotation is open, so what follows is split on its own,
unless it goes on with a word. -/
theorem splits_append (before after : Text) (parts others : List Lexeme)
    (h : Splits before parts) (heven : Even (before.count '"')) (hafter : Splits after others)
    (hhead : ∀ c ∈ after.head?, isWordChar c = false) :
    Splits (before ++ after) (parts ++ others) := by
  induction h with
  | done => exact hafter
  | step lexeme rest parts hform hend h ih =>
    -- An open quotation would have the only quote, and the rest would be empty.
    have hclosed : ∀ inside, lexeme ≠ .quotation inside false := by
      rintro inside rfl
      obtain rfl : rest = [] := hend.resolve_left (by simp)
      have hinside : inside.count '"' = 0 := List.count_eq_zero.2 hform
      have hcount : ((Lexeme.quotation inside false).source ++ []).count '"' = 1 := by
        simp [Lexeme.source, hinside]
      rw [hcount] at heven
      exact absurd heven (by decide)
    have hrest : Even (rest.count '"') := by
      rw [List.count_append, Nat.even_add] at heven
      exact heven.1 (even_count_source lexeme hform hclosed)
    rw [List.append_assoc]
    exact .step lexeme (rest ++ after) _ hform (endsAt_append lexeme rest after hend hclosed hhead)
      (ih hrest)

theorem tokenize_append_of_head (before after : Text) (heven : Even (before.count '"'))
    (hhead : ∀ c ∈ after.head?, isWordChar c = false) :
    tokenize (before ++ after) = tokenize before ++ tokenize after := by
  have hsplits := splits_append before after _ _ (splits_lexemes before) heven
    (splits_lexemes after) hhead
  rw [tokenize, lexemes_of_splits _ _ hsplits, List.filterMap_append]
  rfl

theorem tokenize_append (before blanks after : Text) (heven : Even (before.count '"'))
    (hblank : Text.isBlank blanks = true) (hne : blanks ≠ []) :
    tokenize (before ++ blanks ++ after) = tokenize before ++ tokenize after := by
  -- A blank ends whatever word the first part ends with.
  have hhead : ∀ c ∈ (blanks ++ after).head?, isWordChar c = false := by
    intro c hc
    rw [List.head?_append_of_ne_nil _ hne] at hc
    have hmem : c ∈ blanks := List.mem_of_mem_head? hc
    apply isWordChar_of_isBlankChar
    exact List.all_eq_true.1 hblank c hmem
  rw [List.append_assoc, tokenize_append_of_head before _ heven hhead,
    tokenize_blanks blanks after hblank]

theorem passes_append (first second : List Filter) (metadata : Option Json.Fields) :
    passes (first ++ second) metadata = (passes first metadata && passes second metadata) := by
  cases metadata with
  | none =>
    cases first with
    | nil => rfl
    | cons filter first => rfl
  | some fields => exact List.all_append

theorem excludes_append (first second : List Text) (text : Text) :
    excludes (first ++ second) text = (excludes first text || excludes second text) :=
  List.any_append

/-- Behind an even number of quotes a blank cuts a query in two: its tokens and parts are those of
the one followed by those of the other, and so are the tests on results. -/
theorem parse_append (before blanks after : Text) (heven : Even (before.count '"'))
    (hblank : Text.isBlank blanks = true) (hne : blanks ≠ []) :
    let first := parse (some before)
    let second := parse (some after)
    let whole := parse (some (before ++ blanks ++ after))
    tokenize (before ++ blanks ++ after) = tokenize before ++ tokenize after ∧
      whole.semanticTerms = first.semanticTerms ++ second.semanticTerms ∧
      whole.phrases = first.phrases ++ second.phrases ∧
      whole.filters = first.filters ++ second.filters ∧
      whole.excludeTerms = first.excludeTerms ++ second.excludeTerms ∧
      (whole.combination = .either ↔
        first.combination = .either ∨ second.combination = .either) ∧
      (∀ metadata, passes whole.filters metadata =
        (passes first.filters metadata && passes second.filters metadata)) ∧
      ∀ text, excludes whole.excludeTerms text =
        (excludes first.excludeTerms text || excludes second.excludeTerms text) := by
  intro first second whole
  have htokens := tokenize_append before blanks after heven hblank hne
  have hfirst : first = .ofTokens before (tokenize before) := parse_eq_ofTokens _
  have hsecond : second = .ofTokens after (tokenize after) := parse_eq_ofTokens _
  have hwhole : whole = .ofTokens (before ++ blanks ++ after)
      (tokenize before ++ tokenize after) := htokens ▸ parse_eq_ofTokens _
  -- Each part is picked from the tokens one by one.
  rw [hwhole, hfirst, hsecond]
  refine ⟨htokens, List.filterMap_append, List.filterMap_append, List.filterMap_append,
    List.filterMap_append, ?_, ?_, ?_⟩
  · simp only [combination_eq_either_iff, List.mem_append]
  · intro metadata
    rw [← passes_append]
    exact congrArg (passes · metadata) List.filterMap_append
  · intro text
    rw [← excludes_append]
    exact congrArg (excludes · text) List.filterMap_append

/-- The first part ends with a dash behind a phrase, the second one in an open phrase. -/
theorem parse_append_dash :
    let before : Text := "(ab -\"x y\" -".toList
    let blanks : Text := ['\u3000', '\t']
    let after : Text := "b:c or -d \"e".toList
    let whole := parse (some (before ++ blanks ++ after))
    Even (before.count '"') ∧ Text.isBlank blanks = true ∧ blanks ≠ [] ∧
      whole.semanticTerms = ["ab".toList, "x y".toList, "e".toList] ∧
      whole.combination = .either := by
  have hfirst : (parse (some "(ab -\"x y\" -".toList)).semanticTerms =
      ["ab".toList, "x y".toList] := by cbv
  have hsecond : (parse (some "b:c or -d \"e".toList)).semanticTerms = ["e".toList] := by cbv
  have heither : (parse (some "b:c or -d \"e".toList)).combination = .either := by cbv
  intro before blanks after whole
  have heven : Even (before.count '"') := by decide
  have hblank : Text.isBlank blanks = true := by decide
  have hne : blanks ≠ [] := by decide
  obtain ⟨-, hterms, -, -, -, hcombination, -, -⟩ :=
    parse_append before blanks after heven hblank hne
  refine ⟨heven, hblank, hne, ?_, hcombination.2 (.inr heither)⟩
  rw [hterms, hfirst, hsecond]
  rfl

end Quarry.Query
