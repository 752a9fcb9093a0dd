import Quarry.Proofs.Query.Concatenation

/-! What stands between the words and quotations of a search string has no meaning: neither how
many blanks there are, and which ones, nor the parentheses among them. -/
namespace Quarry.Query

/-- A character that may stand between words: a blank or a parenthesis. -/
def isGapChar (c : Char) : Bool := Text.isBlankChar c || c == '(' || c == ')'

/-- Blanks and parentheses, at least one of them. -/
def IsGap (text : Text) : Prop := text ≠ [] ∧ ∀ c ∈ text, isGapChar c = true

-- Over the characters of the text, and not over all that there are.
instance (text : Text) : Decidable (IsGap text) :=
  decidable_of_iff (text ≠ [] ∧ text.all isGapChar = true) (and_congr_right' List.all_eq_true)

/-- Two search strings that differ in their gaps alone: where one has a gap the other may have any
other one, so that a space can stand for a parenthesis and any blanks for a run of blanks. The flag
says whether a quotation is open at the start, for inside of quotations nothing differs. -/
inductive Regrouped : Bool → Text → Text → Prop
  | done (quoted : Bool) : Regrouped quoted [] []
  | quote (quoted : Bool) (rest other : Text) (h : Regrouped (!quoted) rest other) :
      Regrouped quoted ('"' :: rest) ('"' :: other)
  | same (quoted : Bool) (c : Char) (rest other : Text) (hc : c ≠ '"')
      (h : Regrouped quoted rest other) : Regrouped quoted (c :: rest) (c :: other)
  | gap (gap filling rest other : Text) (hgap : IsGap gap) (hfilling : IsGap filling)
      (h : Regrouped false rest other) : Regrouped false (gap ++ rest) (filling ++ other)

def Token.isGroup : Token → Bool
  | .openGroup | .closeGroup => true
  | _ => false

/-- The tokens of a search string without its parentheses. -/
def ungrouped (text : Text) : List Token := (tokenize text).filter fun token => !token.isGroup

/-- Parentheses are in no part of a query. -/
theorem ofTokens_ungrouped (source : Text) (tokens : List Token) :
    Parsed.ofTokens source (tokens.filter fun token => !token.isGroup) =
      Parsed.ofTokens source tokens := by
  have hpick {α : Type} (pick : Token → Option α) (hopen : pick .openGroup = none)
      (hclose : pick .closeGroup = none) :
      (tokens.filter fun token => !token.isGroup).filterMap pick = tokens.filterMap pick := by
    rw [List.filterMap_filter]
    congr 1
    funext token
    cases token <;> simp [Token.isGroup, hopen, hclose]
  have heither : (tokens.filter fun token => !token.isGroup).contains .either =
      tokens.contains .either := by
    rw [Bool.eq_iff_iff]
    simp [Token.isGroup]
  simp only [Parsed.ofTokens, hpick Token.semantic? rfl rfl, hpick Token.phrase? rfl rfl,
    hpick Token.filter? rfl rfl, hpick Token.exclude? rfl rfl, heither]

section

variable (gap rest : Text)

theorem tokenize_openGroup : tokenize ('(' :: rest) = .openGroup :: tokenize rest := by
  have hlexemes := lexemes_source rest .openGroup trivial trivial
  exact congrArg (List.filterMap Token.ofLexeme?) hlexemes

theorem tokenize_closeGroup : tokenize (')' :: rest) = .closeGroup :: tokenize rest := by
  have hlexemes := lexemes_source rest .closeGroup trivial trivial
  exact congrArg (List.filterMap Token.ofLexeme?) hlexemes

theorem ungrouped_cons (c : Char) (h : isGapChar c = true) :
    ungrouped (c :: rest) = ungrouped rest := by
  simp only [isGapChar, Bool.or_eq_true, beq_iff_eq] at h
  rcases h with (hblank | rfl) | rfl
  · rw [ungrouped, tokenize_blank c rest hblank, ungrouped]
  · rw [ungrouped, tokenize_openGroup]
    rfl
  · rw [ungrouped, tokenize_closeGroup]
    rfl

theorem ungrouped_gap (h : ∀ c ∈ gap, isGapChar c = true) :
    ungrouped (gap ++ rest) = ungrouped rest := by
  induction gap with
  | nil => rfl
  | cons c gap ih =>
    rw [List.cons_append, ungrouped_cons _ c (h c (by simp)),
      ih fun d hd => h d (List.mem_cons_of_mem c hd)]

theorem isWordChar_of_isGapChar (c : Char) (h : isGapChar c = true) : isWordChar c = false := by
  simp only [isGapChar, Bool.or_eq_true, beq_iff_eq] at h
  rcases h with (hblank | rfl) | rfl
  · exact isWordChar_of_isBlankChar c hblank
  · decide
  · decide

/-- A gap outside of quotations cuts a search string in two. -/
theorem ungrouped_append_gap (before : Text) (heven : Even (before.count '"')) (h : IsGap gap) :
    ungrouped (before ++ (gap ++ rest)) = ungrouped before ++ ungrouped rest := by
  obtain ⟨hne, hgap⟩ := h
  have hhead : ∀ c ∈ (gap ++ rest).head?, isWordChar c = false := by
    intro c hc
    rw [List.head?_append_of_ne_nil _ hne] at hc
    exact isWordChar_of_isGapChar c (hgap c (List.mem_of_mem_head? hc))
  rw [ungrouped, tokenize_append_of_head before _ heven hhead, List.filter_append]
  exact congrArg (ungrouped before ++ ·) (ungrouped_gap gap rest hgap)

end

/-- Behind any beginning that leaves a quotation open, or none, as the flag says. -/
theorem ungrouped_of_regrouped (quoted : Bool) (rest other : Text) (h : Regrouped quoted rest other)
    (before : Text) (hbefore : Even (before.count '"') ↔ quoted = false) :
    ungrouped (before ++ rest) = ungrouped (before ++ other) := by
  induction h generalizing before with
  | done => rfl
  | quote quoted rest other h ih =>
    have hquote : Even ((before ++ ['"']).count '"') ↔ (!quoted) = false := by
      rw [List.count_append, List.count_singleton_self, Nat.even_add_one, hbefore]
      cases quoted <;> simp
    simpa using ih (before ++ ['"']) hquote
  | same quoted c rest other hc h ih =>
    have hsame : Even ((before ++ [c]).count '"') ↔ quoted = false := by
      simpa [List.count_append, hc] using hbefore
    simpa using ih (before ++ [c]) hsame
  | gap gap filling rest other hgap hfilling h ih =>
    have heven : Even (before.count '"') := hbefore.2 rfl
    -- Nothing is open behind a gap, so what follows starts afresh.
    have hrest : ungrouped rest = ungrouped other := ih [] (by simp)
    rw [ungrouped_append_gap gap rest before heven hgap,
      ungrouped_append_gap filling other before heven hfilling, hrest]

/-- Other blanks, and blanks for parentheses, leave a query and its projections as they are. -/
theorem parse_of_regrouped (query other : Text) (h : Regrouped false query other) :
    parse (some other) = { parse (some query) with source := other } ∧
      (parse (some other)).semanticQuery = (parse (some query)).semanticQuery ∧
      (parse (some other)).keywordQuery = (parse (some query)).keywordQuery := by
  have htokens : ungrouped query = ungrouped other :=
    ungrouped_of_regrouped false query other h [] (by simp)
  have hparse : parse (some other) = { parse (some query) with source := other } := by
    rw [parse_eq_ofTokens, parse_eq_ofTokens, Option.getD_some, Option.getD_some,
      ← ofTokens_ungrouped other, ← ofTokens_ungrouped query]
    rw [ungrouped, ungrouped] at htokens
    rw [htokens]
    rfl
  rw [hparse]
  exact ⟨rfl, rfl, rfl⟩

theorem regrouped_behind (quoted : Bool) (shared rest other : Text) (hshared : '"' ∉ shared)
    (h : Regrouped quoted rest other) : Regrouped quoted (shared ++ rest) (shared ++ other) := by
  induction shared with
  | nil => exact h
  | cons c shared ih =>
    rw [List.mem_cons, not_or] at hshared
    exact .same quoted c _ _ (Ne.symm hshared.1) (ih hshared.2)

/-- Spaces for the parentheses and other blanks between words, but none of it in the phrase. The
first parenthesis ends an exclusion, as the space does. -/
theorem parse_of_regrouped_phrase :
    let query : Text := ['-', 'a', '(', '"', 'b', ' ', '(', '"', ' ', ' ', 'o', 'r', ')', 'c']
    let other : Text := ['-', 'a', ' ', '"', 'b', ' ', '(', '"', '\u3000', 'o', 'r', ' ', 'c']
    Regrouped false query other ∧
      (parse (some other)).semanticTerms = [['b', ' ', '('], ['c']] ∧
      parse (some other) = { parse (some query) with source := other } := by
  intro query other
  have hbehind : Regrouped false [' ', ' ', 'o', 'r', ')', 'c'] ['\u3000', 'o', 'r', ' ', 'c'] := by
    apply Regrouped.gap [' ', ' '] ['\u3000'] _ _ (by decide) (by decide)
    apply regrouped_behind false ['o', 'r'] _ _ (by decide)
    apply Regrouped.gap [')'] [' '] _ _ (by decide) (by decide)
    exact regrouped_behind false ['c'] [] [] (by decide) (.done false)
  have hregrouped : Regrouped false query other := by
    apply regrouped_behind false ['-', 'a'] _ _ (by decide)
    apply Regrouped.gap ['('] [' '] _ _ (by decide) (by decide)
    apply Regrouped.quote
    apply regrouped_behind true ['b', ' ', '('] _ _ (by decide)
    exact .quote true _ _ hbehind
  exact ⟨hregrouped, by cbv, (parse_of_regrouped query other hregrouped).1⟩

end Quarry.Query
