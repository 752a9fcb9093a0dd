import Mathlib.Data.List.Basic
import Quarry.Proofs.Query.Lexemes
import Quarry.Proofs.Text.Pieces
import Quarry.Query.Token

/-! The tokens that a search string can have. They are those that keep their meaning when they are
written: tokens written with spaces between them are read back as they were. -/
namespace Quarry.Query

/-- Not empty, and without blanks, parentheses and quotes. -/
def IsWord (run : Text) : Prop := run ≠ [] ∧ ∀ c ∈ run, isWordChar c = true

/-- The first colon of a text has text on both sides. -/
def HasSides (text : Text) : Prop :=
  ∃ field value, text = field ++ ':' :: value ∧ ':' ∉ field ∧ field ≠ [] ∧ value ≠ []

/-- What the texts of a token are. Operators and parentheses have none but the word they are. -/
def Token.WellFormed : Token → Prop
  | .phrase text => text ≠ [] ∧ '"' ∉ text
  | .exclude run => IsWord run
  | .filter field value =>
    IsWord field ∧ IsWord value ∧ ':' ∉ field ∧ field.head? ≠ some '-'
  | .term text =>
    IsWord text ∧ text.head? ≠ some '-' ∧ Text.upper text ≠ bothWord ∧
      Text.upper text ≠ eitherWord ∧ ¬ HasSides text
  | .both | .either | .openGroup | .closeGroup => True

section

variable (text : Text)

/-- A colon stays a colon in upper case. -/
theorem colon_mem_upper (h : ':' ∈ text) : ':' ∈ Text.upper text := by
  have hcolon : Text.upperChar ':' = [':'] := by decide
  exact List.mem_flatMap.2 ⟨':', h, by simp [hcolon]⟩

theorem upper_ne_of_colon (word : Text) (h : ':' ∈ text) (hword : ':' ∉ word) :
    Text.upper text ≠ word := by
  rintro rfl
  exact hword (colon_mem_upper text h)

theorem ofWord_filter (field value : Text) (hcolon : ':' ∉ field) (hfield : field ≠ [])
    (hvalue : value ≠ []) : Token.ofWord (field ++ ':' :: value) = .filter field value := by
  -- No operator has a colon.
  have hboth := upper_ne_of_colon (field ++ ':' :: value) bothWord (by simp) (by decide)
  have heither := upper_ne_of_colon (field ++ ':' :: value) eitherWord (by simp) (by decide)
  have hrun := Text.bne_of_notMem ':' field hcolon
  have hstop : ∀ c ∈ (':' :: value).head?, (c != ':') = false := by simp
  have hempty : (field.isEmpty || value.isEmpty) = false := by simp [hfield, hvalue]
  simp only [Token.ofWord, hboth, heither, if_false, Text.takeWhile_run _ _ _ hrun hstop,
    Text.dropWhile_run _ _ _ hrun hstop, List.drop_one, List.tail_cons, hempty, Bool.false_eq_true]

theorem hasSides_iff : HasSides text ↔
    text.takeWhile (· != ':') ≠ [] ∧ (text.dropWhile (· != ':')).drop 1 ≠ [] := by
  have hstop (value : Text) : ∀ c ∈ (':' :: value).head?, (c != ':') = false := by simp
  constructor
  · rintro ⟨field, value, rfl, hcolon, hsides⟩
    have hrun := Text.bne_of_notMem ':' field hcolon
    rwa [Text.takeWhile_run _ _ _ hrun (hstop value), Text.dropWhile_run _ _ _ hrun (hstop value),
      List.drop_one, List.tail_cons]
  · intro hsides
    by_cases hmem : ':' ∈ text
    · obtain ⟨field, value, rfl, hcolon⟩ := List.eq_append_cons_of_mem hmem
      have hrun := Text.bne_of_notMem ':' field hcolon
      rw [Text.takeWhile_run _ _ _ hrun (hstop value), Text.dropWhile_run _ _ _ hrun (hstop value),
        List.drop_one, List.tail_cons] at hsides
      exact ⟨field, value, rfl, hcolon, hsides⟩
    · have hnil : text.dropWhile (· != ':') = [] :=
        List.dropWhile_eq_nil_iff.2 (Text.bne_of_notMem ':' text hmem)
      simp [hnil] at hsides

theorem ofWord_term (hboth : Text.upper text ≠ bothWord) (heither : Text.upper text ≠ eitherWord)
    (hsides : ¬ HasSides text) : Token.ofWord text = .term text := by
  have hempty : ((text.takeWhile (· != ':')).isEmpty ||
      ((text.dropWhile (· != ':')).drop 1).isEmpty) = true := by
    by_contra hnone
    apply hsides
    rw [hasSides_iff]
    simpa only [Bool.or_eq_true, List.isEmpty_iff, not_or] using hnone
  simp only [Token.ofWord, hboth, heither, if_false, hempty, if_true]

end

-- Over the characters of the text, and not over all that there are.
instance (run : Text) : Decidable (IsWord run) :=
  decidable_of_iff (run ≠ [] ∧ run.all isWordChar = true)
    (and_congr_right' List.all_eq_true)

instance (text : Text) : Decidable (HasSides text) :=
  decidable_of_iff _ (hasSides_iff text).symm

instance : DecidablePred Token.WellFormed
  | .phrase text => inferInstanceAs (Decidable (text ≠ [] ∧ '"' ∉ text))
  | .exclude run => inferInstanceAs (Decidable (IsWord run))
  | .filter field value => inferInstanceAs
      (Decidable (IsWord field ∧ IsWord value ∧ ':' ∉ field ∧ field.head? ≠ some '-'))
  | .term text => inferInstanceAs
      (Decidable (IsWord text ∧ text.head? ≠ some '-' ∧ Text.upper text ≠ bothWord ∧
        Text.upper text ≠ eitherWord ∧ ¬ HasSides text))
  | .both | .either | .openGroup | .closeGroup => inferInstanceAs (Decidable True)

theorem ofWord_wellFormed (run : Text) (hword : IsWord run) (hdash : run.head? ≠ some '-') :
    (Token.ofWord run).WellFormed := by
  by_cases hboth : Text.upper run = bothWord
  · rw [Token.ofWord, if_pos hboth]
    trivial
  by_cases heither : Text.upper run = eitherWord
  · rw [Token.ofWord, if_neg hboth, if_pos heither]
    trivial
  by_cases hsides : HasSides run
  · obtain ⟨field, value, rfl, hcolon, hfield, hvalue⟩ := hsides
    obtain ⟨-, hrun⟩ := hword
    rw [List.head?_append_of_ne_nil _ hfield] at hdash
    rw [ofWord_filter field value hcolon hfield hvalue]
    refine ⟨⟨hfield, ?_⟩, ⟨hvalue, ?_⟩, hcolon, hdash⟩
    · intro c hc
      exact hrun c (List.mem_append_left _ hc)
    · intro c hc
      exact hrun c (List.mem_append_right _ (List.mem_cons_of_mem _ hc))
  · rw [ofWord_term run hboth heither hsides]
    exact ⟨hword, hdash, hboth, heither, hsides⟩

theorem ofLexeme?_wellFormed (lexeme : Lexeme) (hform : lexeme.WellFormed) (token : Token)
    (h : Token.ofLexeme? lexeme = some token) : token.WellFormed := by
  cases lexeme with
  | blank c => simp [Token.ofLexeme?] at h
  | quotation inside closed =>
    simp only [Token.ofLexeme?, Option.ite_none_left_eq_some, Option.some.injEq] at h
    obtain ⟨hne, rfl⟩ := h
    exact ⟨by simpa using hne, hform⟩
  | openGroup =>
    obtain rfl : Token.openGroup = token := Option.some.inj h
    trivial
  | closeGroup =>
    obtain rfl : Token.closeGroup = token := Option.some.inj h
    trivial
  | dashed run =>
    simp only [Token.ofLexeme?, Option.ite_none_left_eq_some, Option.some.injEq] at h
    obtain ⟨hne, rfl⟩ := h
    exact ⟨by simpa using hne, hform⟩
  | word run =>
    obtain rfl : Token.ofWord run = token := Option.some.inj h
    exact ofWord_wellFormed run ⟨hform.1, hform.2.1⟩ hform.2.2

theorem wellFormed_of_mem_tokenize (query : Text) : ∀ token ∈ tokenize query, token.WellFormed := by
  intro token htoken
  obtain ⟨lexeme, hlexeme, hsome⟩ := List.mem_filterMap.1 htoken
  have hform := wellFormed_of_splits query _ (splits_lexemes query) lexeme hlexeme
  exact ofLexeme?_wellFormed lexeme hform token hsome

/-- The lexeme that a token is written as. -/
def Token.lexeme : Token → Lexeme
  | .phrase text => .quotation text true
  | .filter field value => .word (field ++ ':' :: value)
  | .exclude run => .dashed run
  | .both => .word bothWord
  | .either => .word eitherWord
  | .openGroup => .openGroup
  | .closeGroup => .closeGroup
  | .term text => .word text

section

variable (token : Token)

theorem lexeme_source : token.lexeme.source = token.render := by
  cases token <;> rfl

theorem isWord_sides (field value : Text) (hfield : IsWord field) (hvalue : IsWord value) :
    IsWord (field ++ ':' :: value) := by
  have hcolon : isWordChar ':' = true := by decide
  refine ⟨by simp, ?_⟩
  intro c hc
  simp only [List.mem_append, List.mem_cons] at hc
  rcases hc with hc | rfl | hc
  · exact hfield.2 c hc
  · exact hcolon
  · exact hvalue.2 c hc

theorem lexeme_wellFormed (h : token.WellFormed) : token.lexeme.WellFormed := by
  cases token with
  | phrase text => exact h.2
  | filter field value =>
    obtain ⟨hfield, hvalue, -, hdash⟩ := h
    obtain ⟨hne, hrun⟩ := isWord_sides field value hfield hvalue
    refine ⟨hne, hrun, ?_⟩
    rwa [List.head?_append_of_ne_nil _ hfield.1]
  | exclude run => exact h.2
  | both => exact ⟨by decide, List.all_eq_true.1 (by decide), by decide⟩
  | either => exact ⟨by decide, List.all_eq_true.1 (by decide), by decide⟩
  | openGroup => trivial
  | closeGroup => trivial
  | term text => exact ⟨h.1.1, h.1.2, h.2.1⟩

theorem ofLexeme?_lexeme (h : token.WellFormed) : Token.ofLexeme? token.lexeme = some token := by
  cases token with
  | phrase text => simp [Token.lexeme, Token.ofLexeme?, h.1]
  | filter field value =>
    obtain ⟨hfield, hvalue, hcolon, -⟩ := h
    exact congrArg some (ofWord_filter field value hcolon hfield.1 hvalue.1)
  | exclude run => simp [Token.lexeme, Token.ofLexeme?, h.1]
  | both => decide
  | either => decide
  | openGroup => rfl
  | closeGroup => rfl
  | term text =>
    obtain ⟨-, -, hboth, heither, hsides⟩ := h
    exact congrArg some (ofWord_term text hboth heither hsides)

theorem lexeme_endsAt (rest : Text) (h : ∀ c ∈ rest.head?, isWordChar c = false) :
    token.lexeme.EndsAt rest := by
  cases token with
  | phrase text => exact .inl rfl
  | openGroup => trivial
  | closeGroup => trivial
  | _ => exact h

theorem tokenize_token (rest : Text) (h : token.WellFormed)
    (hrest : ∀ c ∈ rest.head?, isWordChar c = false) :
    tokenize (token.render ++ rest) = token :: tokenize rest := by
  rw [← lexeme_source, tokenize, lexemes_source rest token.lexeme (lexeme_wellFormed token h)
    (lexeme_endsAt token rest hrest), List.filterMap_cons_some (ofLexeme?_lexeme token h)]
  rfl

end

theorem tokenize_nil : tokenize [] = [] := by
  rw [tokenize, lexemes]
  rfl

theorem tokenize_blank (c : Char) (rest : Text) (h : Text.isBlankChar c = true) :
    tokenize (c :: rest) = tokenize rest := by
  rw [tokenize, lexemes_blank rest c h]
  rfl

theorem tokenize_render (tokens : List Token) (h : ∀ token ∈ tokens, token.WellFormed) :
    tokenize (render tokens) = tokens := by
  induction tokens with
  | nil => exact tokenize_nil
  | cons token others ih =>
    have htoken : token.WellFormed := h token (by simp)
    have hothers := ih fun other hother => h other (by simp [hother])
    -- Behind the last token nothing is written, behind every other one a space.
    by_cases hnone : others = []
    · subst hnone
      have htext : render [token] = token.render ++ [] := by simp [render, Text.joined]
      rw [htext, tokenize_token token [] htoken (by simp), tokenize_nil]
    · have htext : render (token :: others) = token.render ++ ' ' :: render others := by
        rw [render, List.map_cons, Text.joined_cons _ _ _ (by simpa using hnone)]
        simp [render]
      have hblank : ∀ c ∈ (' ' :: render others).head?, isWordChar c = false := by
        intro c hc
        obtain rfl : ' ' = c := by simpa using hc
        decide
      rw [htext, tokenize_token token _ htoken hblank, tokenize_blank _ _ (by decide), hothers]

/-- Reading a search string and writing tokens are inverse to each other on tokens whose texts are
what they are read as. -/
theorem tokenize_inverts_render (query : Text) (tokens : List Token) :
    (∀ token ∈ tokenize query, token.WellFormed) ∧
      ((∀ token ∈ tokens, token.WellFormed) → tokenize (render tokens) = tokens) :=
  ⟨wellFormed_of_mem_tokenize query, tokenize_render tokens⟩

/-- Tokens of all kinds: a phrase that looks like operators, a second colon, a second dash, and
colons at the ends of words. -/
theorem tokenize_inverts_render_kinds :
    let tokens : List Token :=
      [.phrase "a OR".toList, .filter "url".toList "http://x".toList, .exclude "-y".toList, .both,
        .openGroup, .term "b:".toList, .either, .term ":é".toList, .closeGroup]
    (∀ token ∈ tokens, token.WellFormed) ∧
      render tokens = "\"a OR\" url:http://x --y AND ( b: OR :é )".toList ∧
      tokenize (render tokens) = tokens := by
  intro tokens
  have hform : ∀ token ∈ tokens, token.WellFormed := by decide
  exact ⟨hform, by decide, (tokenize_inverts_render [] tokens).2 hform⟩

end Quarry.Query
