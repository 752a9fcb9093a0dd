import Mathlib.Data.List.Forall2
import Quarry.Proofs.Query.Tokens

/-! Every character of a search string is accounted for: it stands in one lexeme, and the lexeme
hands it on to its token unless it is a blank, a quote or a dash in front of a run. -/
namespace Quarry.Query

/-- The characters that a lexeme hands on: neither the quotes of a quotation nor the dash before a
run nor a blank. -/
def Lexeme.content : Lexeme → Text
  | .blank _ => []
  | .quotation inside _ => inside
  | .openGroup => ['(']
  | .closeGroup => [')']
  | .dashed run | .word run => run

/-- The mark that a lexeme starts with. -/
def Lexeme.opening : Lexeme → Text
  | .blank c => [c]
  | .quotation _ _ => ['"']
  | .dashed _ => ['-']
  | .openGroup | .closeGroup | .word _ => []

/-- The mark that a lexeme ends with, which only a quotation has. -/
def Lexeme.closing : Lexeme → Text
  | .quotation _ closed => if closed then ['"'] else []
  | _ => []

/-- A lexeme that has a token: no blank, no empty quotation and no bare dash. -/
def Lexeme.isKept (lexeme : Lexeme) : Bool := !lexeme.content.isEmpty

/-- The characters that a token is made of, with the colon of a filter. -/
def Token.content : Token → Text
  | .phrase text | .exclude text | .term text => text
  | .filter field value => field ++ ':' :: value
  | .both => bothWord
  | .either => eitherWord
  | .openGroup => ['(']
  | .closeGroup => [')']

/-- A token holds exactly the characters of a text, an operator in any case of its letters. -/
def Token.SpelledAs (token : Token) (text : Text) : Prop :=
  token.content = text ∨
    (token = .both ∨ token = .either) ∧ token.content = Text.upper text

/-- The token that a lexeme stands for. A word is an operator if its letters are, else a filter if
there is text on both sides of its first colon, and else a term. -/
inductive Lexeme.Means : Lexeme → Token → Prop
  | phrase (inside : Text) (closed : Bool) (h : inside ≠ []) :
      Means (.quotation inside closed) (.phrase inside)
  | openGroup : Means .openGroup .openGroup
  | closeGroup : Means .closeGroup .closeGroup
  | exclude (run : Text) (h : run ≠ []) : Means (.dashed run) (.exclude run)
  | both (run : Text) (h : Text.upper run = bothWord) : Means (.word run) .both
  | either (run : Text) (h : Text.upper run = eitherWord) : Means (.word run) .either
  | filter (field value : Text) (hcolon : ':' ∉ field) (hfield : field ≠ []) (hvalue : value ≠ []) :
      Means (.word (field ++ ':' :: value)) (.filter field value)
  | term (run : Text) (hboth : Text.upper run ≠ bothWord) (heither : Text.upper run ≠ eitherWord)
      (hsides : ¬ HasSides run) : Means (.word run) (.term run)

section

variable (lexeme : Lexeme) (token : Token)

theorem source_eq_framed : lexeme.source = lexeme.opening ++ lexeme.content ++ lexeme.closing := by
  cases lexeme <;> simp [Lexeme.source, Lexeme.opening, Lexeme.content, Lexeme.closing]

theorem ofLexeme?_of_means (h : lexeme.Means token) : Token.ofLexeme? lexeme = some token := by
  cases h with
  | phrase inside closed h => simp [Token.ofLexeme?, h]
  | openGroup => rfl
  | closeGroup => rfl
  | exclude run h => simp [Token.ofLexeme?, h]
  | both run h => exact congrArg some (if_pos h)
  | either run h =>
    have hboth : Text.upper run ≠ bothWord := by
      rw [h]
      decide
    exact congrArg some ((if_neg hboth).trans (if_pos h))
  | filter field value hcolon hfield hvalue =>
    exact congrArg some (ofWord_filter field value hcolon hfield hvalue)
  | term run hboth heither hsides => exact congrArg some (ofWord_term run hboth heither hsides)

theorem means_ofWord (run : Text) : (Lexeme.word run).Means (.ofWord run) := by
  by_cases hboth : Text.upper run = bothWord
  · rw [Token.ofWord, if_pos hboth]
    exact .both run hboth
  by_cases heither : Text.upper run = eitherWord
  · rw [Token.ofWord, if_neg hboth, if_pos heither]
    exact .either run heither
  by_cases hsides : HasSides run
  · obtain ⟨field, value, rfl, hcolon, hfield, hvalue⟩ := hsides
    rw [ofWord_filter field value hcolon hfield hvalue]
    exact .filter field value hcolon hfield hvalue
  · rw [ofWord_term run hboth heither hsides]
    exact .term run hboth heither hsides

/-- The tokens that lexemes are read as are those that they stand for. -/
theorem means_iff : lexeme.Means token ↔ Token.ofLexeme? lexeme = some token := by
  refine ⟨ofLexeme?_of_means lexeme token, fun h => ?_⟩
  cases lexeme with
  | blank c => simp [Token.ofLexeme?] at h
  | quotation inside closed =>
    simp only [Token.ofLexeme?, Option.ite_none_left_eq_some, Option.some.injEq] at h
    obtain ⟨hne, rfl⟩ := h
    exact .phrase inside closed (by simpa using hne)
  | openGroup =>
    obtain rfl : Token.openGroup = token := Option.some.inj h
    exact .openGroup
  | closeGroup =>
    obtain rfl : Token.closeGroup = token := Option.some.inj h
    exact .closeGroup
  | dashed run =>
    simp only [Token.ofLexeme?, Option.ite_none_left_eq_some, Option.some.injEq] at h
    obtain ⟨hne, rfl⟩ := h
    exact .exclude run (by simpa using hne)
  | word run =>
    obtain rfl : Token.ofWord run = token := Option.some.inj h
    exact means_ofWord run

/-- Without content there is no token. -/
theorem isKept_eq_isSome (hform : lexeme.WellFormed) :
    lexeme.isKept = (Token.ofLexeme? lexeme).isSome := by
  cases lexeme with
  | blank c => rfl
  | quotation inside closed => cases inside <;> rfl
  | openGroup => rfl
  | closeGroup => rfl
  | dashed run => cases run <;> rfl
  | word run => simp [Lexeme.isKept, Lexeme.content, Token.ofLexeme?, hform.1]

theorem spelledAs_of_means (h : lexeme.Means token) : token.SpelledAs lexeme.content := by
  cases h with
  | both run h => exact .inr ⟨.inl rfl, h.symm⟩
  | either run h => exact .inr ⟨.inr rfl, h.symm⟩
  | _ => exact .inl rfl

end

section

variable (parts : List Lexeme)

theorem flatMap_source_of_splits (text : Text) (h : Splits text parts) :
    parts.flatMap Lexeme.source = text := by
  induction h with
  | done => rfl
  | step lexeme rest others _ _ _ ih => rw [List.flatMap_cons, ih]

theorem forall₂_means_iff (hform : ∀ lexeme ∈ parts, lexeme.WellFormed) (tokens : List Token) :
    List.Forall₂ Lexeme.Means (parts.filter Lexeme.isKept) tokens ↔
      tokens = parts.filterMap Token.ofLexeme? := by
  induction parts generalizing tokens with
  | nil => simp
  | cons lexeme others ih =>
    have hkept := isKept_eq_isSome lexeme (hform lexeme (by simp))
    have hothers := ih fun other hother => hform other (List.mem_cons_of_mem _ hother)
    cases hsome : Token.ofLexeme? lexeme with
    | none =>
      have hdropped : ¬ lexeme.isKept = true := by simp [hkept, hsome]
      rw [List.filter_cons_of_neg hdropped, List.filterMap_cons_none hsome]
      exact hothers tokens
    | some token =>
      have htoken : lexeme.isKept = true := by simp [hkept, hsome]
      rw [List.filter_cons_of_pos htoken, List.filterMap_cons_some hsome,
        List.forall₂_cons_left_iff]
      simp only [means_iff, hsome, Option.some.injEq, hothers]
      constructor
      · rintro ⟨_, _, rfl, rfl, rfl⟩
        rfl
      · rintro rfl
        exact ⟨_, _, rfl, rfl, rfl⟩

/-- What is left out of the lexemes has no content. -/
theorem flatten_content_filter :
    ((parts.filter Lexeme.isKept).map Lexeme.content).flatten = parts.flatMap Lexeme.content := by
  induction parts with
  | nil => rfl
  | cons lexeme others ih =>
    by_cases hkept : lexeme.isKept = true
    · rw [List.filter_cons_of_pos hkept, List.map_cons, List.flatten_cons, ih, List.flatMap_cons]
    · have hempty : lexeme.content = [] := by simpa [Lexeme.isKept] using hkept
      rw [List.filter_cons_of_neg hkept, ih, List.flatMap_cons, hempty, List.nil_append]

end

/-- A search string splits into lexemes in exactly one way. Its tokens are what the lexemes with
content stand for, one by one, and their characters behind one another are all that the lexemes
hold between their marks. -/
theorem tokenize_accounts (query : Text) : ∃ parts : List Lexeme,
    (∀ others, Splits query others ↔ others = parts) ∧
      (parts.flatMap fun lexeme => lexeme.opening ++ lexeme.content ++ lexeme.closing) = query ∧
      (∀ tokens, List.Forall₂ Lexeme.Means (parts.filter Lexeme.isKept) tokens ↔
        tokens = tokenize query) ∧
      ∃ texts : List Text, texts.flatten = parts.flatMap Lexeme.content ∧
        List.Forall₂ Token.SpelledAs (tokenize query) texts := by
  have hsplits := splits_lexemes query
  have hform := wellFormed_of_splits query _ hsplits
  have hmeans := forall₂_means_iff (lexemes query) hform
  refine ⟨lexemes query, fun others => ⟨fun h => ?_, fun h => h ▸ hsplits⟩, ?_, hmeans,
    ((lexemes query).filter Lexeme.isKept).map Lexeme.content, flatten_content_filter _, ?_⟩
  · exact (lexemes_of_splits query others h).symm
  · simp only [← source_eq_framed]
    exact flatMap_source_of_splits _ query hsplits
  · rw [List.forall₂_map_right_iff]
    have htokens : List.Forall₂ Lexeme.Means ((lexemes query).filter Lexeme.isKept)
        (tokenize query) := (hmeans _).2 rfl
    exact (htokens.imp fun lexeme token h => spelledAs_of_means lexeme token h).flip

end Quarry.Query
