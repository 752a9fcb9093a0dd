import Quarry.Json.Reader
import Quarry.Proofs.Json.Lexing

/-! What happens to JSON text when more text stands around it: blanks leave its value as it is or
make it no JSON at all, and so does every further token. -/
namespace Quarry.Json

/-- A text that is no JSON. One that nests too deeply to be read is not meant. -/
def Refused (text : Text) : Prop := ∃ error, read text = .error error ∧ error ≠ .tooDeep

namespace Reader

theorem foldl_push_failed (error : ReadError) (tokens : List Token) :
    tokens.foldl push (.failed error) = .failed error := by
  induction tokens with
  | nil => rfl
  | cons token others ih => exact ih

/-- No token may follow a complete value. -/
theorem foldl_push_done (v : Value) (token : Token) (others : List Token) :
    (token :: others).foldl push (.done v) = .failed .malformed := by
  have hpush : push (.done v) token = .failed .malformed := by
    cases token <;> rfl
  rw [List.foldl_cons, hpush]
  exact foldl_push_failed .malformed others

theorem push_refused (reader : Reader) (token : Token) (ht : token.IsRefused)
    (hr : ∀ error, reader ≠ .failed error) :
    ∃ error, push reader token = .failed error ∧ error ≠ .tooDeep := by
  rcases ht with rfl | rfl
  · cases reader with
    | failed error => exact absurd rfl (hr error)
    | _ => exact ⟨.malformed, rfl, by decide⟩
  · cases reader with
    | failed error => exact absurd rfl (hr error)
    | value around => exact ⟨.hugeInteger, rfl, by decide⟩
    | firstItem around => exact ⟨.hugeInteger, rfl, by decide⟩
    | _ => exact ⟨.malformed, rfl, by decide⟩

theorem finish_eq_ok (reader : Reader) (v : Value) (h : reader.finish = .ok v) :
    reader = .done v := by
  cases reader with
  | done value =>
    simp only [finish, Except.ok.injEq] at h
    rw [h]
  | _ => simp [finish] at h

end Reader

theorem foldl_of_read (text : Text) (v : Value) (h : read text = .ok v) :
    (tokens text).foldl Reader.push (.value []) = .done v :=
  Reader.finish_eq_ok _ v h

/-- A text is refused by a token of no JSON, where the tokens in front of it have not failed. -/
theorem refused_of_token (text : Text) (found others : List Token) (token : Token)
    (htokens : tokens text = found ++ token :: others) (ht : token.IsRefused)
    (hfound : ∀ error, found.foldl Reader.push (.value []) ≠ .failed error) : Refused text := by
  obtain ⟨error, hpush, herror⟩ := Reader.push_refused _ token ht hfound
  refine ⟨error, ?_, herror⟩
  rw [read, htokens, List.foldl_append, List.foldl_cons, hpush, Reader.foldl_push_failed]
  rfl

/-- A text that is read has no token of no JSON. -/
theorem not_isRefused_of_read (text : Text) (v : Value) (hread : read text = .ok v)
    (found others : List Token) (token : Token) (htokens : tokens text = found ++ token :: others) :
    ¬token.IsRefused := by
  intro ht
  by_cases hfound : ∃ error, found.foldl Reader.push (.value []) = .failed error
  · obtain ⟨error, herror⟩ := hfound
    have hdone := foldl_of_read text v hread
    rw [htokens, List.foldl_append, herror, Reader.foldl_push_failed] at hdone
    cases hdone
  · obtain ⟨error, herror, -⟩ := refused_of_token text found others token htokens ht
      fun error h => hfound ⟨error, h⟩
    rw [hread] at herror
    cases herror

/-- The first token of a text is one of no JSON, if its first character is neither graphic nor a blank
of JSON. -/
theorem exists_refused_of_head (c : Char) (rest : Text) (hgraphic : isGraphic c = false)
    (hblank : isBlank c = false) : ∃ token others, tokens (c :: rest) = token :: others ∧
      token.IsRefused := by
  have hends : endsWord c = false := by rw [endsWord_of_not_graphic c hgraphic, hblank]
  obtain ⟨others, hothers⟩ := tokensFrom_word [c] rest
  refine ⟨_, others, (tokens_word c rest hends).trans hothers, ?_⟩
  exact ofWord_isRefused _ c (by simp) hgraphic

theorem refused_of_head (c : Char) (rest : Text) (hgraphic : isGraphic c = false)
    (hblank : isBlank c = false) : Refused (c :: rest) := by
  obtain ⟨token, others, htokens, ht⟩ := exists_refused_of_head c rest hgraphic hblank
  apply refused_of_token _ [] others token htokens ht
  intro error h
  cases h

/-- Blanks have no token, or one of no JSON. -/
theorem tokens_of_isBlank (blanks : Text) (h : Text.isBlank blanks = true) :
    tokens blanks = [] ∨ ∃ token others, tokens blanks = token :: others ∧ token.IsRefused := by
  induction blanks with
  | nil => exact Or.inl rfl
  | cons c blanks ih =>
    rw [Text.isBlank, List.all_cons, Bool.and_eq_true] at h
    by_cases hc : isBlank c = true
    · rw [tokens_blank c blanks hc]
      exact ih h.2
    · exact Or.inr (exists_refused_of_head c blanks (isGraphic_of_isBlankChar c h.1)
        (Bool.eq_false_iff.2 hc))

/-- A string that is open at the end is no token, and blanks do not close it. -/
theorem tokensFrom_open (mode : Mode) (hmode : mode.IsOpen) (blanks : Text)
    (h : Text.isBlank blanks = true) : tokensFrom mode blanks = [.malformed] := by
  induction blanks generalizing mode with
  | nil =>
    cases mode with
    | inside read => rfl
    | escaped read => rfl
    | _ => cases hmode
  | cons c blanks ih =>
    rw [Text.isBlank, List.all_cons, Bool.and_eq_true] at h
    have hgraphic := isGraphic_of_isBlankChar c h.1
    have hquote : c ≠ '"' := by
      rintro rfl
      exact absurd hgraphic (by decide)
    have hslash : c ≠ '\\' := by
      rintro rfl
      exact absurd hgraphic (by decide)
    cases mode with
    | inside read =>
      rw [tokensFrom_cons]
      simp only [Lexer.push, hquote, hslash, if_false]
      exact ih (.inside (c :: read)) trivial h.2
    | escaped read =>
      rw [tokensFrom_cons]
      exact ih (.inside (c :: read)) trivial h.2
    | _ => cases hmode

/-- The tokens of a text with more behind it, which a blank sets off: those of the text and those of
the rest, unless the blank is none of JSON and runs into a word, or a string is open there. -/
theorem tokens_behind (body right : Text)
    (hright : ∀ c ∈ right.head?, Text.isBlankChar c = true) :
    (∃ rest, tokens (body ++ right) = tokens body ++ tokens rest ∧
      (Text.isBlank rest = true ↔ Text.isBlank right = true)) ∨
    (∃ found others word token, tokens body = found ++ [word] ∧
      tokens (body ++ right) = found ++ token :: others ∧ token.IsRefused) ∨
    (scan .between body).mode.IsOpen := by
  have hbody := tokens_append body []
  have hboth := tokens_append body right
  rw [List.append_nil] at hbody
  cases hmode : (scan .between body).mode with
  | between =>
    rw [hmode] at hbody hboth
    have hnil : tokensFrom .between [] = [] := rfl
    rw [hnil, List.append_nil] at hbody
    refine Or.inl ⟨right, ?_, Iff.rfl⟩
    rw [hboth, hbody]
    rfl
  | word read =>
    rw [hmode] at hbody hboth
    have hword : tokensFrom (.word read) [] = [.ofWord read.reverse] := rfl
    cases right with
    | nil =>
      refine Or.inl ⟨[], ?_, Iff.rfl⟩
      have hnil : tokens [] = [] := rfl
      rw [hnil, List.append_nil, List.append_nil]
    | cons c rest =>
      have hc := hright c rfl
      -- A blank of JSON ends the word; any other one becomes a part of it.
      by_cases hblank : isBlank c = true
      · refine Or.inl ⟨rest, ?_, ?_⟩
        · rw [hboth, hbody, hword, tokensFrom_word_blank c rest read hblank, List.append_assoc]
          rfl
        · rw [Text.isBlank, Text.isBlank, List.all_cons, hc, Bool.true_and]
      · have hgraphic := isGraphic_of_isBlankChar c hc
        have hends : endsWord c = false := by
          rw [endsWord_of_not_graphic c hgraphic]
          exact Bool.eq_false_iff.2 hblank
        obtain ⟨others, hothers⟩ := tokensFrom_word read (c :: rest)
        rw [hword] at hbody
        rw [hothers] at hboth
        refine Or.inr (Or.inl ⟨_, others, _, _, hbody, hboth, ?_⟩)
        exact ofWord_isRefused _ c (by simp [hends]) hgraphic
  | inside read => exact Or.inr (Or.inr trivial)
  | escaped read => exact Or.inr (Or.inr trivial)

/-- A text with an open string at its end has a last token that is none of JSON, with blanks behind it
as well. -/
theorem exists_malformed_of_open (body blanks : Text) (hopen : (scan .between body).mode.IsOpen)
    (hblanks : Text.isBlank blanks = true) :
    ∃ found, tokens (body ++ blanks) = found ++ [.malformed] :=
  ⟨_, by rw [tokens_append, tokensFrom_open _ hopen blanks hblanks]⟩

/-- JSON text with more behind it, which a blank sets off, is read as the text alone if all that
is behind it is blank, and refused otherwise. Some blanks make it refused as well. -/
theorem read_behind (body right : Text) (v : Value) (hread : read body = .ok v)
    (hright : ∀ c ∈ right.head?, Text.isBlankChar c = true) :
    (read (body ++ right) = .ok v ∧ Text.isBlank right = true) ∨ Refused (body ++ right) := by
  have hdone := foldl_of_read body v hread
  rcases tokens_behind body right hright with
    ⟨rest, htokens, hblank⟩ | ⟨found, others, word, token, hbody, hboth, ht⟩ | hopen
  · cases hrest : tokens rest with
    | nil =>
      rw [hrest, List.append_nil] at htokens
      have hall : Text.isBlank rest = true := by
        rw [Text.isBlank, List.all_eq_true]
        intro c hc
        exact isBlankChar_of_isBlank c (List.all_eq_true.1 (all_isBlank_of_tokens rest hrest) c hc)
      refine Or.inl ⟨?_, hblank.1 hall⟩
      rw [read, htokens]
      exact hread
    | cons token others =>
      refine Or.inr ⟨.malformed, ?_, by decide⟩
      rw [read, htokens, hrest, List.foldl_append, hdone, Reader.foldl_push_done]
      rfl
  · right
    apply refused_of_token _ found others token hboth ht
    intro error hfound
    rw [hbody, List.foldl_append, hfound, Reader.foldl_push_failed] at hdone
    cases hdone
  · -- A string that is still open would have been refused.
    obtain ⟨found, hbody⟩ := exists_malformed_of_open body [] hopen rfl
    rw [List.append_nil] at hbody
    exact absurd (Or.inl rfl) (not_isRefused_of_read body v hread found [] .malformed hbody)

/-- Text behind blanks is read as the text alone or refused. -/
theorem read_below (blanks text : Text) (hblanks : Text.isBlank blanks = true) :
    read (blanks ++ text) = read text ∨ Refused (blanks ++ text) := by
  induction blanks with
  | nil => exact Or.inl rfl
  | cons c blanks ih =>
    rw [Text.isBlank, List.all_cons, Bool.and_eq_true] at hblanks
    by_cases hc : isBlank c = true
    · have hread : read (c :: blanks ++ text) = read (blanks ++ text) := by
        rw [read, List.cons_append, tokens_blank c (blanks ++ text) hc]
        rfl
      rw [Refused, hread]
      exact ih hblanks.2
    · have hgraphic := isGraphic_of_isBlankChar c hblanks.1
      exact Or.inr (refused_of_head c (blanks ++ text) hgraphic (Bool.eq_false_iff.2 hc))

/-- A text with blanks behind it is read only as the text alone is. -/
theorem read_of_above (body blanks : Text) (hblanks : Text.isBlank blanks = true) (v : Value)
    (hread : read (body ++ blanks) = .ok v) : read body = .ok v := by
  have hrefused := not_isRefused_of_read (body ++ blanks) v hread
  have hhead : ∀ c ∈ blanks.head?, Text.isBlankChar c = true := fun c hc =>
    List.all_eq_true.1 hblanks c (List.mem_of_mem_head? hc)
  rcases tokens_behind body blanks hhead with
    ⟨rest, htokens, hblank⟩ | ⟨found, others, word, token, -, hboth, ht⟩ | hopen
  · rcases tokens_of_isBlank rest (hblank.2 hblanks) with hrest | ⟨token, others, hrest, ht⟩
    · rw [hrest, List.append_nil] at htokens
      rwa [read, htokens] at hread
    · rw [hrest] at htokens
      exact absurd ht (hrefused _ others token htokens)
  · exact absurd ht (hrefused found others token hboth)
  · obtain ⟨found, hboth⟩ := exists_malformed_of_open body blanks hopen hblanks
    exact absurd (Or.inl rfl) (hrefused found [] .malformed hboth)

/-- A text between blanks is read only as the text alone is. -/
theorem read_of_between (left body right : Text) (hleft : Text.isBlank left = true)
    (hright : Text.isBlank right = true) (v : Value) (hread : read (left ++ body ++ right) = .ok v) :
    read body = .ok v := by
  have hbody := read_of_above (left ++ body) right hright v hread
  rcases read_below left body hleft with hbelow | ⟨error, herror, -⟩
  · rwa [hbelow] at hbody
  · rw [hbody] at herror
    cases herror

end Quarry.Json
