import Quarry.Proofs.Text.Runs
import Quarry.Query.Lexeme

/-! The lexemes of a search string by their shape: a text is split into lexemes each of which ends
only where nothing goes on with it, and there is one way to do so. -/
namespace Quarry.Query

/-- What the characters of a lexeme are, so that no other lexeme can be meant. -/
def Lexeme.WellFormed : Lexeme → Prop
  | .blank c => Text.isBlankChar c = true
  | .quotation inside _ => '"' ∉ inside
  | .openGroup | .closeGroup => True
  | .dashed run => ∀ c ∈ run, isWordChar c = true
  | .word run => run ≠ [] ∧ (∀ c ∈ run, isWordChar c = true) ∧ run.head? ≠ some '-'

/-- A lexeme ends where the rest of the text starts. Only the end of the text ends a quotation that
lacks its second quote, and a run of word characters ends in front of another character. -/
def Lexeme.EndsAt (rest : Text) : Lexeme → Prop
  | .quotation _ closed => closed = true ∨ rest = []
  | .dashed _ | .word _ => ∀ c ∈ rest.head?, isWordChar c = false
  | _ => True

/-- The lexemes into which a text splits. -/
inductive Splits : Text → List Lexeme → Prop
  | done : Splits [] []
  | step (lexeme : Lexeme) (rest : Text) (others : List Lexeme) (hform : lexeme.WellFormed)
      (hend : lexeme.EndsAt rest) (h : Splits rest others) :
      Splits (lexeme.source ++ rest) (lexeme :: others)

theorem isWordChar_of_isBlankChar (c : Char) (h : Text.isBlankChar c = true) :
    isWordChar c = false := by
  simp [isWordChar, h]

theorem isBlankChar_of_isWordChar (c : Char) (h : isWordChar c = true) :
    Text.isBlankChar c = false ∧ c ≠ '(' ∧ c ≠ ')' ∧ c ≠ '"' := by
  simpa [isWordChar, and_assoc] using h

section

variable (rest : Text)

theorem lexemes_blank (c : Char) (h : Text.isBlankChar c = true) :
    lexemes (c :: rest) = .blank c :: lexemes rest := by
  rw [lexemes, if_pos h]

theorem lexemes_quote : lexemes ('"' :: rest) =
    .quotation (rest.takeWhile (· != '"')) (rest.contains '"') ::
      lexemes ((rest.dropWhile (· != '"')).drop 1) := by
  rw [lexemes, if_neg (by decide), if_pos rfl]

theorem lexemes_dash : lexemes ('-' :: rest) =
    .dashed (rest.takeWhile isWordChar) :: lexemes (rest.dropWhile isWordChar) := by
  rw [lexemes, if_neg (by decide), if_neg (by decide), if_neg (by decide), if_neg (by decide),
    if_pos rfl]

theorem lexemes_letter (c : Char) (h : isWordChar c = true) (hdash : c ≠ '-') :
    lexemes (c :: rest) =
      .word (c :: rest.takeWhile isWordChar) :: lexemes (rest.dropWhile isWordChar) := by
  obtain ⟨hblank, hopen, hclose, hquote⟩ := isBlankChar_of_isWordChar c h
  rw [lexemes, if_neg (by simp [hblank]), if_neg hquote, if_neg hopen, if_neg hclose,
    if_neg hdash]

/-- A lexeme is cut off whole where it ends. -/
theorem lexemes_source (lexeme : Lexeme) (hform : lexeme.WellFormed) (hend : lexeme.EndsAt rest) :
    lexemes (lexeme.source ++ rest) = lexeme :: lexemes rest := by
  cases lexeme with
  | blank c => exact lexemes_blank rest c hform
  | quotation inside closed =>
    have hrun := Text.bne_of_notMem '"' inside hform
    cases closed with
    | true =>
      have hstop : ∀ c ∈ ('"' :: rest).head?, (c != '"') = false := by simp
      have hsource : (Lexeme.quotation inside true).source ++ rest =
          '"' :: (inside ++ '"' :: rest) := by simp [Lexeme.source]
      have hquote : (inside ++ '"' :: rest).contains '"' = true := by simp
      rw [hsource, lexemes_quote, hquote, Text.takeWhile_run _ _ _ hrun hstop,
        Text.dropWhile_run _ _ _ hrun hstop, List.drop_one, List.tail_cons]
    | false =>
      obtain rfl : rest = [] := hend.resolve_left (by simp)
      have hsource : (Lexeme.quotation inside false).source ++ [] = '"' :: (inside ++ []) := by
        simp [Lexeme.source]
      have hquote : (inside ++ []).contains '"' = false := by
        simpa [Lexeme.WellFormed] using hform
      rw [hsource, lexemes_quote, hquote, Text.takeWhile_run _ _ _ hrun (by simp),
        Text.dropWhile_run _ _ _ hrun (by simp), List.drop_nil]
  | openGroup =>
    show lexemes ('(' :: rest) = _
    rw [lexemes, if_neg (by decide), if_neg (by decide), if_pos rfl]
  | closeGroup =>
    show lexemes (')' :: rest) = _
    rw [lexemes, if_neg (by decide), if_neg (by decide), if_neg (by decide), if_pos rfl]
  | dashed run =>
    show lexemes ('-' :: (run ++ rest)) = _
    rw [lexemes_dash, Text.takeWhile_run _ _ _ hform hend, Text.dropWhile_run _ _ _ hform hend]
  | word run =>
    obtain ⟨hne, hrun, hdash⟩ := hform
    cases run with
    | nil => exact absurd rfl hne
    | cons c run =>
      have hletter : ∀ d ∈ run, isWordChar d = true := fun d hd => hrun d (by simp [hd])
      show lexemes (c :: (run ++ rest)) = _
      rw [lexemes_letter (run ++ rest) c (hrun c (by simp)) (by simpa using hdash),
        Text.takeWhile_run _ _ _ hletter hend, Text.dropWhile_run _ _ _ hletter hend]

end

theorem source_ne_nil (lexeme : Lexeme) (hform : lexeme.WellFormed) : lexeme.source ≠ [] := by
  cases lexeme with
  | word run => exact hform.1
  | _ => simp [Lexeme.source]

theorem exists_run (text : Text) : ∃ run rest, text = run ++ rest ∧
    (∀ c ∈ run, isWordChar c = true) ∧ ∀ c ∈ rest.head?, isWordChar c = false := by
  refine ⟨text.takeWhile isWordChar, text.dropWhile isWordChar, ?_, ?_, ?_⟩
  · exact List.takeWhile_append_dropWhile.symm
  · exact fun c hc => List.mem_takeWhile_imp hc
  · intro c hc
    have hstop := List.head?_dropWhile_not isWordChar text
    rwa [Option.mem_def.1 hc] at hstop

/-- A text that is not empty starts with a lexeme. -/
theorem exists_lexeme (c : Char) (text : Text) : ∃ lexeme : Lexeme, ∃ rest : Text,
    c :: text = lexeme.source ++ rest ∧ lexeme.WellFormed ∧ lexeme.EndsAt rest := by
  by_cases hblank : Text.isBlankChar c = true
  · exact ⟨.blank c, text, rfl, hblank, trivial⟩
  by_cases hquote : c = '"'
  · subst hquote
    by_cases hmem : '"' ∈ text
    · obtain ⟨inside, rest, rfl, hinside⟩ := List.eq_append_cons_of_mem hmem
      exact ⟨.quotation inside true, rest, by simp [Lexeme.source], hinside, .inl rfl⟩
    · exact ⟨.quotation text false, [], by simp [Lexeme.source], hmem, .inr rfl⟩
  by_cases hopen : c = '('
  · exact ⟨.openGroup, text, by rw [hopen]; rfl, trivial, trivial⟩
  by_cases hclose : c = ')'
  · exact ⟨.closeGroup, text, by rw [hclose]; rfl, trivial, trivial⟩
  -- What is left are word characters, with or without a dash in front.
  obtain ⟨run, rest, rfl, hrun, hrest⟩ := exists_run text
  by_cases hdash : c = '-'
  · exact ⟨.dashed run, rest, by rw [hdash]; rfl, hrun, hrest⟩
  · have hletter : isWordChar c = true := by simp [isWordChar, hblank, hquote, hopen, hclose]
    have hword : ∀ d ∈ c :: run, isWordChar d = true := by simpa [hletter] using hrun
    exact ⟨.word (c :: run), rest, rfl, ⟨by simp, hword, by simpa using hdash⟩, hrest⟩

/-- A text splits in no other way than into its lexemes. -/
theorem lexemes_of_splits (text : Text) (parts : List Lexeme) (h : Splits text parts) :
    lexemes text = parts := by
  induction h with
  | done => rw [lexemes]
  | step lexeme rest others hform hend _ ih => rw [lexemes_source rest lexeme hform hend, ih]

theorem splits_lexemes (text : Text) : Splits text (lexemes text) := by
  -- By the length of the text: what is behind the first lexeme is shorter.
  induction hlength : text.length using Nat.strong_induction_on generalizing text with
  | _ length ih =>
    cases text with
    | nil =>
      rw [lexemes]
      exact .done
    | cons c text =>
      obtain ⟨lexeme, rest, htext, hform, hend⟩ := exists_lexeme c text
      have hsource := List.length_pos_iff.2 (source_ne_nil lexeme hform)
      have hshorter : rest.length < length := by
        rw [← hlength, htext, List.length_append]
        omega
      rw [htext, lexemes_source rest lexeme hform hend]
      exact .step lexeme rest _ hform hend (ih rest.length hshorter rest rfl)

theorem wellFormed_of_splits (text : Text) (parts : List Lexeme) (h : Splits text parts) :
    ∀ lexeme ∈ parts, lexeme.WellFormed := by
  induction h with
  | done => simp
  | step lexeme rest others hform _ _ ih =>
    intro other hother
    rcases List.mem_cons.1 hother with rfl | hother
    · exact hform
    · exact ih other hother

end Quarry.Query
