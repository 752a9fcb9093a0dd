import Mathlib.Tactic.ByContra
import Mathlib.Tactic.SplitIfs
import Quarry.Json.Token
import Quarry.Text.Blank

/-! The tokens of a text in parts: what a lexer finds in the first part, and what it finds in the
rest from there on. -/
namespace Quarry.Json

/-- The lexer behind a text that it reads from a mode on. -/
def scan (mode : Mode) (text : Text) : Lexer := text.foldl Lexer.push ⟨[], mode⟩

/-- The tokens of a text that is read from a mode on. -/
def tokensFrom (mode : Mode) (text : Text) : List Token := (scan mode text).finish.reverse

/-- A token that stands in no JSON text. -/
def Token.IsRefused (token : Token) : Prop := token = .malformed ∨ token = .hugeInteger

/-- The characters of ASCII that are neither blanks nor controls. -/
def isGraphic (c : Char) : Bool := 0x21 ≤ c.toNat && c.toNat ≤ 0x7E

/-- In the middle of a string. -/
def Mode.IsOpen : Mode → Prop
  | .inside _ | .escaped _ => True
  | _ => False

section

variable (mode : Mode) (c : Char) (rest : Text)

theorem begin_tokens (before found : List Token) : Lexer.begin (found ++ before) c =
    ⟨(Lexer.begin found c).tokens ++ before, (Lexer.begin found c).mode⟩ := by
  unfold Lexer.begin
  cases mark? c <;> split_ifs <;> rfl

theorem push_tokens (found : List Token) : Lexer.push ⟨found, mode⟩ c =
    ⟨(Lexer.push ⟨[], mode⟩ c).tokens ++ found, (Lexer.push ⟨[], mode⟩ c).mode⟩ := by
  cases mode with
  | between => exact begin_tokens c found []
  | word read =>
    simp only [Lexer.push]
    split_ifs
    · exact begin_tokens c found [.ofWord read.reverse]
    · rfl
  | inside read =>
    simp only [Lexer.push]
    split_ifs <;> rfl
  | escaped read => rfl

theorem foldl_push_tokens (text : Text) (found : List Token) :
    text.foldl Lexer.push ⟨found, mode⟩ =
      ⟨(scan mode text).tokens ++ found, (scan mode text).mode⟩ := by
  induction text generalizing mode found with
  | nil => rfl
  | cons c rest ih =>
    -- One character may add tokens to those found, so both sides are scanned from new ones.
    rw [scan, List.foldl_cons, List.foldl_cons, push_tokens mode c found]
    rw [ih (Lexer.push ⟨[], mode⟩ c).mode, ih (Lexer.push ⟨[], mode⟩ c).mode]
    simp only [List.append_assoc]

theorem finish_append (tokens found : List Token) :
    Lexer.finish ⟨tokens ++ found, mode⟩ = Lexer.finish ⟨tokens, mode⟩ ++ found := by
  cases mode <;> rfl

/-- The tokens of the first part stay as they are, but for the last one where it is under way. -/
theorem tokensFrom_append (before after : Text) : tokensFrom mode (before ++ after) =
    (scan mode before).tokens.reverse ++ tokensFrom (scan mode before).mode after := by
  have hbefore : scan mode before = ⟨(scan mode before).tokens, (scan mode before).mode⟩ := rfl
  rw [tokensFrom, scan, List.foldl_append, ← scan, hbefore, foldl_push_tokens]
  rw [finish_append, List.reverse_append]
  rfl

theorem tokens_append (before after : Text) : tokens (before ++ after) =
    (scan .between before).tokens.reverse ++ tokensFrom (scan .between before).mode after :=
  tokensFrom_append .between before after

theorem tokensFrom_cons : tokensFrom mode (c :: rest) =
    (Lexer.push ⟨[], mode⟩ c).tokens.reverse ++
      tokensFrom (Lexer.push ⟨[], mode⟩ c).mode rest :=
  tokensFrom_append mode [c] rest

end

section

variable (c : Char) (rest : Text)

theorem tokens_blank (h : isBlank c = true) : tokens (c :: rest) = tokens rest := by
  change tokensFrom .between (c :: rest) = _
  rw [tokensFrom_cons]
  simp only [Lexer.push, Lexer.begin, h, if_true]
  rfl

/-- A blank ends a word. -/
theorem tokensFrom_word_blank (read : Text) (h : isBlank c = true) :
    tokensFrom (.word read) (c :: rest) = .ofWord read.reverse :: tokens rest := by
  have hends : endsWord c = true := by simp [endsWord, h]
  rw [tokensFrom_cons]
  simp only [Lexer.push, Lexer.begin, h, hends, if_true]
  rfl

/-- A word goes on up to a character that ends it. -/
theorem tokensFrom_word (read text : Text) : ∃ others, tokensFrom (.word read) text =
    .ofWord (read.reverse ++ text.takeWhile fun c => !endsWord c) :: others := by
  induction text generalizing read with
  | nil => exact ⟨[], by simp [tokensFrom, scan, Lexer.finish]⟩
  | cons c rest ih =>
    by_cases hends : endsWord c = true
    · have hbegin := begin_tokens c [.ofWord read.reverse] []
      rw [tokensFrom_cons]
      simp only [List.nil_append] at hbegin
      simp only [Lexer.push, hends, if_true, hbegin]
      simp [hends]
    · obtain ⟨others, hothers⟩ := ih (c :: read)
      refine ⟨others, ?_⟩
      rw [tokensFrom_cons]
      simp only [Lexer.push, hends]
      simp [hothers, hends]

theorem tokens_word (h : endsWord c = false) :
    tokens (c :: rest) = tokensFrom (.word [c]) rest := by
  simp only [endsWord, Bool.or_eq_false_iff, decide_eq_false_iff_not, Option.isSome_eq_false_iff,
    Option.isNone_iff_eq_none] at h
  change tokensFrom .between (c :: rest) = _
  rw [tokensFrom_cons]
  simp only [Lexer.push, Lexer.begin, h.1.1, h.1.2, h.2, if_false]
  rfl

end

/-- A word or string that is under way ends up as a token. -/
theorem tokensFrom_ne_nil (mode : Mode) (text : Text) (h : mode ≠ .between) :
    tokensFrom mode text ≠ [] := by
  induction text generalizing mode with
  | nil => cases mode <;> simp_all [tokensFrom, scan, Lexer.finish]
  | cons c rest ih =>
    cases mode with
    | between => exact absurd rfl h
    | word read =>
      obtain ⟨others, hothers⟩ := tokensFrom_word read (c :: rest)
      simp [hothers]
    | inside read =>
      rw [tokensFrom_cons]
      simp only [Lexer.push]
      split_ifs
      · simp
      · simpa using ih (.escaped (c :: read)) (by simp)
      · simpa using ih (.inside (c :: read)) (by simp)
    | escaped read =>
      rw [tokensFrom_cons]
      simpa [Lexer.push] using ih (.inside (c :: read)) (by simp)

/-- Only blanks have no token. -/
theorem all_isBlank_of_tokens (text : Text) (h : tokens text = []) :
    text.all isBlank = true := by
  induction text with
  | nil => rfl
  | cons c rest ih =>
    by_cases hc : isBlank c = true
    · rw [tokens_blank c rest hc] at h
      rw [List.all_cons, hc, ih h]
      rfl
    · change tokensFrom .between (c :: rest) = [] at h
      rw [tokensFrom_cons] at h
      simp only [Lexer.push, Lexer.begin, hc] at h
      by_cases hquote : c = '"'
      · simp [hquote, tokensFrom_ne_nil] at h
      · cases hmark : mark? c with
        | some token => simp [hquote, hmark] at h
        | none => simp [hquote, hmark, tokensFrom_ne_nil] at h

theorem isGraphic_of_digit (c : Char) (h : isAsciiDigit c = true) : isGraphic c = true := by
  simp only [isAsciiDigit, Bool.and_eq_true, decide_eq_true_eq, Char.le_def,
    UInt32.le_iff_toNat_le] at h
  simp only [isGraphic, Bool.and_eq_true, decide_eq_true_eq, Char.toNat]
  have h0 : '0'.val.toNat = 48 := rfl
  have h9 : '9'.val.toNat = 57 := rfl
  omega

theorem all_graphic_of_digits (text : Text) (h : text.all isAsciiDigit = true) :
    text.all isGraphic = true := by
  rw [List.all_eq_true] at h ⊢
  exact fun c hc => isGraphic_of_digit c (h c hc)

theorem all_graphic_of_exponent (text : Text) (n : Int) (h : exponent? text = some n) :
    text.all isGraphic = true := by
  cases text with
  | nil => rfl
  | cons e rest =>
    dsimp only [exponent?] at h
    by_cases he : (e = 'e' || e = 'E') = true
    · have hexponent : isGraphic e = true := by
        simp only [Bool.or_eq_true, decide_eq_true_eq] at he
        rcases he with rfl | rfl <;> rfl
      have hall (digits : Text) (hdigits : ¬(digits.isEmpty || !digits.all isAsciiDigit) = true) :
          digits.all isAsciiDigit = true := by
        simp only [Bool.or_eq_true, Bool.not_eq_true', not_or, Bool.not_eq_false] at hdigits
        exact hdigits.2
      have hrest : ∃ sign digits, rest = sign ++ digits ∧ sign.all isGraphic = true ∧
          digits.all isAsciiDigit = true := by
        rw [if_pos he] at h
        split at h
        · rename_i digits
          split at h
          · contradiction
          · exact ⟨['-'], digits, rfl, rfl, hall digits ‹_›⟩
        · rename_i digits
          split at h
          · contradiction
          · exact ⟨['+'], digits, rfl, rfl, hall digits ‹_›⟩
        · split at h
          · contradiction
          · exact ⟨[], rest, rfl, rfl, hall rest ‹_›⟩
      obtain ⟨sign, digits, rfl, hsign, hdigits⟩ := hrest
      rw [List.all_cons, List.all_append, hexponent, hsign, all_graphic_of_digits digits hdigits]
      rfl
    · simp only [he] at h
      contradiction

theorem all_graphic_of_unsigned (negative : Bool) (text : Text) (v : Value)
    (h : unsigned? negative text = some v) : text.all isGraphic = true := by
  have hrun (text : Text) (hrest : (text.dropWhile isAsciiDigit).all isGraphic = true) :
      text.all isGraphic = true := by
    rw [← List.takeWhile_append_dropWhile (p := isAsciiDigit) (l := text), List.all_append, hrest,
      all_graphic_of_digits _ List.all_takeWhile]
    rfl
  apply hrun
  dsimp only [unsigned?] at h
  split at h
  · contradiction
  split at h
  · rename_i hnil
    rw [hnil]
    rfl
  · rename_i rest hpoint
    split at h
    · contradiction
    obtain ⟨n, hn, -⟩ := Option.map_eq_some_iff.1 h
    have hrest := hrun rest (all_graphic_of_exponent _ n hn)
    rw [hpoint, List.all_cons, hrest]
    rfl
  · obtain ⟨n, hn, -⟩ := Option.map_eq_some_iff.1 h
    exact all_graphic_of_exponent _ n hn

theorem all_graphic_of_number (word : Text) (v : Value) (h : number? word = some v) :
    word.all isGraphic = true := by
  unfold number? at h
  split at h
  · rename_i rest
    rw [List.all_cons, all_graphic_of_unsigned true rest v h]
    rfl
  · exact all_graphic_of_unsigned false word v h

theorem all_graphic_of_literal (word : Text) (v : Value) (h : literals.lookup word = some v) :
    word.all isGraphic = true := by
  have hmem : word ∈ literals.map (·.1) := by
    obtain ⟨before, after, hliterals, -⟩ := List.lookup_eq_some_iff.1 h
    simp [hliterals]
  have hall : ∀ name ∈ literals.map (·.1), name.all isGraphic = true := by decide
  exact hall word hmem

/-- A word with a character that is not graphic is neither a literal nor a number. -/
theorem ofWord_isRefused (word : Text) (c : Char) (hc : c ∈ word) (h : isGraphic c = false) :
    (Token.ofWord word).IsRefused := by
  have hall : word.all isGraphic = false := List.all_eq_false.2 ⟨c, hc, by simp [h]⟩
  have hliteral : literals.lookup word = none := by
    cases hv : literals.lookup word with
    | none => rfl
    | some v => simp [all_graphic_of_literal word v hv] at hall
  have hnumber : number? word = none := by
    cases hv : number? word with
    | none => rfl
    | some v => simp [all_graphic_of_number word v hv] at hall
  simp only [Token.ofWord, hliteral, hnumber, Option.or_none]
  split_ifs
  · exact Or.inr rfl
  · exact Or.inl rfl

/-- No blank is graphic. -/
theorem isGraphic_of_isBlankChar (c : Char) (h : Text.isBlankChar c = true) :
    isGraphic c = false := by
  by_contra hgraphic
  simp only [Bool.not_eq_false, isGraphic, Bool.and_eq_true, decide_eq_true_eq] at hgraphic
  obtain ⟨hlow, hhigh⟩ := hgraphic
  have hcovers : Text.isBlankChar c = false := by
    -- It would stand behind the second span of blanks and in front of the third.
    simp only [Text.isBlankChar, Text.blankSpans, Span.covers]
    rw [if_neg (by omega), if_neg (by omega), if_neg (by omega), if_neg (by omega),
      if_pos (by omega)]
  rw [hcovers] at h
  contradiction

theorem isBlankChar_of_isBlank (c : Char) (h : isBlank c = true) :
    Text.isBlankChar c = true := by
  simp only [isBlank, Bool.or_eq_true, decide_eq_true_eq] at h
  rcases h with ((rfl | rfl) | rfl) | rfl <;> rfl

/-- Of the characters that are not graphic only the blanks of JSON end a word. -/
theorem endsWord_of_not_graphic (c : Char) (h : isGraphic c = false) : endsWord c = isBlank c := by
  have hquote : c ≠ '"' := by
    rintro rfl
    exact absurd h (by decide)
  have hmark : mark? c = none := by
    unfold mark?
    split <;> first | rfl | exact absurd h (by decide)
  simp [endsWord, hquote, hmark]

end Quarry.Json
