import Quarry.Json.Printer
import Quarry.Proofs.Json.Lexing

/-! Strings as they are written. Quotes, backslashes and control characters are escaped, in a way that
is undone where the string is read, so every text comes back as it is. -/
namespace Quarry.Json

/-- What a character is written as in a string: an escape of one letter, its code in four hexadecimal
digits, or itself. -/
inductive WrittenAs (c : Char) : Text → Prop where
  | short (letter : Char) (h : shortEscape? letter = some c) : WrittenAs c ['\\', letter]
  | code (first second third fourth : Char)
    (h : hexUnit? first second third fourth = some c.toNat) :
    WrittenAs c ['\\', 'u', first, second, third, fourth]
  | itself (hquote : c ≠ '"') (hslash : c ≠ '\\') (hcontrol : 0x20 ≤ c.toNat) : WrittenAs c [c]

theorem writtenAs_escapeChar (c : Char) : WrittenAs c (escapeChar c) := by
  have hshort (letter d : Char) (hc : c = d) (h : shortEscape? letter = some d) :
      WrittenAs c ['\\', letter] := .short letter (by rw [hc, h])
  have hof (n : Nat) (h : c.toNat = n) : c = Char.ofNat n := by rw [← h, Char.ofNat_toNat]
  -- Codes of four digits are written for control characters alone, which are few enough to try.
  have hcode : ∀ n < 0x20, hexUnit? (Text.hexDigit (n / 16 / 16 / 16))
      (Text.hexDigit (n / 16 / 16)) (Text.hexDigit (n / 16)) (Text.hexDigit n) = some n := by decide
  unfold escapeChar
  split_ifs with hquote hslash hfeed hreturn htab hback hform hcontrol
  · exact hshort '"' _ hquote rfl
  · exact hshort '\\' _ hslash rfl
  · exact hshort 'n' _ hfeed rfl
  · exact hshort 'r' _ hreturn rfl
  · exact hshort 't' _ htab rfl
  · exact hshort 'b' _ (hof 8 hback) rfl
  · exact hshort 'f' _ (hof 12 hform) rfl
  · exact .code _ _ _ _ (hcode c.toNat hcontrol)
  · exact .itself hquote hslash (Nat.le_of_not_lt hcontrol)

/-- The digits of a code end no string and escape nothing. -/
theorem ne_of_hexUnit? (first second third fourth : Char) (unit : Nat)
    (h : hexUnit? first second third fourth = some unit) :
    ∀ c ∈ [first, second, third, fourth], c ≠ '"' ∧ c ≠ '\\' := by
  have hdigit (c : Char) (n : Nat) (hc : hexValue? c = some n) : c ≠ '"' ∧ c ≠ '\\' := by
    constructor
    · rintro rfl
      cases hc
    · rintro rfl
      cases hc
  simp only [hexUnit?, Option.bind_eq_bind, Option.bind_eq_some_iff] at h
  obtain ⟨a, ha, b, hb, d, hd, e, he, -⟩ := h
  simp only [List.forall_mem_cons]
  exact ⟨hdigit _ _ ha, hdigit _ _ hb, hdigit _ _ hd, hdigit _ _ he, by simp⟩

/-- Characters that neither end a string nor escape anything are a part of it. -/
theorem foldl_push_inside (found : List Token) (read run : Text)
    (hrun : ∀ c ∈ run, c ≠ '"' ∧ c ≠ '\\') : run.foldl Lexer.push ⟨found, .inside read⟩ =
      ⟨found, .inside (run.reverse ++ read)⟩ := by
  induction run generalizing read with
  | nil => rfl
  | cons c run ih =>
    obtain ⟨hc, hothers⟩ := List.forall_mem_cons.1 hrun
    have hpush : Lexer.push ⟨found, .inside read⟩ c = ⟨found, .inside (c :: read)⟩ := by
      simp only [Lexer.push, hc.1, hc.2, if_false]
    rw [List.foldl_cons, hpush, ih _ hothers]
    simp

section

variable (c : Char) (inside : Text) (h : WrittenAs c inside)

include h

/-- A character that is written is read as the same one. -/
theorem unescapeFrom?_written (read : List Nat) (rest : Text) :
    unescapeFrom? read (inside ++ rest) = unescapeFrom? (pushUnit read c.toNat) rest := by
  cases h with
  | short letter h =>
    have hletter : letter ≠ 'u' := by
      rintro rfl
      cases h
    simp [unescapeFrom?, h, hletter]
  | code first second third fourth h => simp [unescapeFrom?, h]
  | itself hquote hslash hcontrol =>
    have hnot : ¬c.toNat < 0x20 := Nat.not_lt.2 hcontrol
    simp [unescapeFrom?, hslash, hnot]

/-- A character that is written does not end the string. -/
theorem foldl_push_written (found : List Token) (read : Text) :
    inside.foldl Lexer.push ⟨found, .inside read⟩ = ⟨found, .inside (inside.reverse ++ read)⟩ := by
  cases h with
  | short letter h => rfl
  | code first second third fourth h =>
    have hdigits := foldl_push_inside found ('u' :: '\\' :: read) _
      (ne_of_hexUnit? first second third fourth _ h)
    refine Eq.trans ?_ (hdigits.trans ?_)
    · rfl
    · simp
  | itself hquote hslash hcontrol =>
    exact foldl_push_inside found read [c] (List.forall_mem_singleton.2 ⟨hquote, hslash⟩)

end

/-- A character is no surrogate, so it is neither joined to another one nor replaced. -/
theorem toNat_facts (c : Char) (read : List Nat) :
    pushUnit read c.toNat = c.toNat :: read ∧ charOfUnit c.toNat = c := by
  have hvalid : c.toNat < 0xD800 ∨ 0xDFFF < c.toNat := c.valid.imp id fun h => h.1
  constructor
  · cases read with
    | nil => rfl
    | cons high others =>
      have hlow : isLowSurrogate c.toNat = false := by
        simp only [isLowSurrogate, Bool.and_eq_false_iff, decide_eq_false_iff_not]
        omega
      simp only [pushUnit, hlow, Bool.and_false, Bool.false_eq_true, if_false]
  · rw [charOfUnit, if_neg, Char.ofNat_toNat]
    simp only [Bool.and_eq_true, decide_eq_true_eq]
    omega

theorem unescapeFrom?_escape (text : Text) (read : List Nat) :
    unescapeFrom? read (escape text) = some ((text.map Char.toNat).reverse ++ read) := by
  induction text generalizing read with
  | nil => simp [escape, unescapeFrom?]
  | cons c text ih =>
    rw [escape] at ih ⊢
    rw [List.flatMap_cons, unescapeFrom?_written c _ (writtenAs_escapeChar c), ih,
      (toNat_facts c read).1]
    simp

/-- What is written inside a string is read as the same text. -/
theorem unescape?_escape (text : Text) : unescape? (escape text) = some text := by
  have hchars : charOfUnit ∘ Char.toNat = id := funext fun c => (toNat_facts c []).2
  rw [unescape?, unescapeFrom?_escape, List.append_nil, Option.map_some, List.map_reverse,
    List.map_map, hchars, List.map_id, List.reverse_reverse]

theorem foldl_push_escape (found : List Token) (text read : Text) :
    (escape text).foldl Lexer.push ⟨found, .inside read⟩ =
      ⟨found, .inside ((escape text).reverse ++ read)⟩ := by
  induction text generalizing read with
  | nil => rfl
  | cons c text ih =>
    rw [escape] at ih ⊢
    rw [List.flatMap_cons, List.foldl_append,
      foldl_push_written c _ (writtenAs_escapeChar c) found read, ih]
    simp

/-- A text that is written is one token, which is the same text. -/
theorem scan_writeText (text : Text) : scan .between (writeText text) = ⟨[.text text], .between⟩ := by
  have hinside : Token.ofInside (escape text) = .text text := by
    rw [Token.ofInside, unescape?_escape]
  have hstart : Lexer.push ⟨[], .between⟩ '"' = ⟨[], .inside []⟩ := rfl
  rw [scan, writeText, List.cons_append, List.foldl_cons, hstart, List.foldl_append,
    foldl_push_escape, List.append_nil, List.foldl_cons, List.foldl_nil]
  simp only [Lexer.push, if_true, List.reverse_reverse, hinside]

end Quarry.Json
