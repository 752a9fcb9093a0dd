import Quarry.Proofs.Json.Lexing
import Quarry.Proofs.Text.Returns
import Quarry.Json.Reader

/-! Carriage returns in JSON text. In front of a line feed one adds nothing: between tokens both are
blanks, and a string is no JSON with either of them. -/
namespace Quarry.Json

/-- A control character is in the text. -/
def HoldsControl (text : Text) : Prop := ∃ c ∈ text, c.toNat < 0x20

theorem holdsControl_reverse (text : Text) (h : HoldsControl text) : HoldsControl text.reverse := by
  obtain ⟨c, hmem, hc⟩ := h
  exact ⟨c, List.mem_reverse.2 hmem, hc⟩

theorem holdsControl_cons (c : Char) (text : Text) (h : HoldsControl text) :
    HoldsControl (c :: text) := by
  obtain ⟨d, hmem, hd⟩ := h
  exact ⟨d, List.mem_cons_of_mem c hmem, hd⟩

/-- No hexadecimal digit is a control character. -/
theorem hexValue?_of_control (c : Char) (hc : c.toNat < 0x20) : hexValue? c = none := by
  have hfrom (first : Char) (hfirst : 0x20 ≤ first.toNat) : ¬first ≤ c := by
    rw [Char.le_def, UInt32.le_iff_toNat_le]
    exact fun h => absurd (Nat.le_trans hfirst h) (by exact Nat.not_le.2 hc)
  simp [hexValue?, hfrom '0' (by decide), hfrom 'a' (by decide), hfrom 'A' (by decide)]

theorem hexUnit?_of_control (a b c d : Char) (h : HoldsControl [a, b, c, d]) :
    hexUnit? a b c d = none := by
  obtain ⟨e, hmem, he⟩ := h
  have hnone := hexValue?_of_control e he
  simp only [List.mem_cons, List.not_mem_nil, or_false] at hmem
  rcases hmem with rfl | rfl | rfl | rfl
  · simp [hexUnit?, hnone]
  · simp [hexUnit?, hnone]
  · simp [hexUnit?, hnone]
  · simp [hexUnit?, hnone]

theorem shortEscape?_of_control (c : Char) (hc : c.toNat < 0x20) : shortEscape? c = none := by
  unfold shortEscape?
  split <;> simp_all

/-- A string with a control character in it denotes no text, escaped or not. -/
theorem unescapeFrom?_of_control (read : List Nat) (inside : Text) (h : HoldsControl inside) :
    unescapeFrom? read inside = none := by
  obtain ⟨control, hmem, hcontrol⟩ := h
  have hne (c : Char) (hc : 0x20 ≤ c.toNat) : control ≠ c := by
    rintro rfl
    exact absurd hcontrol (Nat.not_lt.2 hc)
  fun_induction unescapeFrom? read inside with
  | case1 => cases hmem
  | case2 read a b c d rest unit hunit ih =>
    -- The four digits are none, so the character stands behind them.
    have hdigits : control ∉ [a, b, c, d] := by
      intro hdigit
      rw [hexUnit?_of_control a b c d ⟨control, hdigit, hcontrol⟩] at hunit
      cases hunit
    have hsplit : '\\' :: 'u' :: a :: b :: c :: d :: rest = ['\\', 'u'] ++ [a, b, c, d] ++ rest := rfl
    rw [hsplit, List.mem_append, List.mem_append] at hmem
    rcases hmem with (hmem | hmem) | hmem
    · simp [hne '\\' (by decide), hne 'u' (by decide)] at hmem
    · exact absurd hmem hdigits
    · exact ih hmem
  | case3 => rfl
  | case4 read c rest _ e he ih =>
    rcases List.mem_cons.1 hmem with hslash | hmem
    · exact absurd hslash (hne '\\' (by decide))
    rcases List.mem_cons.1 hmem with rfl | hmem
    · rw [shortEscape?_of_control _ hcontrol] at he
      cases he
    · exact ih hmem
  | case5 => rfl
  | case6 => rfl
  | case7 read c rest _ _ hplain ih =>
    rcases List.mem_cons.1 hmem with rfl | hmem
    · simp [hcontrol] at hplain
    · exact ih hmem

theorem ofInside_of_control (read : Text) (h : HoldsControl read) :
    Token.ofInside read.reverse = .malformed := by
  have hnone := unescapeFrom?_of_control [] read.reverse (holdsControl_reverse read h)
  rw [Token.ofInside, unescape?, hnone]
  rfl

/-- Modes from which a lexer finds the same tokens. In a string the characters read may differ, where
a control character is among them both times. -/
inductive Mode.Alike : Mode → Mode → Prop
  | same (mode : Mode) : Alike mode mode
  | inside (read other : Text) (h : HoldsControl read) (hother : HoldsControl other) :
      Alike (.inside read) (.inside other)
  | escaped (read other : Text) (h : HoldsControl read) (hother : HoldsControl other) :
      Alike (.escaped read) (.escaped other)

theorem Mode.Alike.push {mode other : Mode} (h : mode.Alike other) (c : Char) :
    (Lexer.push ⟨[], other⟩ c).tokens = (Lexer.push ⟨[], mode⟩ c).tokens ∧
      (Lexer.push ⟨[], mode⟩ c).mode.Alike (Lexer.push ⟨[], other⟩ c).mode := by
  cases h with
  | same => exact ⟨rfl, .same _⟩
  | inside read other h hother =>
    simp only [Lexer.push]
    split_ifs
    · rw [ofInside_of_control read h, ofInside_of_control other hother]
      exact ⟨rfl, .same _⟩
    · exact ⟨rfl, .escaped _ _ (holdsControl_cons c read h) (holdsControl_cons c other hother)⟩
    · exact ⟨rfl, .inside _ _ (holdsControl_cons c read h) (holdsControl_cons c other hother)⟩
  | escaped read other h hother =>
    exact ⟨rfl, .inside _ _ (holdsControl_cons c read h) (holdsControl_cons c other hother)⟩

/-- What is found behind a line feed is found behind a carriage return and a line feed as well. -/
theorem Mode.Alike.feed {mode other : Mode} (h : mode.Alike other) :
    ∃ found behind further, behind.Alike further ∧
      (∀ rest, tokensFrom mode ('\n' :: rest) = found ++ tokensFrom behind rest) ∧
      ∀ rest, tokensFrom other ('\r' :: '\n' :: rest) = found ++ tokensFrom further rest := by
  have hfeed (read : Text) : HoldsControl ('\n' :: read) := ⟨'\n', List.mem_cons_self, by decide⟩
  have hinside (read other : Text) : Alike (.inside ('\n' :: read)) (.inside ('\n' :: '\r' :: other)) :=
    .inside _ _ (hfeed read) (hfeed ('\r' :: other))
  -- In a string both are control characters, elsewhere both are blanks.
  cases h with
  | inside read other =>
    exact ⟨[], _, _, hinside read other, fun rest => tokensFrom_cons (.inside read) '\n' rest,
      fun rest => tokensFrom_append (.inside other) ['\r', '\n'] rest⟩
  | escaped read other =>
    exact ⟨[], _, _, hinside read other, fun rest => tokensFrom_cons (.escaped read) '\n' rest,
      fun rest => tokensFrom_append (.escaped other) ['\r', '\n'] rest⟩
  | same =>
    cases mode with
    | between =>
      exact ⟨[], .between, .between, .same _, fun rest => tokensFrom_cons .between '\n' rest,
        fun rest => tokensFrom_append .between ['\r', '\n'] rest⟩
    | word read =>
      exact ⟨[.ofWord read.reverse], .between, .between, .same _,
        fun rest => tokensFrom_cons (.word read) '\n' rest,
        fun rest => tokensFrom_append (.word read) ['\r', '\n'] rest⟩
    | inside read =>
      exact ⟨[], _, _, hinside read read, fun rest => tokensFrom_cons (.inside read) '\n' rest,
        fun rest => tokensFrom_append (.inside read) ['\r', '\n'] rest⟩
    | escaped read =>
      exact ⟨[], _, _, hinside read read, fun rest => tokensFrom_cons (.escaped read) '\n' rest,
        fun rest => tokensFrom_append (.escaped read) ['\r', '\n'] rest⟩

theorem tokensFrom_of_returned (text returned : Text) (h : Text.Returned text returned)
    (mode other : Mode) (hmode : mode.Alike other) :
    tokensFrom other returned = tokensFrom mode text := by
  induction h generalizing mode other with
  | done => cases hmode <;> rfl
  | keep c text returned _ ih =>
    obtain ⟨htokens, hbehind⟩ := hmode.push c
    rw [tokensFrom_cons, tokensFrom_cons, htokens, ih _ _ hbehind]
  | feed text returned _ ih =>
    obtain ⟨found, behind, further, halike, hbehind, hfurther⟩ := hmode.feed
    rw [hbehind, hfurther, ih _ _ halike]

/-- A text and the same text with carriage returns in front of its line feeds are read alike. -/
theorem read_of_returned (text returned : Text) (h : Text.Returned text returned) :
    read returned = read text := by
  have htokens : tokens returned = tokens text :=
    tokensFrom_of_returned text returned h .between .between (.same _)
  rw [read, htokens, read]

end Quarry.Json
