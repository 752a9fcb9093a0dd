import Quarry.Number.Integer
import Quarry.Proofs.Text.Digits
import Quarry.Proofs.Text.Lowered
import Quarry.Proofs.Text.Pieces

/-! An integer that is written with decimal digits is read back. -/
namespace Quarry.Integer

/-- Neither a digit nor a minus sign counts as a margin. -/
theorem isMargin_of_written (c : Char) (h : c.isDigit = true ∨ c = '-') : isMargin c = false := by
  have hascii : c.toNat < 128 := by
    rcases h with hdigit | rfl
    · have hlast : c.toNat ≤ '9'.toNat := by
        simp only [Char.isDigit, Bool.and_eq_true, decide_eq_true_eq] at hdigit
        exact hdigit.2
      exact Nat.lt_of_le_of_lt hlast (by decide)
    · decide
  exact Text.of_ascii (motive := fun c => c.isDigit = true ∨ c = '-' → isMargin c = false)
    (by decide +kernel) c hascii h

section

variable (text : Text)

theorem trimmed_of_no_margin (h : ∀ c ∈ text, isMargin c = false) :
    ((text.dropWhile isMargin).reverse.dropWhile isMargin).reverse = text := by
  have hkept (run : Text) (hrun : ∀ c ∈ run, isMargin c = false) : run.dropWhile isMargin = run := by
    cases run with
    | nil => rfl
    | cons c run => simp [hrun c]
  rw [hkept text h, hkept text.reverse fun c hc => h c (List.mem_reverse.1 hc),
    List.reverse_reverse]

theorem mapM_digitValue? (h : ∀ c ∈ text, c.isDigit = true) :
    text.mapM Text.digitValue? = some (text.map fun c => c.toNat - '0'.toNat) := by
  induction text with
  | nil => rfl
  | cons c text ih =>
    rw [List.mapM_cons, Text.digitValue?_of_ascii c (h c (by simp)),
      ih fun d hd => h d (List.mem_cons_of_mem c hd)]
    rfl

theorem digits?_of_ascii (hne : text ≠ []) (h : ∀ c ∈ text, c.isDigit = true)
    (hlength : text.length ≤ digitLimit) :
    digits? text = some (text.map fun c => c.toNat - '0'.toNat) := by
  have hunderscore : '_' ∉ text := fun hmem => absurd (h '_' hmem) (by decide)
  rw [digits?, Text.cut_eq_singleton '_' text hunderscore]
  simp [hne, mapM_digitValue? text h, hlength]

end

/-- An integer that is written with no more digits than are read. -/
def IsWritable (n : Int) : Prop := (Text.ofNat n.natAbs).length ≤ digitLimit

instance (n : Int) : Decidable (IsWritable n) :=
  inferInstanceAs (Decidable ((Text.ofNat n.natAbs).length ≤ digitLimit))

theorem exists_digits_ofNat (n : Nat) (h : (Text.ofNat n).length ≤ digitLimit) :
    ∃ digits, digits? (Text.ofNat n) = some digits ∧ ofDigits digits = n := by
  refine ⟨_, digits?_of_ascii _ (Text.ofNat_ne_nil n) (Text.isAsciiDigit_of_mem_ofNat n) h, ?_⟩
  calc ofDigits ((Text.ofNat n).map fun c => c.toNat - '0'.toNat)
    _ = Nat.ofDigitChars 10 (Text.ofNat n) 0 := by
      rw [ofDigits, List.foldl_map, Nat.ofDigitChars]
    _ = n := Nat.ofDigitChars_ten_toDigits

/-- An integer is read from its decimal digits. -/
theorem read?_ofInt (n : Int) (h : IsWritable n) : read? (Text.ofInt n) = some n := by
  have hmargin : ∀ c ∈ Text.ofInt n, isMargin c = false := by
    intro c hc
    apply isMargin_of_written
    cases n with
    | ofNat m => exact .inl (Text.isAsciiDigit_of_mem_ofNat m c hc)
    | negSucc m =>
      rcases List.mem_cons.1 hc with rfl | hc
      · exact .inr rfl
      · exact .inl (Text.isAsciiDigit_of_mem_ofNat (m + 1) c hc)
  rw [read?, trimmed_of_no_margin _ hmargin]
  cases n with
  | ofNat m =>
    obtain ⟨digits, hdigits, hvalue⟩ := exists_digits_ofNat m h
    have hsign (c : Char) (rest : Text) (htext : Text.ofNat m = c :: rest) : c.isDigit = true :=
      Text.isAsciiDigit_of_mem_ofNat m c (by simp [htext])
    -- The first character is a digit, and no sign.
    rw [Text.ofInt]
    split
    · rename_i rest htext
      exact absurd (hsign '-' rest htext) (by decide)
    · rename_i rest htext
      exact absurd (hsign '+' rest htext) (by decide)
    · rw [hdigits, Option.map_some, hvalue]
      rfl
  | negSucc m =>
    obtain ⟨digits, hdigits, hvalue⟩ := exists_digits_ofNat (m + 1) h
    show (digits? (Text.ofNat (m + 1))).map (fun digits => -(ofDigits digits : Int)) = _
    rw [hdigits, Option.map_some, hvalue]
    rfl

end Quarry.Integer
