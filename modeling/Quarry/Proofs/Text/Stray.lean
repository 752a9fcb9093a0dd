import Quarry.Text.Utf8

/-! UTF-8 among octets that belong to no character. Wherever such octets stand between characters,
what is read is the text without them. -/
namespace Quarry.Utf8

/-- An octet that is no character and that no character starts with. -/
def IsStray (octet : UInt8) : Prop :=
  0x80 ≤ octet.toNat ∧ octet.toNat ≤ 0xC1 ∨ 0xF5 ≤ octet.toNat

/-- The octets of a text with any number of stray octets in front of its characters, between them
and behind them. -/
inductive Strewn : Text → List UInt8 → Prop
  | done : Strewn [] []
  | stray (octet : UInt8) (text : Text) (octets : List UInt8) (h : IsStray octet)
      (rest : Strewn text octets) : Strewn text (octet :: octets)
  | char (c : Char) (text : Text) (octets : List UInt8) (rest : Strewn text octets) :
      Strewn (c :: text) (String.utf8EncodeChar c ++ octets)

section

variable (read : Text)

theorem push_stray (octet : UInt8) (h : IsStray octet) :
    Decoder.push ⟨read, none⟩ octet = ⟨read, none⟩ := by
  have hstart : Decoder.push ⟨read, none⟩ octet = .start read octet.toNat := rfl
  have hnone : Unfinished.start? octet.toNat = none := by
    rcases h with ⟨-, h⟩ | h
    · rw [Unfinished.start?, if_pos (by omega)]
    · rw [Unfinished.start?, if_neg (by omega), if_neg (by omega), if_neg (by omega),
        if_neg (by omega), if_neg (by omega), if_neg (by omega), if_neg (by omega),
        if_neg (by omega)]
  have hhigh : ¬octet.toNat < 0x80 := by
    rcases h with h | h <;> omega
  rw [hstart, Decoder.start, if_neg hhigh, hnone]

/-- An octet that starts a character leaves it under way. -/
theorem push_first (octet : UInt8) (begun : Unfinished) (hhigh : 0x80 ≤ octet.toNat)
    (h : Unfinished.start? octet.toNat = some begun) :
    Decoder.push ⟨read, none⟩ octet = ⟨read, some begun⟩ := by
  have hstart : Decoder.push ⟨read, none⟩ octet = .start read octet.toNat := rfl
  rw [hstart, Decoder.start, if_neg (by omega), h]

theorem push_last (n least most : Nat) (octet : UInt8) (hoctet : octet.toNat = n % 64 + 0x80)
    (hl : least ≤ octet.toNat) (hm : octet.toNat ≤ most) :
    Decoder.push ⟨read, some ⟨n / 64, least, most, 0⟩⟩ octet = ⟨Char.ofNat n :: read, none⟩ := by
  have hvalue : n / 64 * 64 + octet.toNat % 64 = n := by omega
  simp only [Decoder.push, hl, hm, decide_true, Bool.and_self, if_true, hvalue]

/-- An octet in the middle of a character adds six bits to it. -/
theorem push_next (n least most more : Nat) (octet : UInt8)
    (hoctet : octet.toNat = n % 64 + 0x80) (hl : least ≤ octet.toNat) (hm : octet.toNat ≤ most) :
    Decoder.push ⟨read, some ⟨n / 64, least, most, more + 1⟩⟩ octet =
      ⟨read, some ⟨n, 0x80, 0xBF, more⟩⟩ := by
  have hvalue : n / 64 * 64 + octet.toNat % 64 = n := by omega
  simp only [Decoder.push, hl, hm, decide_true, Bool.and_self, if_true, hvalue]

end

section

variable (n : Nat)

theorem toNat_tail : (UInt8.ofNat (n % 64 + 0x80)).toNat = n % 64 + 0x80 :=
  UInt8.toNat_ofNat_of_lt (by simp only [UInt8.size]; omega)

/-- The first of three octets leaves a range in which the second one is: overlong forms and
surrogates start with 0xE0 and 0xED. -/
theorem start?_three (octet : UInt8) (hoctet : octet.toNat = n / 4096 % 16 + 0xE0)
    (hl : 0x800 ≤ n) (hm : n ≤ 0xFFFF) (hvalid : n.isValidChar) :
    ∃ least most, Unfinished.start? octet.toNat = some ⟨n / 64 / 64, least, most, 1⟩ ∧
      least ≤ n / 64 % 64 + 0x80 ∧ n / 64 % 64 + 0x80 ≤ most := by
  unfold Nat.isValidChar at hvalid
  have hdiv : n / 64 / 64 = n / 4096 := Nat.div_div_eq_div_mul n 64 64
  rw [hdiv, Unfinished.start?, if_neg (by omega), if_neg (by omega)]
  by_cases hlow : octet.toNat = 0xE0
  · have hvalue : n / 4096 = 0 := by omega
    rw [if_pos hlow, hvalue]
    exact ⟨0xA0, 0xBF, rfl, by omega, by omega⟩
  by_cases hsurrogate : octet.toNat = 0xED
  · have hvalue : n / 4096 = 13 := by omega
    rw [if_neg hlow, if_pos hsurrogate, hvalue]
    exact ⟨0x80, 0x9F, rfl, by omega, by omega⟩
  · have hvalue : octet.toNat % 16 = n / 4096 := by omega
    rw [if_neg hlow, if_neg hsurrogate, if_pos (by omega), hvalue]
    exact ⟨0x80, 0xBF, rfl, by omega, by omega⟩

/-- The first of four octets leaves a range in which the second one is: overlong forms start with
0xF0, and what lies beyond all characters with 0xF4. -/
theorem start?_four (octet : UInt8) (hoctet : octet.toNat = n / 262144 % 8 + 0xF0)
    (hl : 0x10000 ≤ n) (hm : n < 0x110000) :
    ∃ least most, Unfinished.start? octet.toNat = some ⟨n / 64 / 64 / 64, least, most, 2⟩ ∧
      least ≤ n / 64 / 64 % 64 + 0x80 ∧ n / 64 / 64 % 64 + 0x80 ≤ most := by
  have hdiv : n / 64 / 64 / 64 = n / 262144 := by
    rw [Nat.div_div_eq_div_mul, Nat.div_div_eq_div_mul]
  rw [hdiv, Unfinished.start?, if_neg (by omega), if_neg (by omega), if_neg (by omega),
    if_neg (by omega), if_neg (by omega)]
  by_cases hlow : octet.toNat = 0xF0
  · have hvalue : n / 262144 = 0 := by omega
    rw [if_pos hlow, hvalue]
    exact ⟨0x90, 0xBF, rfl, by omega, by omega⟩
  by_cases hhigh : octet.toNat < 0xF4
  · have hvalue : octet.toNat % 8 = n / 262144 := by omega
    rw [if_neg hlow, if_pos hhigh, hvalue]
    exact ⟨0x80, 0xBF, rfl, by omega, by omega⟩
  · have hvalue : n / 262144 = 4 := by omega
    rw [if_neg hlow, if_neg hhigh, if_pos (by omega), hvalue]
    exact ⟨0x80, 0x8F, rfl, by omega, by omega⟩

variable (read : Text)

theorem foldl_push_one (h : n ≤ 0x7F) :
    [UInt8.ofNat n].foldl Decoder.push ⟨read, none⟩ = ⟨Char.ofNat n :: read, none⟩ := by
  have hoctet : (UInt8.ofNat n).toNat = n :=
    UInt8.toNat_ofNat_of_lt (by simp only [UInt8.size]; omega)
  have hstart : Decoder.push ⟨read, none⟩ (.ofNat n) = .start read (UInt8.ofNat n).toNat := rfl
  rw [List.foldl_cons, List.foldl_nil, hstart, hoctet, Decoder.start, if_pos (by omega)]

theorem foldl_push_two (hl : 0x80 ≤ n) (hm : n ≤ 0x7FF) :
    [UInt8.ofNat (n / 64 % 32 + 0xC0), UInt8.ofNat (n % 64 + 0x80)].foldl Decoder.push
      ⟨read, none⟩ = ⟨Char.ofNat n :: read, none⟩ := by
  have hfirst : (UInt8.ofNat (n / 64 % 32 + 0xC0)).toNat = n / 64 % 32 + 0xC0 :=
    UInt8.toNat_ofNat_of_lt (by simp only [UInt8.size]; omega)
  have hlast := toNat_tail n
  -- Only the values of the octets count from here on.
  generalize UInt8.ofNat (n / 64 % 32 + 0xC0) = first at hfirst ⊢
  generalize UInt8.ofNat (n % 64 + 0x80) = last at hlast ⊢
  have hvalue : first.toNat % 32 = n / 64 := by omega
  have hstart : Unfinished.start? first.toNat = some ⟨n / 64, 0x80, 0xBF, 0⟩ := by
    rw [Unfinished.start?, if_neg (by omega), if_pos (by omega), hvalue]
  calc [first, last].foldl Decoder.push ⟨read, none⟩
    _ = Decoder.push (Decoder.push ⟨read, none⟩ first) last := rfl
    _ = Decoder.push ⟨read, some ⟨n / 64, 0x80, 0xBF, 0⟩⟩ last := by
      rw [push_first read first _ (by omega) hstart]
    _ = ⟨Char.ofNat n :: read, none⟩ := push_last read n _ _ last hlast (by omega) (by omega)

theorem foldl_push_three (hl : 0x800 ≤ n) (hm : n ≤ 0xFFFF) (hvalid : n.isValidChar) :
    [UInt8.ofNat (n / 4096 % 16 + 0xE0), UInt8.ofNat (n / 64 % 64 + 0x80),
      UInt8.ofNat (n % 64 + 0x80)].foldl Decoder.push ⟨read, none⟩ =
        ⟨Char.ofNat n :: read, none⟩ := by
  have hfirst : (UInt8.ofNat (n / 4096 % 16 + 0xE0)).toNat = n / 4096 % 16 + 0xE0 :=
    UInt8.toNat_ofNat_of_lt (by simp only [UInt8.size]; omega)
  have hsecond := toNat_tail (n / 64)
  have hlast := toNat_tail n
  generalize UInt8.ofNat (n / 4096 % 16 + 0xE0) = first at hfirst ⊢
  generalize UInt8.ofNat (n / 64 % 64 + 0x80) = second at hsecond ⊢
  generalize UInt8.ofNat (n % 64 + 0x80) = last at hlast ⊢
  obtain ⟨least, most, hstart, hleast, hmost⟩ := start?_three n first hfirst hl hm hvalid
  calc [first, second, last].foldl Decoder.push ⟨read, none⟩
    _ = Decoder.push (Decoder.push (Decoder.push ⟨read, none⟩ first) second) last := rfl
    _ = Decoder.push (Decoder.push ⟨read, some ⟨n / 64 / 64, least, most, 1⟩⟩ second) last := by
      rw [push_first read first _ (by omega) hstart]
    _ = Decoder.push ⟨read, some ⟨n / 64, 0x80, 0xBF, 0⟩⟩ last := by
      rw [push_next read (n / 64) _ _ 0 second hsecond (by omega) (by omega)]
    _ = ⟨Char.ofNat n :: read, none⟩ := push_last read n _ _ last hlast (by omega) (by omega)

theorem foldl_push_four (hl : 0x10000 ≤ n) (hm : n < 0x110000) :
    [UInt8.ofNat (n / 262144 % 8 + 0xF0), UInt8.ofNat (n / 64 / 64 % 64 + 0x80),
      UInt8.ofNat (n / 64 % 64 + 0x80), UInt8.ofNat (n % 64 + 0x80)].foldl Decoder.push
        ⟨read, none⟩ = ⟨Char.ofNat n :: read, none⟩ := by
  have hfirst : (UInt8.ofNat (n / 262144 % 8 + 0xF0)).toNat = n / 262144 % 8 + 0xF0 :=
    UInt8.toNat_ofNat_of_lt (by simp only [UInt8.size]; omega)
  have hsecond := toNat_tail (n / 64 / 64)
  have hthird := toNat_tail (n / 64)
  have hlast := toNat_tail n
  generalize UInt8.ofNat (n / 262144 % 8 + 0xF0) = first at hfirst ⊢
  generalize UInt8.ofNat (n / 64 / 64 % 64 + 0x80) = second at hsecond ⊢
  generalize UInt8.ofNat (n / 64 % 64 + 0x80) = third at hthird ⊢
  generalize UInt8.ofNat (n % 64 + 0x80) = last at hlast ⊢
  obtain ⟨least, most, hstart, hleast, hmost⟩ := start?_four n first hfirst hl hm
  calc [first, second, third, last].foldl Decoder.push ⟨read, none⟩
    _ = Decoder.push (Decoder.push (Decoder.push (Decoder.push ⟨read, none⟩ first) second)
          third) last := rfl
    _ = Decoder.push (Decoder.push (Decoder.push ⟨read, some ⟨n / 64 / 64 / 64, least, most, 2⟩⟩
          second) third) last := by
      rw [push_first read first _ (by omega) hstart]
    _ = Decoder.push (Decoder.push ⟨read, some ⟨n / 64 / 64, 0x80, 0xBF, 1⟩⟩ third) last := by
      rw [push_next read (n / 64 / 64) _ _ 1 second hsecond (by omega) (by omega)]
    _ = Decoder.push ⟨read, some ⟨n / 64, 0x80, 0xBF, 0⟩⟩ last := by
      rw [push_next read (n / 64) _ _ 0 third hthird (by omega) (by omega)]
    _ = ⟨Char.ofNat n :: read, none⟩ := push_last read n _ _ last hlast (by omega) (by omega)

end

theorem foldl_push_char (read : Text) (c : Char) :
    (String.utf8EncodeChar c).foldl Decoder.push ⟨read, none⟩ = ⟨c :: read, none⟩ := by
  have hvalid : c.toNat.isValidChar := c.valid
  have hmost : c.toNat < 0x110000 := by
    rcases hvalid with h | h <;> omega
  have hc : Char.ofNat c.toNat = c := Char.ofNat_toNat c
  have hdiv : c.toNat / 4096 = c.toNat / 64 / 64 := (Nat.div_div_eq_div_mul c.toNat 64 64).symm
  -- By the number of its octets.
  by_cases hone : c.toNat ≤ 0x7F
  · have hencode : String.utf8EncodeChar c = [.ofNat c.toNat] := if_pos hone
    rw [hencode, foldl_push_one _ read hone, hc]
  by_cases htwo : c.toNat ≤ 0x7FF
  · have hencode : String.utf8EncodeChar c =
        [.ofNat (c.toNat / 64 % 32 + 0xC0), .ofNat (c.toNat % 64 + 0x80)] :=
      (if_neg hone).trans (if_pos htwo)
    rw [hencode, foldl_push_two _ read (by omega) htwo, hc]
  by_cases hthree : c.toNat ≤ 0xFFFF
  · have hencode : String.utf8EncodeChar c = [.ofNat (c.toNat / 4096 % 16 + 0xE0),
        .ofNat (c.toNat / 64 % 64 + 0x80), .ofNat (c.toNat % 64 + 0x80)] :=
      (if_neg hone).trans ((if_neg htwo).trans (if_pos hthree))
    rw [hencode, foldl_push_three _ read (by omega) hthree hvalid, hc]
  · have hencode : String.utf8EncodeChar c = [.ofNat (c.toNat / 262144 % 8 + 0xF0),
        .ofNat (c.toNat / 4096 % 64 + 0x80), .ofNat (c.toNat / 64 % 64 + 0x80),
        .ofNat (c.toNat % 64 + 0x80)] :=
      (if_neg hone).trans ((if_neg htwo).trans (if_neg hthree))
    rw [hencode, hdiv, foldl_push_four _ read (by omega) hmost, hc]

theorem foldl_push_strewn (read text : Text) (octets : List UInt8) (h : Strewn text octets) :
    octets.foldl Decoder.push ⟨read, none⟩ = ⟨text.reverse ++ read, none⟩ := by
  induction h generalizing read with
  | done => rfl
  | stray octet text octets hstray _ ih => rw [List.foldl_cons, push_stray read octet hstray, ih]
  | char c text octets _ ih =>
    rw [List.foldl_append, foldl_push_char, ih, List.reverse_cons, List.append_assoc]
    rfl

theorem decode_strewn (text : Text) (octets : List UInt8) (h : Strewn text octets) :
    decode octets = text := by
  rw [decode, foldl_push_strewn [] text octets h, List.append_nil, List.reverse_reverse]

end Quarry.Utf8
