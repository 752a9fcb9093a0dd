import Quarry.Text.Basic

/-! Text as the system hands it over. Besides characters it may hold halves of surrogate pairs that
stand alone, which are no characters and can be written nowhere. -/
namespace Quarry

/-- A code point: a character, or half of a surrogate pair, by its place among the halves. -/
inductive Point where
  | char (c : Char)
  | half (place : Fin 0x800)
  deriving DecidableEq, Repr

def Point.char? : Point → Option Char
  | .char c => some c
  | .half _ => none

/-- Text in which halves of surrogate pairs may stand alone. -/
abbrev RawText := List Point

namespace RawText

def ofText (text : Text) : RawText := text.map .char

/-- The text itself, if there are only characters in it. -/
def text? (raw : RawText) : Option Text := raw.mapM Point.char?

theorem text?_cons (point : Point) (rest : RawText) :
    text? (point :: rest) = point.char?.bind fun c => (text? rest).map (c :: ·) := by
  cases point with
  | half place => rfl
  | char c => cases h : text? rest <;> simp_all [text?, Point.char?]

@[simp] theorem text?_ofText (text : Text) : (ofText text).text? = some text := by
  induction text with
  | nil => rfl
  | cons c rest ih =>
    rw [ofText] at ih
    rw [ofText, List.map_cons, text?_cons, ih]
    rfl

/-- Only what is made of a text is one. -/
theorem eq_ofText (raw : RawText) (text : Text) (h : raw.text? = some text) :
    raw = ofText text := by
  induction raw generalizing text with
  | nil =>
    obtain rfl : [] = text := Option.some.inj h
    rfl
  | cons point rest ih =>
    rw [text?_cons, Option.bind_eq_some_iff] at h
    obtain ⟨c, hc, hrest⟩ := h
    obtain ⟨others, hothers, rfl⟩ := Option.map_eq_some_iff.1 hrest
    cases point with
    | half place => cases hc
    | char found =>
      obtain rfl : found = c := Option.some.inj hc
      rw [ih others hothers, ofText, ofText, List.map_cons]

end RawText
end Quarry
