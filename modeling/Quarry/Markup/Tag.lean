import Quarry.Text.Blank

/-! Where a start tag ends. Quoted attribute values may hold anything but their quote; a quote that
is never closed belongs to a value or to a name, or leaves the tag unfinished. -/
namespace Quarry.Markup

def isAsciiLetter (c : Char) : Bool := ('a' ≤ c && c ≤ 'z') || ('A' ≤ c && c ≤ 'Z')

/-- A character that a tag name can go on with. -/
def isTagNameChar (c : Char) : Bool :=
  !(c = '\t' || c = '\n' || c = '\r' || c.toNat = 12 || c = ' ' || c = '/' || c = '>' || c.toNat = 0)

/-- What may stand between attributes. -/
def isGap (c : Char) : Bool := Text.isBlankChar c || c = '/'

def isQuote (c : Char) : Bool := c = '"' || c = '\''

/-- A character that an attribute name can go on with. -/
def isAttributeChar (c : Char) : Bool :=
  !(Text.isBlankChar c || c = '/' || c = '=' || c = '>')

/-- A character that a value without quotes can hold. -/
def isBareChar (c : Char) : Bool := !(Text.isBlankChar c || c = '>')

/-- A place behind an attribute: the character before it, what follows, and the value that the
attribute has, which is empty where there is none. -/
structure Cursor where
  previous : Char
  rest : Text
  value : Text

/-- Skips a value without quotes. -/
def Cursor.skipBare (previous : Char) (text : Text) : Cursor :=
  let value := text.takeWhile isBareChar
  ⟨value.getLast?.getD previous, text.dropWhile isBareChar, value⟩

/-- Skips what follows an attribute name: equals signs and a value, if they are there. A quote
without a partner starts no value. Where a blank stands before it the value is empty; where there
are several equals signs the last of them starts a value without quotes; otherwise the attribute
has no value at all. -/
def Cursor.skipValue (cursor : Cursor) : Cursor :=
  match cursor.rest.dropWhile Text.isBlankChar with
  | '=' :: behind =>
    let afterSigns := behind.dropWhile (· = '=')
    match afterSigns.dropWhile Text.isBlankChar with
    | [] => ⟨'=', [], []⟩
    | c :: inside =>
      if isQuote c then
        if inside.contains c then
          ⟨c, (inside.dropWhile (· != c)).drop 1, inside.takeWhile (· != c)⟩
        else if (afterSigns.head?.map Text.isBlankChar).getD false then ⟨'=', afterSigns, []⟩
        else if behind.head? = some '=' then .skipBare '=' afterSigns
        else cursor
      else .skipBare '=' (c :: inside)
  | _ => cursor

theorem Cursor.length_skipValue_le (cursor : Cursor) :
    cursor.skipValue.rest.length ≤ cursor.rest.length := by
  unfold Cursor.skipValue
  split
  · rename_i behind h
    have outer := Text.length_dropWhile_le Text.isBlankChar cursor.rest
    rw [h, List.length_cons] at outer
    have signs := Text.length_dropWhile_le (· = '=') behind
    have blanks := Text.length_dropWhile_le Text.isBlankChar (behind.dropWhile (· = '='))
    simp only
    split
    · simp
    · rename_i c inside h'
      rw [h', List.length_cons] at blanks
      have bare := Text.length_dropWhile_le isBareChar (behind.dropWhile (· = '='))
      have bare' := Text.length_dropWhile_le isBareChar (c :: inside)
      have quoted := Text.length_dropWhile_le (· != c) inside
      rw [List.length_cons] at bare'
      split
      · split
        · simp only [List.length_drop]
          omega
        · split
          · simp only
            omega
          · split
            · simp only [Cursor.skipBare]
              omega
            · exact Nat.le_refl _
      · simp only [Cursor.skipBare]
        omega
  · exact Nat.le_refl _

/-- How a start tag goes on behind its name, with the values of its attributes, the last one
first. -/
inductive TagEnd where
  /-- It is complete, and closes its element at once if a slash stands before its end. -/
  | closed (selfClosing : Bool) (rest : Text) (values : List Text)
  /-- It may go on where the text ends. -/
  | unfinished
  /-- It is no tag: the text goes on here with a character that no tag can hold. -/
  | broken (rest : Text) (values : List Text)

/-- Skips an attribute, name and value, that starts with a character. -/
def Cursor.skipAttribute (first : Char) (after : Text) : Cursor :=
  Cursor.skipValue
    ⟨(after.takeWhile isAttributeChar).getLast?.getD first, after.dropWhile isAttributeChar, []⟩

theorem Cursor.length_skipAttribute_le (first : Char) (after : Text) :
    (Cursor.skipAttribute first after).rest.length ≤ after.length :=
  Nat.le_trans (Cursor.length_skipValue_le _) (Text.length_dropWhile_le isAttributeChar after)

/-- Finds the end of a start tag behind a gap, of which we know whether a slash ends it. An
attribute may start behind a gap that is not empty, and behind a quote. -/
def tagEndBehind (slash mayStart : Bool) (values : List Text) : Text → TagEnd
  | [] => .unfinished
  | c :: after =>
    if c = '>' then .closed slash after values
    -- The gap behind the attribute tells whether another one may follow.
    else if mayStart then
      let cursor := Cursor.skipAttribute c after
      let gap := cursor.rest.takeWhile isGap
      tagEndBehind (gap.getLast? == some '/') (!gap.isEmpty || isQuote cursor.previous)
        (cursor.value :: values) (cursor.rest.dropWhile isGap)
    else if isAsciiLetter c || c = '=' then .unfinished
    else .broken (c :: after) values
termination_by text => text.length
decreasing_by
  exact Nat.lt_succ_of_le (Nat.le_trans (Text.length_dropWhile_le isGap _)
    (Cursor.length_skipAttribute_le c after))

/-- Finds the end of a start tag behind its name. -/
def tagEnd (name text : Text) : TagEnd :=
  let gap := text.takeWhile isGap
  let previous := name.getLast?.getD '<'
  tagEndBehind (gap.getLast? == some '/')
    (!gap.isEmpty || isGap previous || isQuote previous) [] (text.dropWhile isGap)

/-- How much of a text is left behind a tag. -/
def TagEnd.left : TagEnd → Nat
  | .closed _ rest _ | .broken rest _ => rest.length
  | .unfinished => 0

theorem left_tagEndBehind_le (slash mayStart : Bool) (values : List Text) (text : Text) :
    (tagEndBehind slash mayStart values text).left ≤ text.length := by
  fun_induction tagEndBehind slash mayStart values text with
  | case1 => exact Nat.zero_le _
  | case2 slash mayStart values after => exact Nat.le_succ _
  | case3 slash values c after _ cursor gap ih =>
    have skipped := Text.length_dropWhile_le isGap cursor.rest
    have shorter := Cursor.length_skipAttribute_le c after
    exact Nat.le_succ_of_le (Nat.le_trans ih (Nat.le_trans skipped shorter))
  | case4 => exact Nat.zero_le _
  | case5 => exact Nat.le_refl _

/-- No tag leaves more text than there is behind its name. -/
theorem left_tagEnd_le (name text : Text) : (tagEnd name text).left ≤ text.length :=
  Nat.le_trans (left_tagEndBehind_le _ _ _ _) (Text.length_dropWhile_le isGap text)

end Quarry.Markup
