import Quarry.Markup.Entity
import Quarry.Markup.Refusal
import Quarry.Markup.Tag
import Quarry.Text.Case

/-! The tokens of markup: text, start tags, end tags, sections of character data, and asides such
as comments, which show nothing but keep texts apart. Markup that the end of the input leaves
unfinished is text; whether it is unfinished is decided in a second pass from that place on. -/
namespace Quarry.Markup

inductive Token where
  | text (t : Text)
  | start (name : Text) (selfClosing : Bool)
  | finish (name : Text)
  /-- The content of a section of character data. -/
  | data (t : Text)
  | aside
  deriving DecidableEq, Repr

/-- The text behind the first occurrence of a character. -/
def behind? (mark : Char) (text : Text) : Option Text :=
  match text.dropWhile (· != mark) with
  | [] => none
  | _ :: rest => some rest

/-- The text behind the end of a comment: two dashes, any blanks, and a right angle bracket. -/
def commentEnd? : Text → Option Text
  | [] => none
  | c :: rest =>
    if c = '-' && rest.head? = some '-' then
      match (rest.drop 1).dropWhile Text.isBlankChar with
      | '>' :: after => some after
      | _ => commentEnd? rest
    else commentEnd? rest

/-- A character of an end tag's name, where nothing but blanks follows the name. -/
def isPlainNameChar (c : Char) : Bool :=
  isAsciiLetter c || ('0' ≤ c && c ≤ '9') || c = '-' || c = '.' || c = ':' || c = '_'

/-- The name of an end tag that holds nothing else, from the text behind its slash. -/
def plainEndName? (text : Text) : Option Text :=
  let text := text.dropWhile Text.isBlankChar
  let name := text.takeWhile isPlainNameChar
  if (name.head?.map isAsciiLetter).getD false &&
      ((text.dropWhile isPlainNameChar).dropWhile Text.isBlankChar).head? = some '>'
  then some (Text.lower name) else none

/-- The token of an end tag, from the text behind its slash up to its end. An end tag without a
name is nothing at all, and one with a name that is no name is an aside. -/
def endToken (text : Text) : List Token :=
  match plainEndName? text, text with
  | some name, _ => [.finish name]
  | none, c :: rest =>
    if isAsciiLetter c then [.finish (Text.lower (c :: rest.takeWhile isTagNameChar))]
    else if c = '>' then []
    else [.aside]
  | none, [] => []

/-- Elements whose content is no markup. -/
def rawNames : List Text := ["script".toList, "style".toList]

/-- Cuts the content of such an element at its end tag, behind what is read of it, which comes
last first. -/
def rawContent? (name read : Text) : Text → Option (Text × Text)
  | [] => none
  | c :: rest =>
    if c = '<' && rest.head? = some '/' && plainEndName? (rest.drop 1) = some name then
      (behind? '>' rest).map fun after => (read.reverse, after)
    else rawContent? name (c :: read) rest

/-- How reading goes on from a place. -/
inductive Step where
  /-- Tokens, and the text behind them. -/
  | next (tokens : List Token) (rest : Text)
  /-- Markup that may be unfinished. -/
  | unfinished
  /-- A pass ends behind some tokens. A second pass starts from there; if this is the second, then
  all that is left is shown as text. -/
  | halt (tokens : List Token) (rest shown : Text)
  | refused (refusal : Refusal)

def isHexDigit (c : Char) : Bool :=
  ('0' ≤ c && c ≤ '9') || ('a' ≤ c && c ≤ 'f') || ('A' ≤ c && c ≤ 'F')

def hexDigitValue (c : Char) : Nat :=
  if c ≤ '9' then c.toNat - '0'.toNat
  else if c ≤ 'F' then c.toNat - 'A'.toNat + 10
  else c.toNat - 'a'.toNat + 10

/-- The text behind a reference, of which a semicolon is a part. -/
def behindReference : Text → Text
  | ';' :: rest => rest
  | rest => rest

/-- A number in some base and the text behind it. Some character that is no digit has to follow. -/
def numberIn? (base : Nat) (isDigit : Char → Bool) (text : Text) : Option (Nat × Text) :=
  let digits := text.takeWhile isDigit
  match text.dropWhile isDigit with
  | [] => none
  | c :: rest =>
    if digits.isEmpty || isHexDigit c then none
    else some (digits.foldl (fun n d => n * base + hexDigitValue d) 0, behindReference (c :: rest))

/-- The number of a reference and the text behind it, from the text behind `&#`. -/
def number? : Text → Option (Nat × Text)
  | 'x' :: rest => numberIn? 16 isHexDigit rest
  | 'X' :: rest => numberIn? 16 isHexDigit rest
  | text => numberIn? 10 (fun c => '0' ≤ c && c ≤ '9') text

/-- Whether a text starts with a decimal number of more digits than an integer may have. -/
def startsHuge (text : Text) : Bool :=
  Integer.digitLimit < (text.takeWhile fun c => '0' ≤ c && c ≤ '9').length

/-- Whether the value of an attribute holds a reference by such a number. -/
def holdsHuge : Text → Bool
  | [] => false
  | c :: rest =>
    (c = '&' && rest.head? = some '#' && startsHuge (rest.drop 1)) || holdsHuge rest

def isReferenceChar (c : Char) : Bool :=
  isAsciiLetter c || ('0' ≤ c && c ≤ '9') || c = '-' || c = '.'

/-- The name of a reference and the text behind it, from the text behind its ampersand, which
starts with a letter. Some character that is no letter or digit has to follow, and a dash or dot
of the name will do at the end of the input. -/
def reference? (text : Text) : Option (Text × Text) :=
  let name := text.takeWhile isReferenceChar
  match text.dropWhile isReferenceChar with
  | c :: rest => some (name, behindReference (c :: rest))
  | [] =>
    let ending := (name.reverse.takeWhile fun c => c != '-' && c != '.').reverse
    if ending.length = name.length then none
    else
      let length := name.length - ending.length - 1
      some (name.take length, name.drop length)

/-- Reads a reference, from the text behind its ampersand. -/
def stepReference (text : Text) : Step :=
  match text with
  | [] => .halt [] ['&'] ['&']
  | '#' :: rest =>
    match number? rest with
    | some (n, after) =>
      if startsHuge rest then .refused .hugeNumber else .next [.text (numberedText n)] after
    | none =>
      -- A semicolon anywhere behind shows that the reference is wrong, not cut short.
      if rest.contains ';' then .halt [.text ['&', '#']] rest rest
      else .halt [] ('&' :: text) ('&' :: text)
  | c :: rest =>
    if isAsciiLetter c then
      match reference? text with
      | some (name, after) => .next [.text (namedText name)] after
      | none => .halt [] ('&' :: text) (if rest.isEmpty then text else '&' :: text)
    else .next [.text ['&']] text

/-- Reads an aside up to a right angle bracket. -/
def stepAside (text : Text) : Step :=
  match behind? '>' text with
  | some rest => .next [.aside] rest
  | none => .unfinished

/-- Reads a start tag, from its name on. -/
def stepStart (text : Text) : Step :=
  let name := text.takeWhile isTagNameChar
  let tag := Text.lower name
  let after := text.dropWhile isTagNameChar
  match tagEnd name after with
  | .unfinished => .unfinished
  | .broken rest values =>
    if values.any holdsHuge then .refused .hugeNumber
    else .next [.text ('<' :: text.take (text.length - rest.length))] rest
  | .closed selfClosing rest values =>
    if values.any holdsHuge then .refused .hugeNumber
    else if selfClosing || !rawNames.contains tag then .next [.start tag selfClosing] rest
    -- Raw content without an end tag runs to the end of the input and shows nothing.
    else match rawContent? tag [] rest with
      | some (content, rest) => .next [.start tag false, .text content, .finish tag] rest
      | none => .next [.start tag false] []

/-- A character that the name of a marked section can go on with. -/
def isSectionNameChar (c : Char) : Bool :=
  isAsciiLetter c || ('0' ≤ c && c ≤ '9') || c = '-' || c = '_' || c = '.'

/-- The text behind the end of a marked section: some right brackets and a right angle bracket,
with blanks between them. -/
def sectionEnd? : Nat → Text → Option Text
  | 0, '>' :: rest => some rest
  | brackets + 1, ']' :: rest => sectionEnd? brackets (rest.dropWhile Text.isBlankChar)
  | _, _ => none

/-- Cuts a marked section at its end, behind what is read of it, which comes last first. -/
def cutSection? (brackets : Nat) (read : Text) : Text → Option (Text × Text)
  | [] => none
  | c :: rest =>
    match sectionEnd? brackets (c :: rest) with
    | some after => some (read.reverse, after)
    | none => cutSection? brackets (c :: read) rest

/-- The kinds of marked sections, and how many brackets end each. -/
def sectionKinds : List (Text × Nat) :=
  [("cdata".toList, 2), ("rcdata".toList, 2), ("temp".toList, 2), ("ignore".toList, 2),
   ("include".toList, 2), ("if".toList, 1), ("else".toList, 1), ("endif".toList, 1)]

/-- What a section of character data starts with, in any case of its letters. -/
def dataMark : Text := "CDATA[".toList

/-- The token of a marked section. Only character data show. -/
def sectionToken (inside : Text) : Token :=
  if Text.upper (inside.take dataMark.length) = dataMark then .data (inside.drop dataMark.length)
  else .aside

/-- Reads a marked section, from the name of its kind on. -/
def stepSection (text : Text) : Step :=
  let name := text.takeWhile isSectionNameChar
  let behind := (text.dropWhile isSectionNameChar).dropWhile Text.isBlankChar
  if text.isEmpty then .unfinished
  else if !text.head?.any isAsciiLetter then .refused .unknownSection
  else if behind.isEmpty then .unfinished
  else match sectionKinds.lookup (Text.lower name) with
    | none => .refused .unknownSection
    | some brackets =>
      match cutSection? brackets [] text with
      | some (inside, rest) => .next [sectionToken inside] rest
      | none => .unfinished

/-- Reads markup, from the text behind its left angle bracket. -/
def stepMarkup (text : Text) : Step :=
  match text with
  | [] => .halt [] ['<'] ['<']
  | '/' :: rest =>
    match behind? '>' rest with
    | some after => .next (endToken rest) after
    | none => .unfinished
  | '!' :: '-' :: '-' :: rest =>
    match commentEnd? rest with
    | some after => .next [.aside] after
    | none => .unfinished
  | '?' :: rest => stepAside rest
  | '!' :: '[' :: rest => stepSection rest
  | '!' :: rest => stepAside rest
  | c :: _ => if isAsciiLetter c then stepStart text else .next [.text ['<']] text

/-- Reads what comes first in a text. -/
def step (c : Char) (rest : Text) : Step :=
  if c = '<' then stepMarkup rest
  else if c = '&' then stepReference rest
  else
    let isPlain := fun c : Char => c != '<' && c != '&'
    .next [.text (c :: rest.takeWhile isPlain)] (rest.dropWhile isPlain)

/-- Text that looks like markup but is not finished: up to a right angle bracket, else up to a left
one, else one character. -/
def unfinishedText (c : Char) (rest : Text) : Text × Text :=
  match behind? '>' rest with
  | some after => (c :: rest.take (rest.length - after.length), after)
  | none =>
    if rest.contains '<' then (c :: rest.takeWhile (· != '<'), rest.dropWhile (· != '<'))
    else ([c], rest)

theorem behind?_length {mark : Char} {text rest : Text} (h : behind? mark text = some rest) :
    rest.length < text.length := by
  unfold behind? at h
  have shorter := Text.length_dropWhile_le (· != mark) text
  split at h
  · cases h
  · rename_i c after eq
    cases h
    rw [eq, List.length_cons] at shorter
    exact shorter

theorem commentEnd?_length {text rest : Text} (h : commentEnd? text = some rest) :
    rest.length ≤ text.length := by
  fun_induction commentEnd? text with
  | case1 => cases h
  | case2 c after _ behind eq =>
    cases h
    have shorter := Text.length_dropWhile_le Text.isBlankChar (after.drop 1)
    rw [eq, List.length_cons, List.length_drop] at shorter
    rw [List.length_cons]
    omega
  | case3 c after _ _ ih => exact Nat.le_succ_of_le (ih h)
  | case4 c after _ ih => exact Nat.le_succ_of_le (ih h)

theorem sectionEnd?_length {brackets : Nat} {text rest : Text}
    (h : sectionEnd? brackets text = some rest) : rest.length ≤ text.length := by
  fun_induction sectionEnd? brackets text with
  | case1 after =>
    cases h
    exact Nat.le_succ _
  | case2 brackets after ih =>
    exact Nat.le_succ_of_le (Nat.le_trans (ih h) (Text.length_dropWhile_le _ _))
  | case3 => cases h

theorem cutSection?_length {brackets : Nat} {read text inside rest : Text}
    (h : cutSection? brackets read text = some (inside, rest)) : rest.length ≤ text.length := by
  fun_induction cutSection? brackets read text with
  | case1 => cases h
  | case2 read c after behind found =>
    cases h
    exact sectionEnd?_length found
  | case3 read c after _ ih => exact Nat.le_succ_of_le (ih h)

theorem rawContent?_length {name read text content rest : Text}
    (h : rawContent? name read text = some (content, rest)) : rest.length ≤ text.length := by
  fun_induction rawContent? name read text with
  | case1 => cases h
  | case2 read c after =>
    obtain ⟨behind, found, eq⟩ := Option.map_eq_some_iff.1 h
    cases eq
    exact Nat.le_succ_of_le (Nat.le_of_lt (behind?_length found))
  | case3 read c after _ ih => exact Nat.le_succ_of_le (ih h)

theorem length_behindReference_le (text : Text) : (behindReference text).length ≤ text.length := by
  unfold behindReference
  split
  · exact Nat.le_succ _
  · exact Nat.le_refl _

theorem numberIn?_length {base n : Nat} {isDigit : Char → Bool} {text rest : Text}
    (h : numberIn? base isDigit text = some (n, rest)) : rest.length ≤ text.length := by
  unfold numberIn? at h
  have digits := Text.length_dropWhile_le isDigit text
  simp only at h
  split at h
  · cases h
  · rename_i c after eq
    rw [eq] at digits
    split at h
    · cases h
    · cases h
      exact Nat.le_trans (length_behindReference_le _) digits

theorem number?_length {text rest : Text} {n : Nat} (h : number? text = some (n, rest)) :
    rest.length ≤ text.length := by
  unfold number? at h
  split at h
  · exact Nat.le_succ_of_le (numberIn?_length h)
  · exact Nat.le_succ_of_le (numberIn?_length h)
  · exact numberIn?_length h

theorem reference?_length {text name rest : Text} (h : reference? text = some (name, rest)) :
    rest.length ≤ text.length := by
  unfold reference? at h
  have behind := Text.length_dropWhile_le isReferenceChar text
  simp only at h
  split at h
  · rename_i c after eq
    cases h
    rw [eq] at behind
    exact Nat.le_trans (length_behindReference_le _) behind
  · split at h
    · cases h
    · cases h
      have front := (List.takeWhile_sublist (p := isReferenceChar) (l := text)).length_le
      rw [List.length_drop]
      omega

/-- What a step leaves over, where it goes on in the same pass. -/
def Step.left : Step → Nat
  | .next _ rest => rest.length
  | _ => 0

theorem left_stepReference_le (text : Text) : (stepReference text).left ≤ text.length := by
  unfold stepReference
  split
  · exact Nat.zero_le _
  · rename_i rest
    split
    · rename_i found
      split
      · exact Nat.zero_le _
      · exact Nat.le_succ_of_le (number?_length found)
    · split <;> exact Nat.zero_le _
  · split
    · split
      · rename_i found
        exact reference?_length found
      · exact Nat.zero_le _
    · exact Nat.le_refl _

theorem left_stepAside_le (text : Text) : (stepAside text).left ≤ text.length := by
  unfold stepAside
  split
  · rename_i found
    exact Nat.le_of_lt (behind?_length found)
  · exact Nat.zero_le _

theorem left_stepStart_le (text : Text) : (stepStart text).left ≤ text.length := by
  unfold stepStart
  have after := Text.length_dropWhile_le isTagNameChar text
  have tag := left_tagEnd_le (text.takeWhile isTagNameChar) (text.dropWhile isTagNameChar)
  simp only
  split
  · exact Nat.zero_le _
  · rename_i eq
    rw [eq] at tag
    split
    · exact Nat.zero_le _
    · exact Nat.le_trans tag after
  · rename_i eq
    rw [eq] at tag
    split
    · exact Nat.zero_le _
    · split
      · exact Nat.le_trans tag after
      · split
        · rename_i found
          exact Nat.le_trans (rawContent?_length found) (Nat.le_trans tag after)
        · exact Nat.zero_le _

theorem left_stepSection_le (text : Text) : (stepSection text).left ≤ text.length := by
  unfold stepSection
  simp only
  split
  · exact Nat.zero_le _
  · split
    · exact Nat.zero_le _
    · split
      · exact Nat.zero_le _
      · split
        · exact Nat.zero_le _
        · split
          · rename_i found
            exact cutSection?_length found
          · exact Nat.zero_le _

theorem left_stepMarkup_le (text : Text) : (stepMarkup text).left ≤ text.length := by
  unfold stepMarkup
  split
  · exact Nat.zero_le _
  · split
    · rename_i found
      exact Nat.le_succ_of_le (Nat.le_of_lt (behind?_length found))
    · exact Nat.zero_le _
  · split
    · rename_i found
      have shorter := commentEnd?_length found
      simp only [Step.left, List.length_cons]
      omega
    · exact Nat.zero_le _
  · exact Nat.le_succ_of_le (left_stepAside_le _)
  · exact Nat.le_succ_of_le (Nat.le_succ_of_le (left_stepSection_le _))
  · exact Nat.le_succ_of_le (left_stepAside_le _)
  · split
    · exact left_stepStart_le _
    · exact Nat.le_refl _

/-- Every step that goes on uses up a character. -/
theorem left_step_le (c : Char) (rest : Text) : (step c rest).left ≤ rest.length := by
  unfold step
  split
  · exact left_stepMarkup_le rest
  · split
    · exact left_stepReference_le rest
    · exact Text.length_dropWhile_le _ rest

theorem length_unfinishedText_le (c : Char) (rest : Text) :
    (unfinishedText c rest).2.length ≤ rest.length := by
  unfold unfinishedText
  split
  · rename_i found
    exact Nat.le_of_lt (behind?_length found)
  · split
    · exact Text.length_dropWhile_le _ rest
    · exact Nat.le_refl _

/-- Reads tokens behind those read already, which come last first, in the first pass or the second.
The result comes last first too. -/
def scan (second : Bool) (read : List Token) : Text → Except Refusal (List Token)
  | [] => .ok read
  | c :: rest =>
    match _h : step c rest with
    | .next tokens after => scan second (tokens.reverse ++ read) after
    | .unfinished =>
      -- Only a pass that knows the input to end here can call it text.
      if second then
        let shown := unfinishedText c rest
        scan second (.text shown.1 :: read) shown.2
      else scan true read (c :: rest)
    | .halt tokens after shown =>
      if second then .ok (.text shown :: (tokens.reverse ++ read))
      else scan true (tokens.reverse ++ read) after
    | .refused refusal => .error refusal
termination_by text => (if second then 0 else 1, text.length)
decreasing_by
  · have left := left_step_le c rest
    rw [_h] at left
    exact Prod.Lex.right _ (Nat.lt_succ_of_le left)
  · exact Prod.Lex.right _ (Nat.lt_succ_of_le (length_unfinishedText_le c rest))
  · simp_all [Prod.lex_def]
  · simp_all [Prod.lex_def]

/-- The tokens of markup. -/
def tokens (markup : Text) : Except Refusal (List Token) := (scan false [] markup).map List.reverse

end Quarry.Markup
