import Quarry.Proofs.Markup.Forest
import Quarry.Proofs.Text.Lowered
import Quarry.Proofs.Text.Runs

/-! Reading what has been written: the tokens of tags, comments, raw elements and references, with
more markup behind them. -/
namespace Quarry.Markup

/-- Tokens are read where one step finds them, and the rest behind them. -/
theorem scan_next (second : Bool) (read tokens : List Token) (c : Char) (rest after : Text)
    (h : step c rest = .next tokens after) :
    scan second read (c :: rest) = scan second (tokens.reverse ++ read) after := by
  rw [scan]
  split
  · rename_i found behind hstep
    rw [h] at hstep
    cases hstep
    rfl
  · rename_i hstep
    rw [h] at hstep
    cases hstep
  · rename_i hstep
    rw [h] at hstep
    cases hstep
  · rename_i hstep
    rw [h] at hstep
    cases hstep

/-- A small letter or a digit, of ASCII. -/
def isSmallChar (c : Char) : Bool := ('a' ≤ c && c ≤ 'z') || ('0' ≤ c && c ≤ '9')

theorem isSmallChar_facts (c : Char) (h : isSmallChar c = true) :
    isPlainNameChar c = true ∧ isTagNameChar c = true ∧ Text.isBlankChar c = false ∧
      Text.IsLowered c := by
  have hascii : c.toNat < 128 := by
    simp only [isSmallChar, Bool.or_eq_true, Bool.and_eq_true, decide_eq_true_eq, Char.le_def,
      UInt32.le_iff_toNat_le] at h
    have hz : 'z'.val.toNat = 122 := rfl
    have hnine : '9'.val.toNat = 57 := rfl
    have hc : c.val.toNat = c.toNat := rfl
    omega
  exact Text.of_ascii (motive := fun c => isSmallChar c = true →
      isPlainNameChar c = true ∧ isTagNameChar c = true ∧ Text.isBlankChar c = false ∧
        Text.IsLowered c) (by decide +kernel) c hascii h

/-- Names of elements are usually small letters and digits behind a letter. -/
theorem isElementName_of_small (name : Text) (hhead : name.head?.any isAsciiLetter = true)
    (hname : ∀ c ∈ name, isSmallChar c = true) : IsElementName name where
  head := hhead
  plain c hc := ⟨(isSmallChar_facts c (hname c hc)).2.1, (isSmallChar_facts c (hname c hc)).2.2.1⟩
  lower := Text.lowerFrom_of_isLowered false name fun c hc =>
    (isSmallChar_facts c (hname c hc)).2.2.2

theorem rawNames_small (name : Text) (h : name ∈ rawNames) :
    name.head?.any isAsciiLetter = true ∧ ∀ c ∈ name, isSmallChar c = true := by
  have hall : ∀ name ∈ rawNames,
      name.head?.any isAsciiLetter = true ∧ name.all isSmallChar = true := by decide
  exact (hall name h).imp_right List.all_eq_true.1

/-- Where what follows is no part of a text: it is markup, or nothing at all. -/
def EndsText (rest : Text) : Prop := ∀ c ∈ rest.head?, c = '<'

section

variable (name rest : Text)

theorem ne_of_isAsciiLetter (c : Char) (h : isAsciiLetter c = true) :
    c ≠ '/' ∧ c ≠ '!' ∧ c ≠ '?' := by
  refine ⟨?_, ?_, ?_⟩
  · rintro rfl
    exact absurd h (by decide)
  · rintro rfl
    exact absurd h (by decide)
  · rintro rfl
    exact absurd h (by decide)

theorem exists_letter_cons (hname : IsElementName name) :
    ∃ c others, name = c :: others ∧ isAsciiLetter c = true := by
  cases name with
  | nil => exact absurd hname.head (by simp)
  | cons c others => exact ⟨c, others, rfl, by simpa using hname.head⟩

theorem takeWhile_name (hname : IsElementName name) :
    (name ++ '>' :: rest).takeWhile isTagNameChar = name ∧
      (name ++ '>' :: rest).dropWhile isTagNameChar = '>' :: rest := by
  have hrun : ∀ c ∈ name, isTagNameChar c = true := fun c hc => (hname.plain c hc).1
  have hstop : ∀ c ∈ ('>' :: rest).head?, isTagNameChar c = false := by
    rintro c hc
    obtain rfl : '>' = c := by simpa using hc
    decide
  exact ⟨Text.takeWhile_run _ _ _ hrun hstop, Text.dropWhile_run _ _ _ hrun hstop⟩

theorem tagEnd_bare : tagEnd name ('>' :: rest) = .closed false rest [] := by
  have hgap : isGap '>' = false := by decide
  rw [tagEnd, List.takeWhile_cons_of_neg (by simp [hgap]),
    List.dropWhile_cons_of_neg (by simp [hgap]), tagEndBehind, if_pos rfl]
  rfl

theorem stepStart_bare (hname : IsElementName name) (hraw : name ∉ rawNames) :
    stepStart (name ++ '>' :: rest) = .next [.start name false] rest := by
  obtain ⟨htake, hdrop⟩ := takeWhile_name name rest hname
  simp only [stepStart, htake, hdrop, tagEnd_bare, hname.lower]
  rw [if_neg (by simp), if_pos (by simpa using hraw)]

theorem stepMarkup_name (hname : IsElementName name) :
    stepMarkup (name ++ rest) = stepStart (name ++ rest) := by
  obtain ⟨c, others, rfl, hletter⟩ := exists_letter_cons name hname
  obtain ⟨hslash, hbang, hquery⟩ := ne_of_isAsciiLetter c hletter
  rw [List.cons_append]
  unfold stepMarkup
  split
  · rename_i heq
    cases heq
  · rename_i heq
    exact absurd (List.cons.inj heq).1 hslash
  · rename_i heq
    exact absurd (List.cons.inj heq).1 hbang
  · rename_i heq
    exact absurd (List.cons.inj heq).1 hquery
  · rename_i heq
    exact absurd (List.cons.inj heq).1 hbang
  · rename_i heq
    exact absurd (List.cons.inj heq).1 hbang
  · rename_i heq
    obtain ⟨rfl, -⟩ := List.cons.inj heq
    rw [if_pos hletter]

theorem behind?_run (mark : Char) (run : Text) (h : mark ∉ run) :
    behind? mark (run ++ mark :: rest) = some rest := by
  have hdrop := Text.dropWhile_run (· != mark) run (mark :: rest) (Text.bne_of_notMem mark run h)
    (by simp)
  rw [behind?, hdrop]

theorem notMem_name (hname : IsElementName name) : '>' ∉ name := by
  intro hmem
  exact absurd (hname.plain '>' hmem).1 (by decide)

theorem plainEndName?_of_plain (hname : IsElementName name)
    (hplain : ∀ c ∈ name, isPlainNameChar c = true) :
    plainEndName? (name ++ '>' :: rest) = some name := by
  obtain ⟨c, others, rfl, hletter⟩ := exists_letter_cons name hname
  have hblank : Text.isBlankChar c = false := (hname.plain c List.mem_cons_self).2
  have hstop : ∀ d ∈ ('>' :: rest).head?, isPlainNameChar d = false := by
    intro d hd
    obtain rfl : '>' = d := by simpa using hd
    decide
  have hfront : (c :: others ++ '>' :: rest).dropWhile Text.isBlankChar =
      c :: others ++ '>' :: rest := List.dropWhile_cons_of_neg (by simp [hblank])
  have hend : ('>' :: rest).dropWhile Text.isBlankChar = '>' :: rest :=
    List.dropWhile_cons_of_neg (by decide)
  rw [plainEndName?, hfront]
  simp only [Text.takeWhile_run _ _ _ hplain hstop, Text.dropWhile_run _ _ _ hplain hstop, hend,
    hname.lower]
  simp [hletter]

theorem plainEndName?_of_not_plain (hname : IsElementName name) (c : Char) (hc : c ∈ name)
    (hplain : isPlainNameChar c = false) : plainEndName? (name ++ '>' :: rest) = none := by
  have hblanks : (name ++ '>' :: rest).dropWhile Text.isBlankChar = name ++ '>' :: rest := by
    obtain ⟨d, others, rfl, -⟩ := exists_letter_cons name hname
    exact List.dropWhile_cons_of_neg (by simp [(hname.plain d List.mem_cons_self).2])
  -- The plain part ends inside the name, and what is behind it there is no end of a tag.
  obtain ⟨d, others, hd⟩ : ∃ d others, name.dropWhile isPlainNameChar = d :: others := by
    cases hdrop : name.dropWhile isPlainNameChar with
    | nil =>
      have hall := List.dropWhile_eq_nil_iff.1 hdrop c hc
      rw [hplain] at hall
      cases hall
    | cons d others => exact ⟨d, others, rfl⟩
  have hmem : d ∈ name := by
    have hsub := (List.dropWhile_sublist isPlainNameChar (l := name)).subset
    exact hsub (by simp [hd])
  have hbehind : ((name ++ '>' :: rest).dropWhile isPlainNameChar).dropWhile Text.isBlankChar =
      d :: others ++ '>' :: rest := by
    rw [List.dropWhile_append, hd]
    exact List.dropWhile_cons_of_neg (by simp [(hname.plain d hmem).2])
  have hne : d ≠ '>' := by
    rintro rfl
    exact notMem_name name hname hmem
  simp only [plainEndName?, hblanks, hbehind]
  rw [if_neg (by simp [hne])]

theorem endToken_name (hname : IsElementName name) :
    endToken (name ++ '>' :: rest) = [.finish name] := by
  by_cases hplain : ∀ c ∈ name, isPlainNameChar c = true
  · simp only [endToken, plainEndName?_of_plain name rest hname hplain]
  -- A name that is not plain is read a second time, as that of a start tag.
  · obtain ⟨c, hc, hnot⟩ : ∃ c ∈ name, isPlainNameChar c = false := by simpa using hplain
    have hnone := plainEndName?_of_not_plain name rest hname c hc hnot
    obtain ⟨htake, -⟩ := takeWhile_name name rest hname
    obtain ⟨d, others, rfl, hletter⟩ := exists_letter_cons name hname
    have hd := (hname.plain d List.mem_cons_self).1
    rw [List.cons_append, List.takeWhile_cons_of_pos hd] at htake
    rw [List.cons_append] at hnone ⊢
    unfold endToken
    rw [hnone]
    dsimp only
    rw [if_pos hletter, htake, hname.lower]

/-- Raw content goes up to the end tag of its element, if nothing in it starts an end tag. -/
theorem rawContent?_endTag (hname : IsElementName name)
    (hplain : ∀ c ∈ name, isPlainNameChar c = true) (content read : Text)
    (hcontent : ¬"</".toList <:+: content) :
    rawContent? name read (content ++ endTag name ++ rest) =
      some (read.reverse ++ content, rest) := by
  induction content generalizing read with
  | nil =>
    have hend := plainEndName?_of_plain name rest hname hplain
    have hbehind : behind? '>' ('/' :: (name ++ '>' :: rest)) = some rest :=
      behind?_run rest '>' ('/' :: name) (by simpa using notMem_name name hname)
    simp [endTag, rawContent?, hend, hbehind]
  | cons c content ih =>
    have hbehind : ¬"</".toList <:+: content := fun h =>
      hcontent (h.trans (List.suffix_cons c content).isInfix)
    have hstart : ¬(c = '<' ∧ (content ++ endTag name ++ rest).head? = some '/') := by
      rintro ⟨rfl, hslash⟩
      cases content with
      | nil => simp [endTag] at hslash
      | cons d content =>
        obtain rfl : d = '/' := by simpa using hslash
        exact hcontent ⟨[], content, rfl⟩
    rw [List.cons_append, List.cons_append, rawContent?,
      if_neg (by simpa using fun hopen hslash _ => hstart ⟨hopen, hslash⟩),
      ih (c :: read) hbehind]
    simp

theorem commentEnd?_end (content : Text) (hcontent : ¬"--".toList <:+: content) :
    commentEnd? (content ++ '-' :: '-' :: '>' :: rest) = some rest := by
  have hblank : Text.isBlankChar '>' = false := by decide
  have hclose : commentEnd? ('-' :: '-' :: '>' :: rest) = some rest := by
    simp [commentEnd?, hblank]
  induction content with
  | nil => exact hclose
  | cons c content ih =>
    have hbehind : ¬"--".toList <:+: content := fun h =>
      hcontent (h.trans (List.suffix_cons c content).isInfix)
    rw [List.cons_append, commentEnd?, ih hbehind]
    split
    · rename_i hdashes
      -- Two dashes can only be a last one of the content and the first one of the end.
      have hnone : content = [] := by
        cases content with
        | nil => rfl
        | cons d content =>
          obtain ⟨rfl, hd⟩ : c = '-' ∧ d = '-' := by simpa using hdashes
          exact absurd ⟨[], content, by simp [hd]⟩ hcontent
      have hdash : Text.isBlankChar '-' = false := by decide
      simp [hnone, hdash]
    · rfl

theorem stepReference_name (hhead : name.head?.any isAsciiLetter = true)
    (hname : ∀ c ∈ name, isReferenceChar c = true) :
    stepReference (name ++ ';' :: rest) = .next [.text (namedText name)] rest := by
  have hstop : ∀ c ∈ (';' :: rest).head?, isReferenceChar c = false := by
    intro c hc
    obtain rfl : ';' = c := by simpa using hc
    decide
  have hread : reference? (name ++ ';' :: rest) = some (name, rest) := by
    simp only [reference?, Text.takeWhile_run _ _ _ hname hstop,
      Text.dropWhile_run _ _ _ hname hstop]
    rfl
  cases name with
  | nil => simp at hhead
  | cons c others =>
    have hletter : isAsciiLetter c = true := by simpa using hhead
    have hne : c ≠ '#' := by
      rintro rfl
      exact absurd hletter (by decide)
    rw [List.cons_append] at hread ⊢
    unfold stepReference
    split
    · rename_i heq
      cases heq
    · rename_i heq
      exact absurd (List.cons.inj heq).1 hne
    · rename_i heq
      obtain ⟨rfl, rfl⟩ := List.cons.inj heq
      rw [if_pos hletter, hread]

section

variable (second : Bool) (read : List Token)

theorem scan_startTag (hname : IsElementName name) (hraw : name ∉ rawNames) :
    scan second read (startTag name ++ rest) = scan second (.start name false :: read) rest := by
  have htext : startTag name ++ rest = '<' :: (name ++ '>' :: rest) := by simp [startTag]
  have hstep : step '<' (name ++ '>' :: rest) = .next [.start name false] rest := by
    rw [step, if_pos rfl, stepMarkup_name name _ hname, stepStart_bare name rest hname hraw]
  rw [htext, scan_next second read _ _ _ _ hstep]
  rfl

theorem scan_endTag (hname : IsElementName name) :
    scan second read (endTag name ++ rest) = scan second (.finish name :: read) rest := by
  have htext : endTag name ++ rest = '<' :: '/' :: (name ++ '>' :: rest) := by simp [endTag]
  have hstep : step '<' ('/' :: (name ++ '>' :: rest)) = .next [.finish name] rest := by
    rw [step, if_pos rfl, stepMarkup, behind?_run rest '>' name (notMem_name name hname),
      endToken_name name rest hname]
  rw [htext, scan_next second read _ _ _ _ hstep]
  rfl

theorem scan_comment (content : Text) (hcontent : ¬"--".toList <:+: content) :
    scan second read ("<!--".toList ++ content ++ "-->".toList ++ rest) =
      scan second (.aside :: read) rest := by
  have htext : "<!--".toList ++ content ++ "-->".toList ++ rest =
      '<' :: '!' :: '-' :: '-' :: (content ++ '-' :: '-' :: '>' :: rest) := by simp
  have hstep : step '<' ('!' :: '-' :: '-' :: (content ++ '-' :: '-' :: '>' :: rest)) =
      .next [.aside] rest := by
    rw [step, if_pos rfl, stepMarkup, commentEnd?_end rest content hcontent]
  rw [htext, scan_next second read _ _ _ _ hstep]
  rfl

theorem scan_raw (hname : IsElementName name) (hplain : ∀ c ∈ name, isPlainNameChar c = true)
    (hraw : name ∈ rawNames) (content : Text) (hcontent : ¬"</".toList <:+: content) :
    scan second read (startTag name ++ content ++ endTag name ++ rest) =
      scan second (.finish name :: .text content :: .start name false :: read) rest := by
  have htext : startTag name ++ content ++ endTag name ++ rest =
      '<' :: (name ++ '>' :: (content ++ endTag name ++ rest)) := by simp [startTag]
  have hstart : stepStart (name ++ '>' :: (content ++ endTag name ++ rest)) =
      .next [.start name false, .text content, .finish name] rest := by
    obtain ⟨htake, hdrop⟩ := takeWhile_name name (content ++ endTag name ++ rest) hname
    simp only [stepStart, htake, hdrop, tagEnd_bare, hname.lower,
      rawContent?_endTag name rest hname hplain content [] hcontent]
    rw [if_neg (by simp), if_neg (by simpa using hraw)]
    rfl
  have hstep : step '<' (name ++ '>' :: (content ++ endTag name ++ rest)) =
      .next [.start name false, .text content, .finish name] rest := by
    rw [step, if_pos rfl, stepMarkup_name name _ hname, hstart]
  rw [htext, scan_next second read _ _ _ _ hstep]
  rfl

theorem scan_reference (c : Char) (hc : c = '&' ∨ c = '<' ∨ c = '>') :
    scan second read (escapeChar c ++ rest) = scan second (.text [c] :: read) rest := by
  have hname (name : Text) (hhead : name.head?.any isAsciiLetter = true)
      (hname : ∀ c ∈ name, isReferenceChar c = true) :
      scan second read ('&' :: (name ++ ';' :: rest)) =
        scan second (.text (namedText name) :: read) rest := by
    have hstep : step '&' (name ++ ';' :: rest) = .next [.text (namedText name)] rest := by
      rw [step, if_neg (by decide), if_pos rfl, stepReference_name name rest hhead hname]
    rw [scan_next second read _ _ _ _ hstep]
    rfl
  rcases hc with rfl | rfl | rfl
  · have hnamed : namedText "amp".toList = ['&'] := by decide
    rw [← hnamed]
    exact hname "amp".toList (by decide) (List.all_eq_true.1 (by decide))
  · have hnamed : namedText "lt".toList = ['<'] := by decide
    rw [← hnamed]
    exact hname "lt".toList (by decide) (List.all_eq_true.1 (by decide))
  · have hnamed : namedText "gt".toList = ['>'] := by decide
    rw [← hnamed]
    exact hname "gt".toList (by decide) (List.all_eq_true.1 (by decide))

end

end

end Quarry.Markup
