import Mathlib.Data.List.Basic
import Quarry.Proofs.Text.Margins
import Quarry.Proofs.Text.Pieces
import Quarry.Proofs.Text.Runs

/-! A text whose runs of blanks are written as one space is the words of the text with one space
between them. -/
namespace Quarry.Text

/-- The longest pieces of a text without blanks. -/
def words (text : Text) : List Text :=
  (text.splitOnP isBlankChar).filter fun word => !word.isEmpty

theorem words_append_blank (before after : Text) (c : Char) (hc : isBlankChar c = true) :
    words (before ++ c :: after) = words before ++ words after := by
  rw [words, List.splitOnP_append_cons before after hc, List.filter_append]
  rfl

theorem words_nil : words [] = [] := by simp [words]

theorem words_cons_blank (c : Char) (rest : Text) (hc : isBlankChar c = true) :
    words (c :: rest) = words rest := by
  have h := words_append_blank [] rest c hc
  rwa [words_nil] at h

/-- A solid piece: it holds a character and no blank. -/
def IsSolid (word : Text) : Prop := word ≠ [] ∧ ∀ c ∈ word, isBlankChar c = false

theorem words_of_isSolid (word : Text) (h : IsSolid word) : words word = [word] := by
  rw [words, List.splitOnP_eq_singleton h.2]
  simp [h.1]

/-- The words of texts with spaces between them are those of each text. -/
theorem words_joined (texts : List Text) :
    words (joined [' '] texts) = texts.flatMap words := by
  induction texts with
  | nil => exact words_nil
  | cons text texts ih =>
    by_cases hnone : texts = []
    · simp [hnone, joined]
    · rw [joined_cons [' '] text texts hnone, List.append_assoc, List.singleton_append,
        words_append_blank text _ ' ' (by decide), ih, List.flatMap_cons]

theorem isSolid_of_mem_words (text word : Text) (h : word ∈ words text) : IsSolid word := by
  -- Part of a word may have been read already, so the text is taken behind the start of one.
  have hbehind : ∀ before : Text, (∀ c ∈ before, isBlankChar c = false) →
      ∀ word ∈ words (before ++ text), IsSolid word := by
    have hsolid (before : Text) (hbefore : ∀ c ∈ before, isBlankChar c = false) :
        ∀ word ∈ words before, IsSolid word := by
      by_cases hne : before = []
      · simp [hne, words_nil]
      · rw [words_of_isSolid before ⟨hne, hbefore⟩]
        exact List.forall_mem_singleton.2 ⟨hne, hbefore⟩
    clear h
    induction text with
    | nil =>
      intro before hbefore
      rw [List.append_nil]
      exact hsolid before hbefore
    | cons c rest ih =>
      intro before hbefore
      by_cases hc : isBlankChar c = true
      · rw [words_append_blank before rest c hc, List.forall_mem_append]
        exact ⟨hsolid before hbefore, ih [] (by simp)⟩
      · have hmore := ih (before ++ [c]) (by
          rw [List.forall_mem_append]
          exact ⟨hbefore, by simpa using hc⟩)
        rwa [List.append_assoc, List.singleton_append] at hmore
  exact hbehind [] (by simp) word h

/-- A text has no words exactly if it is blank. -/
theorem words_eq_nil_iff (text : Text) : words text = [] ↔ isBlank text = true := by
  constructor
  · -- As above, part of a word may have been read already.
    have hbehind : ∀ before : Text, (∀ c ∈ before, isBlankChar c = false) →
        words (before ++ text) = [] → before = [] ∧ isBlank text = true := by
      have hsolid (before : Text) (hbefore : ∀ c ∈ before, isBlankChar c = false)
          (hnone : words before = []) : before = [] := by
        by_contra hne
        rw [words_of_isSolid before ⟨hne, hbefore⟩] at hnone
        cases hnone
      induction text with
      | nil =>
        intro before hbefore hnone
        rw [List.append_nil] at hnone
        exact ⟨hsolid before hbefore hnone, rfl⟩
      | cons c rest ih =>
        intro before hbefore hnone
        by_cases hc : isBlankChar c = true
        · rw [words_append_blank before rest c hc, List.append_eq_nil_iff] at hnone
          have hrest := (ih [] (by simp) hnone.2).2
          rw [isBlank, List.all_cons, hc]
          exact ⟨hsolid before hbefore hnone.1, hrest⟩
        · have hmore := ih (before ++ [c]) (by
            rw [List.forall_mem_append]
            exact ⟨hbefore, by simpa using hc⟩) (by simpa using hnone)
          exact absurd hmore.1 (by simp)
    exact fun hnone => (hbehind [] (by simp) hnone).2
  · intro hblank
    induction text with
    | nil => exact words_nil
    | cons c rest ih =>
      rw [isBlank, List.all_cons, Bool.and_eq_true] at hblank
      rw [words_cons_blank c rest hblank.1, ih hblank.2]
/-- What is written of a text, behind a blank or not. -/
def spaced (inBlanks : Bool) (text : Text) : Text :=
  (text.foldl Squeezed.push ⟨[], inBlanks⟩).written.reverse

theorem written_foldl_push (text written : Text) (inBlanks : Bool) :
    (text.foldl Squeezed.push ⟨written, inBlanks⟩).written.reverse =
      written.reverse ++ spaced inBlanks text := by
  induction text generalizing written inBlanks with
  | nil => simp [spaced]
  | cons c rest ih =>
    rw [spaced, List.foldl_cons, List.foldl_cons]
    by_cases hc : isBlankChar c = true
    · cases inBlanks with
      | true => simp only [Squeezed.push, hc, if_true, ih, List.reverse_nil, List.nil_append]
      | false => simp [Squeezed.push, hc, ih]
    · simp [Squeezed.push, hc, ih]

theorem spaced_blank (c : Char) (rest : Text) (inBlanks : Bool) (hc : isBlankChar c = true) :
    spaced inBlanks (c :: rest) = (if inBlanks then [] else [' ']) ++ spaced true rest := by
  rw [spaced, List.foldl_cons, Squeezed.push, if_pos hc, written_foldl_push]
  cases inBlanks <;> rfl

theorem spaced_solid (c : Char) (rest : Text) (inBlanks : Bool) (hc : isBlankChar c = false) :
    spaced inBlanks (c :: rest) = c :: spaced false rest := by
  rw [spaced, List.foldl_cons, Squeezed.push, if_neg (by simp [hc]), written_foldl_push]
  rfl

/-- Behind blanks the words of a text are written, and a space at most behind them. So they are
behind the start of a word, which the first of them goes on with. -/
theorem exists_spaced (text : Text) :
    (∃ right, isBlank right = true ∧ spaced true text = joined [' '] (words text) ++ right) ∧
      ∀ word, IsSolid word →
        ∃ right, isBlank right = true ∧
          word ++ spaced false text = joined [' '] (words (word ++ text)) ++ right := by
  induction text with
  | nil =>
    refine ⟨⟨[], rfl, by simp [spaced, words_nil, joined]⟩, fun word hword => ⟨[], rfl, ?_⟩⟩
    have hone := words_of_isSolid word hword
    simp [spaced, joined, hone]
  | cons c rest ih =>
    obtain ⟨⟨right, hright, hspaced⟩, hbehind⟩ := ih
    by_cases hc : isBlankChar c = true
    · refine ⟨⟨right, hright, ?_⟩, fun word hword => ?_⟩
      · rw [spaced_blank c rest true hc, words_cons_blank c rest hc, ← hspaced]
        rfl
      · rw [words_append_blank word rest c hc, words_of_isSolid word hword,
          spaced_blank c rest false hc, hspaced]
        -- The space counts as blank behind the last word, and else stands between two words.
        by_cases hnone : words rest = []
        · refine ⟨' ' :: right, ?_, ?_⟩
          · rw [isBlank, List.all_cons, ← isBlank, hright]
            decide
          · simp [hnone, joined]
        · refine ⟨right, hright, ?_⟩
          rw [List.singleton_append, joined_cons [' '] word _ hnone]
          simp
    · have hsolid : isBlankChar c = false := by simpa using hc
      refine ⟨?_, fun word hword => ?_⟩
      · rw [spaced_solid c rest true hsolid]
        exact hbehind [c] ⟨by simp, by simpa using hsolid⟩
      · have hmore : IsSolid (word ++ [c]) := by
          refine ⟨by simp, ?_⟩
          rw [List.forall_mem_append]
          exact ⟨hword.2, by simpa using hsolid⟩
        have hfound := hbehind (word ++ [c]) hmore
        rw [spaced_solid c rest false hsolid]
        simpa using hfound

theorem strip_of_margins (left body right : Text) (hleft : isBlank left = true)
    (hright : isBlank right = true) (hhead : ∀ c ∈ body.head?, isBlankChar c = false)
    (hlast : ∀ c ∈ body.getLast?, isBlankChar c = false) :
    strip (left ++ body ++ right) = body := by
  by_cases hnone : body = []
  · have hblank : isBlank (left ++ body ++ right) = true := by
      simp only [isBlank, hnone, List.append_nil, List.all_append, Bool.and_eq_true]
      exact ⟨hleft, hright⟩
    rw [(strip_eq_nil_iff _).2 hblank, hnone]
  · have hdropped : (left ++ body ++ right).dropWhile isBlankChar = body ++ right := by
      rw [List.append_assoc]
      apply dropWhile_run _ _ _ (List.all_eq_true.1 hleft)
      rwa [List.head?_append_of_ne_nil body hnone]
    have hreverse : isBlank right.reverse = true := by rwa [isBlank, List.all_reverse]
    rw [strip, hdropped, List.reverse_append,
      dropWhile_run _ _ _ (List.all_eq_true.1 hreverse) (by rwa [List.head?_reverse]),
      List.reverse_reverse]

theorem joined_ends (words : List Text) (hne : words ≠ []) (h : ∀ word ∈ words, IsSolid word) :
    joined [' '] words ≠ [] ∧ (∀ c ∈ (joined [' '] words).head?, isBlankChar c = false) ∧
      ∀ c ∈ (joined [' '] words).getLast?, isBlankChar c = false := by
  induction words with
  | nil => exact absurd rfl hne
  | cons word words ih =>
    obtain ⟨hword, hsolid⟩ := h word List.mem_cons_self
    have hhead : ∀ c ∈ word.head?, isBlankChar c = false := fun c hc =>
      hsolid c (List.mem_of_mem_head? hc)
    by_cases hnone : words = []
    · have hone : joined [' '] [word] = word := by simp [joined]
      rw [hnone, hone]
      exact ⟨hword, hhead, fun c hc => hsolid c (List.mem_of_getLast? hc)⟩
    · obtain ⟨hrest, -, hlast⟩ :=
        ih hnone fun other hother => h other (List.mem_cons_of_mem _ hother)
      rw [joined_cons [' '] word words hnone, List.append_assoc]
      refine ⟨by simp [hword], ?_, ?_⟩
      · rwa [List.head?_append_of_ne_nil word hword]
      · rwa [← List.append_assoc, List.getLast?_append_of_ne_nil _ hrest]

/-- Nothing is left of texts exactly if all of them are blank. -/
theorem joined_words_eq_nil_iff (texts : List Text) :
    joined [' '] (texts.flatMap words) = [] ↔ ∀ text ∈ texts, isBlank text = true := by
  have hwords : texts.flatMap words = [] ↔ ∀ text ∈ texts, isBlank text = true := by
    rw [List.flatMap_eq_nil_iff]
    simp only [words_eq_nil_iff]
  rw [← hwords]
  constructor
  · intro hnone
    by_contra hne
    have hsolid : ∀ word ∈ texts.flatMap words, IsSolid word := by
      intro word hword
      obtain ⟨text, -, hmem⟩ := List.mem_flatMap.1 hword
      exact isSolid_of_mem_words text word hmem
    exact (joined_ends _ hne hsolid).1 hnone
  · intro hnone
    rw [hnone]
    rfl

theorem squeeze_eq_joined_words (text : Text) : squeeze text = joined [' '] (words text) := by
  have hends : (∀ c ∈ (joined [' '] (words text)).head?, isBlankChar c = false) ∧
      ∀ c ∈ (joined [' '] (words text)).getLast?, isBlankChar c = false := by
    by_cases hnone : words text = []
    · simp [hnone, joined]
    · exact (joined_ends (words text) hnone (isSolid_of_mem_words text)).2
  obtain ⟨left, right, hleft, hright, hspaced⟩ : ∃ left right, isBlank left = true ∧
      isBlank right = true ∧ spaced false text = left ++ joined [' '] (words text) ++ right := by
    cases text with
    | nil => exact ⟨[], [], rfl, rfl, by simp [spaced, words_nil, joined]⟩
    | cons c rest =>
      by_cases hc : isBlankChar c = true
      · obtain ⟨right, hright, hspaced⟩ := (exists_spaced rest).1
        refine ⟨[' '], right, by decide, hright, ?_⟩
        rw [spaced_blank c rest false hc, hspaced, words_cons_blank c rest hc]
        simp
      · have hsolid : isBlankChar c = false := by simpa using hc
        obtain ⟨right, hright, hspaced⟩ :=
          (exists_spaced rest).2 [c] ⟨by simp, by simpa using hsolid⟩
        exact ⟨[], right, rfl, hright, (spaced_solid c rest false hsolid).trans hspaced⟩
  have hsqueeze : squeeze text = strip (spaced false text) := rfl
  rw [hsqueeze, hspaced, strip_of_margins left _ right hleft hright hends.1 hends.2]

end Quarry.Text
