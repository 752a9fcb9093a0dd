import Mathlib
import Quarry.Policy
import Quarry.Proofs.Text.Lowered
import Quarry.Proofs.Text.Pieces

/-! The spellings of a key of several words. They have one normal form, and the policy judges them
alike, as long as no word of one letter is written as a capital in front of another capital: between
two capitals no boundary of words can be seen. -/
namespace Quarry.Policy

/-- A small letter, and small letters or digits behind it, of ASCII. -/
def IsKeyWord (word : Text) : Prop :=
  ∃ first rest, word = first :: rest ∧ first.isLower = true ∧
    ∀ c ∈ rest, c.isLower = true ∨ c.isDigit = true

theorem isKeyWord_cons (first : Char) (rest : Text) (hfirst : first.isLower = true)
    (hrest : (rest.all fun c => c.isLower || c.isDigit) = true) : IsKeyWord (first :: rest) :=
  ⟨first, rest, rfl, hfirst, by simpa using hrest⟩

/-- A word with a capital in front. -/
def capitalized : Text → Text
  | [] => []
  | first :: rest => first.toUpper :: rest

def snakeCase (words : List Text) : Text := Text.joined ['_'] words

def kebabCase (words : List Text) : Text := Text.joined ['-'] words

def pascalCase (words : List Text) : Text := words.flatMap capitalized

def camelCase : List Text → Text
  | [] => []
  | word :: others => word ++ pascalCase others

/-- Words as they are told apart where each one starts with a capital: a word of one letter is taken
for a part of the next one. -/
def runTogether : List Text → List Text
  | [] => []
  | [word] => [word]
  | word :: next :: others =>
    if word.length = 1 then (runTogether (next :: others)).modifyHead (word ++ ·)
    else word :: runTogether (next :: others)

section Boundaries

/-- Whether a word ends where two texts meet. -/
def meetsBoundary (before after : Text) : Bool :=
  match before.getLast?, after.head? with
  | some last, some first => isWordBoundary last first
  | _, _ => false

theorem separateWords_append (before after : Text) :
    separateWords (before ++ after) = separateWords before ++
      ((if meetsBoundary before after then ['_'] else []) ++ separateWords after) := by
  induction before with
  | nil => simp [separateWords, meetsBoundary]
  | cons a before ih =>
    -- A boundary is seen from two characters, so the last one in front looks across.
    cases before with
    | nil =>
      cases after with
      | nil => simp [separateWords, meetsBoundary]
      | cons b after =>
        by_cases hboundary : isWordBoundary a b = true
        · simp [separateWords, meetsBoundary, hboundary]
        · simp [separateWords, meetsBoundary, hboundary]
    | cons b before =>
      have hmeets : meetsBoundary (a :: b :: before) after = meetsBoundary (b :: before) after := by
        simp [meetsBoundary]
      rw [hmeets]
      rw [List.cons_append] at ih
      rw [List.cons_append, List.cons_append, separateWords, ih, separateWords]
      by_cases hboundary : isWordBoundary a b = true
      · simp [hboundary]
      · simp [hboundary]

/-- Only capitals start a new word. -/
theorem separateWords_of_tail (text : Text) (h : ∀ c ∈ text.tail, c.isUpper = false) :
    separateWords text = text := by
  induction text with
  | nil => rfl
  | cons a text ih =>
    cases text with
    | nil => rfl
    | cons b text =>
      have hb : isWordBoundary a b = false := by simp [isWordBoundary, h b (by simp)]
      have htext := ih fun c hc => h c (List.mem_cons_of_mem _ hc)
      rw [separateWords, hb, htext]
      rfl

theorem mem_separateWords (text : Text) (c : Char) (h : c ∈ separateWords text) :
    c = '_' ∨ c ∈ text := by
  induction text with
  | nil => cases h
  | cons a text ih =>
    cases text with
    | nil => exact Or.inr h
    | cons b text =>
      rw [separateWords] at h
      split at h
      · rcases List.mem_cons.1 h with rfl | h
        · exact Or.inr List.mem_cons_self
        rcases List.mem_cons.1 h with rfl | h
        · exact Or.inl rfl
        · exact (ih h).imp_right (List.mem_cons_of_mem _)
      · rcases List.mem_cons.1 h with rfl | h
        · exact Or.inr List.mem_cons_self
        · exact (ih h).imp_right (List.mem_cons_of_mem _)

end Boundaries

section Characters

theorem toNat_lt_of_small (c : Char) (h : c.isLower = true ∨ c.isDigit = true) :
    c.toNat < 128 := by
  simp only [Char.isLower, Char.isDigit, Bool.and_eq_true, decide_eq_true_eq, ge_iff_le,
    UInt32.le_iff_toNat_le] at h
  have hc : c.val.toNat = c.toNat := rfl
  have hz : 'z'.val.toNat = 122 := rfl
  have hnine : '9'.val.toNat = 57 := rfl
  omega

theorem small_facts (c : Char) (h : c.isLower = true ∨ c.isDigit = true) :
    c.isUpper = false ∧ c ≠ '-' ∧ c ≠ '_' ∧ c.toLower = c :=
  Text.of_ascii (motive := fun c => c.isLower = true ∨ c.isDigit = true →
      c.isUpper = false ∧ c ≠ '-' ∧ c ≠ '_' ∧ c.toLower = c)
    (by decide +kernel) c (toNat_lt_of_small c h) h

theorem capital_facts (c : Char) (h : c.isLower = true) :
    c.toUpper.toNat < 128 ∧ c.toUpper ≠ '-' ∧ c.toUpper.toLower = c ∧
      c.toUpper.isUpper = true ∧ c.toUpper.isLower = false ∧ c.toUpper.isDigit = false :=
  Text.of_ascii (motive := fun c => c.isLower = true →
      c.toUpper.toNat < 128 ∧ c.toUpper ≠ '-' ∧ c.toUpper.toLower = c ∧
        c.toUpper.isUpper = true ∧ c.toUpper.isLower = false ∧ c.toUpper.isDigit = false)
    (by decide +kernel) c (toNat_lt_of_small c (Or.inl h)) h

theorem IsKeyWord.small {word : Text} (h : IsKeyWord word) (c : Char) (hc : c ∈ word) :
    c.isLower = true ∨ c.isDigit = true := by
  obtain ⟨first, rest, rfl, hfirst, hrest⟩ := h
  rcases List.mem_cons.1 hc with rfl | hc
  · exact Or.inl hfirst
  · exact hrest c hc

theorem IsKeyWord.underscore_notMem {word : Text} (h : IsKeyWord word) : '_' ∉ word := fun hmem =>
  (small_facts '_' (h.small '_' hmem)).2.2.1 rfl

theorem mem_capitalized (word : Text) (h : IsKeyWord word) (c : Char)
    (hc : c ∈ capitalized word) : c.toNat < 128 ∧ c ≠ '-' := by
  obtain ⟨first, rest, rfl, hfirst, hrest⟩ := h
  rcases List.mem_cons.1 hc with rfl | hc
  · obtain ⟨hascii, hdash, -⟩ := capital_facts first hfirst
    exact ⟨hascii, hdash⟩
  · exact ⟨toNat_lt_of_small c (hrest c hc), (small_facts c (hrest c hc)).2.1⟩

theorem map_toLower_word (word : Text) (h : IsKeyWord word) : word.map Char.toLower = word := by
  calc word.map Char.toLower = word.map id :=
        List.map_congr_left fun c hc => (small_facts c (h.small c hc)).2.2.2
    _ = word := List.map_id word

theorem map_toLower_capitalized (word : Text) (h : IsKeyWord word) :
    (capitalized word).map Char.toLower = word := by
  obtain ⟨first, rest, rfl, hfirst, -⟩ := id h
  have hword := map_toLower_word _ h
  rw [List.map_cons, List.cons.injEq] at hword
  rw [capitalized, List.map_cons, (capital_facts first hfirst).2.2.1, hword.2]

end Characters

section NormalForms

theorem map_joined (f : Char → Char) (separator : Text) (pieces : List Text) :
    (Text.joined separator pieces).map f =
      Text.joined (separator.map f) (pieces.map (List.map f)) := by
  induction pieces with
  | nil => rfl
  | cons piece pieces ih =>
    by_cases hn : pieces = []
    · simp [hn, Text.joined]
    · rw [Text.joined_cons _ _ _ hn, List.map_cons, Text.joined_cons _ _ _ (by simpa using hn),
        ← ih, List.map_append, List.map_append]

theorem mem_joined (separator : Text) (pieces : List Text) (c : Char)
    (h : c ∈ Text.joined separator pieces) : c ∈ separator ∨ ∃ piece ∈ pieces, c ∈ piece := by
  induction pieces with
  | nil => cases h
  | cons piece pieces ih =>
    by_cases hn : pieces = []
    · exact Or.inr ⟨piece, List.mem_cons_self, by simpa [hn, Text.joined] using h⟩
    · rw [Text.joined_cons _ _ _ hn, List.mem_append, List.mem_append] at h
      rcases h with (h | h) | h
      · exact Or.inr ⟨piece, List.mem_cons_self, h⟩
      · exact Or.inl h
      · rcases ih h with hc | ⟨other, hother, hc⟩
        · exact Or.inl hc
        · exact Or.inr ⟨other, List.mem_cons_of_mem _ hother, hc⟩

theorem map_of_dash_notMem (key : Text) (h : '-' ∉ key) :
    (key.map fun c => if c = '-' then '_' else c) = key := by
  conv_rhs => rw [← List.map_id key]
  apply List.map_congr_left
  intro c hc
  exact if_neg fun (heq : c = '-') => h (heq ▸ hc)

/-- A key of ASCII without dashes is cut into words and written small. -/
theorem normalize_ascii (key : Text) (h : ∀ c ∈ key, c.toNat < 128 ∧ c ≠ '-') :
    normalize key = (separateWords key).map Char.toLower := by
  have hfacts (c : Char) (hc : c ∈ separateWords key) : c.toNat < 128 ∧ c ≠ '-' := by
    rcases mem_separateWords key c hc with rfl | hc
    · decide
    · exact h c hc
  have hdash : '-' ∉ separateWords key := fun hc => (hfacts '-' hc).2 rfl
  rw [normalize, map_of_dash_notMem _ hdash]
  exact Text.lowerFrom_ascii false _ fun c hc => (hfacts c hc).1

theorem normalize_joined (separator : Char) (hseparator : separator = '_' ∨ separator = '-')
    (words : List Text) (h : ∀ word ∈ words, IsKeyWord word) :
    normalize (Text.joined [separator] words) = snakeCase words := by
  have hsmall (c : Char) (hc : c ∈ Text.joined [separator] words) : c.isUpper = false := by
    rcases mem_joined _ _ c hc with hc | ⟨word, hword, hc⟩
    · rw [List.mem_singleton.1 hc]
      rcases hseparator with rfl | rfl <;> decide
    · exact (small_facts c ((h word hword).small c hc)).1
  have hdash : (Text.joined [separator] words).map (fun c => if c = '-' then '_' else c) =
      snakeCase words := by
    have hwords : words.map (List.map fun c => if c = '-' then '_' else c) = words.map id := by
      apply List.map_congr_left
      intro word hword
      exact map_of_dash_notMem word fun hc => (small_facts '-' ((h word hword).small '-' hc)).2.1 rfl
    rw [map_joined, hwords, List.map_id, snakeCase]
    rcases hseparator with rfl | rfl <;> rfl
  have hascii (c : Char) (hc : c ∈ snakeCase words) : c.toNat < 128 := by
    rcases mem_joined _ _ c hc with hc | ⟨word, hword, hc⟩
    · rw [List.mem_singleton.1 hc]
      decide
    · exact toNat_lt_of_small c ((h word hword).small c hc)
  have hlower : (snakeCase words).map Char.toLower = snakeCase words := by
    have hwords : words.map (List.map Char.toLower) = words.map id :=
      List.map_congr_left fun word hword => map_toLower_word word (h word hword)
    rw [snakeCase, map_joined, hwords, List.map_id]
    rfl
  rw [normalize, separateWords_of_tail _ fun c hc => hsmall c (List.mem_of_mem_tail hc), hdash]
  exact (Text.lowerFrom_ascii false _ hascii).trans hlower

/-- In front of a word with a capital, the last character settles whether a word ends. -/
theorem meetsBoundary_pascalCase (before : Text) (last : Char) (hlast : before.getLast? = some last)
    (words : List Text) (h : ∀ word ∈ words, IsKeyWord word) (hn : words ≠ []) :
    meetsBoundary before (pascalCase words) = (last.isLower || last.isDigit) := by
  obtain ⟨word, others, rfl⟩ := List.exists_cons_of_ne_nil hn
  obtain ⟨first, rest, rfl, hfirst, -⟩ := h word List.mem_cons_self
  have hcapital := (capital_facts first hfirst).2.2.2.1
  simp [meetsBoundary, hlast, pascalCase, capitalized, isWordBoundary, hcapital]

theorem meetsBoundary_word (word : Text) (hword : IsKeyWord word) (words : List Text)
    (h : ∀ word ∈ words, IsKeyWord word) (hn : words ≠ []) :
    meetsBoundary word (pascalCase words) = true := by
  have hnil : word ≠ [] := by
    obtain ⟨first, rest, rfl, -⟩ := hword
    exact List.cons_ne_nil first rest
  have hlast := hword.small _ (List.getLast_mem hnil)
  rw [meetsBoundary_pascalCase word _ (List.getLast?_eq_some_getLast hnil) words h hn]
  simpa using hlast

theorem meetsBoundary_capitalized (word : Text) (hword : IsKeyWord word) (words : List Text)
    (h : ∀ word ∈ words, IsKeyWord word) (hn : words ≠ []) :
    meetsBoundary (capitalized word) (pascalCase words) = decide (word.length ≠ 1) := by
  obtain ⟨first, rest, rfl, hfirst, hrest⟩ := hword
  by_cases hnil : rest = []
  · -- The only letter is a capital, and no word is seen to end behind it.
    subst hnil
    obtain ⟨-, -, -, -, hlower, hdigit⟩ := capital_facts first hfirst
    rw [meetsBoundary_pascalCase _ first.toUpper rfl words h hn, hlower, hdigit]
    rfl
  · have hlast : (capitalized (first :: rest)).getLast? = some (rest.getLast hnil) := by
      rw [capitalized, List.getLast?_cons_of_ne_nil hnil, List.getLast?_eq_some_getLast hnil]
    rw [meetsBoundary_pascalCase _ _ hlast words h hn]
    simpa [hnil] using hrest _ (List.getLast_mem hnil)

theorem separateWords_capitalized (word : Text) (hword : IsKeyWord word) :
    separateWords (capitalized word) = capitalized word := by
  obtain ⟨first, rest, rfl, -, hrest⟩ := hword
  exact separateWords_of_tail _ fun c hc => (small_facts c (hrest c hc)).1

end NormalForms

section RunTogether

theorem runTogether_ne_nil (words : List Text) (hn : words ≠ []) : runTogether words ≠ [] := by
  induction words with
  | nil => exact absurd rfl hn
  | cons word words ih =>
    cases words with
    | nil => simp [runTogether]
    | cons next others =>
      have hinner := ih (by simp)
      rw [runTogether]
      split
      · simpa using hinner
      · simp

theorem joined_modifyHead (separator word : Text) (pieces : List Text) (hn : pieces ≠ []) :
    Text.joined separator (pieces.modifyHead (word ++ ·)) =
      word ++ Text.joined separator pieces := by
  obtain ⟨piece, others, rfl⟩ := List.exists_cons_of_ne_nil hn
  rw [List.modifyHead_cons]
  by_cases hothers : others = []
  · simp [hothers, Text.joined]
  · rw [Text.joined_cons _ _ _ hothers, Text.joined_cons _ _ _ hothers, List.append_assoc,
      List.append_assoc, List.append_assoc]

/-- Words with capitals are cut apart again, except for those of one letter. -/
theorem separated_pascalCase (words : List Text) (h : ∀ word ∈ words, IsKeyWord word) :
    (separateWords (pascalCase words)).map Char.toLower = snakeCase (runTogether words) := by
  induction words with
  | nil => rfl
  | cons word words ih =>
    obtain ⟨hword, hwords⟩ := List.forall_mem_cons.1 h
    have hcut : pascalCase (word :: words) = capitalized word ++ pascalCase words := rfl
    have hhead : (separateWords (capitalized word)).map Char.toLower = word := by
      rw [separateWords_capitalized word hword, map_toLower_capitalized word hword]
    rw [hcut, separateWords_append, List.map_append, List.map_append, hhead]
    -- Behind the last word no boundary is looked for, whatever its length.
    cases words with
    | nil => simp [pascalCase, meetsBoundary, separateWords, runTogether, snakeCase, Text.joined]
    | cons next others =>
      have hn : next :: others ≠ [] := List.cons_ne_nil next others
      have hrest := runTogether_ne_nil _ hn
      rw [ih hwords, meetsBoundary_capitalized word hword _ hwords hn, runTogether, snakeCase,
        snakeCase]
      by_cases hone : word.length = 1
      · rw [if_pos hone, joined_modifyHead _ _ _ hrest]
        simp [hone]
      · rw [if_neg hone, Text.joined_cons _ _ _ hrest]
        simp [hone]

theorem normalize_pascalCase (words : List Text) (h : ∀ word ∈ words, IsKeyWord word) :
    normalize (pascalCase words) = snakeCase (runTogether words) := by
  rw [normalize_ascii, separated_pascalCase words h]
  intro c hc
  obtain ⟨word, hword, hc⟩ := List.mem_flatMap.1 hc
  exact mem_capitalized word (h word hword) c hc

theorem normalize_camelCase (word : Text) (words : List Text) (hword : IsKeyWord word)
    (h : ∀ word ∈ words, IsKeyWord word) :
    normalize (camelCase (word :: words)) = snakeCase (word :: runTogether words) := by
  have hascii (c : Char) (hc : c ∈ camelCase (word :: words)) : c.toNat < 128 ∧ c ≠ '-' := by
    rcases List.mem_append.1 hc with hc | hc
    · exact ⟨toNat_lt_of_small c (hword.small c hc), (small_facts c (hword.small c hc)).2.1⟩
    · obtain ⟨other, hother, hc⟩ := List.mem_flatMap.1 hc
      exact mem_capitalized other (h other hother) c hc
  have hhead : separateWords word = word :=
    separateWords_of_tail word fun c hc => (small_facts c (hword.small c (List.mem_of_mem_tail hc))).1
  rw [normalize_ascii _ hascii, camelCase, separateWords_append, hhead, List.map_append,
    List.map_append, separated_pascalCase words h, map_toLower_word word hword]
  by_cases hn : words = []
  · simp [hn, pascalCase, meetsBoundary, runTogether, snakeCase, Text.joined]
  · rw [meetsBoundary_word word hword words h hn, snakeCase, snakeCase,
      Text.joined_cons _ _ _ (runTogether_ne_nil words hn)]
    simp

theorem length_runTogether_le (words : List Text) : (runTogether words).length ≤ words.length := by
  induction words with
  | nil => exact Nat.le_refl _
  | cons word words ih =>
    cases words with
    | nil => exact Nat.le_refl _
    | cons next others =>
      rw [runTogether]
      split
      · rw [List.length_modifyHead]
        exact Nat.le_succ_of_le ih
      · exact Nat.succ_le_succ ih

/-- Words stay apart just if none but the last has one letter. -/
theorem runTogether_eq_self_iff (words : List Text) :
    runTogether words = words ↔ ∀ word ∈ words.dropLast, word.length ≠ 1 := by
  induction words with
  | nil => simp [runTogether]
  | cons word words ih =>
    cases words with
    | nil => simp [runTogether]
    | cons next others =>
      rw [runTogether, List.dropLast_cons_of_ne_nil (List.cons_ne_nil next others),
        List.forall_mem_cons, ← ih]
      by_cases hone : word.length = 1
      · -- Then two words become one, and fewer words are left.
        have hshorter := length_runTogether_le (next :: others)
        rw [if_pos hone]
        refine iff_of_false (fun h => ?_) fun h => h.1 hone
        have hlength := congrArg List.length h
        rw [List.length_modifyHead, List.length_cons] at hlength
        omega
      · rw [if_neg hone, List.cons.injEq]
        exact ⟨fun h => ⟨hone, h.2⟩, fun h => ⟨rfl, h.2⟩⟩

theorem underscore_notMem_runTogether (words : List Text) (h : ∀ word ∈ words, '_' ∉ word)
    (piece : Text) (hpiece : piece ∈ runTogether words) : '_' ∉ piece := by
  induction words generalizing piece with
  | nil => cases hpiece
  | cons word words ih =>
    obtain ⟨hword, hwords⟩ := List.forall_mem_cons.1 h
    cases words with
    | nil =>
      rw [List.mem_singleton.1 hpiece]
      exact hword
    | cons next others =>
      obtain ⟨first, rest, hrest⟩ :=
        List.exists_cons_of_ne_nil (runTogether_ne_nil (next :: others) (by simp))
      rw [runTogether, hrest] at hpiece
      split at hpiece
      · rcases List.mem_cons.1 hpiece with rfl | hpiece
        · have hfirst := ih hwords first (by simp [hrest])
          simp [hword, hfirst]
        · exact ih hwords piece (by simp [hrest, hpiece])
      · rcases List.mem_cons.1 hpiece with rfl | hpiece
        · exact hword
        · exact ih hwords piece (by rwa [hrest])

/-- Words without underscores can be read off their snake case. -/
theorem snakeCase_inj (first second : List Text) (hfirst : ∀ word ∈ first, '_' ∉ word)
    (hsecond : ∀ word ∈ second, '_' ∉ word) (hn : first ≠ []) (hn' : second ≠ [])
    (h : snakeCase first = snakeCase second) : first = second := by
  calc first = Text.cut '_' (snakeCase first) := (Text.cut_joined '_' first hfirst hn).symm
    _ = Text.cut '_' (snakeCase second) := by rw [h]
    _ = second := Text.cut_joined '_' second hsecond hn'

end RunTogether

/-- Keys that are kept or dropped together, whatever else is allowed and denied. -/
def JudgedAlike (first second : Text) : Prop :=
  ∀ allow deny policy, standardWith allow deny = .ok policy →
    policy.keepsKey first = policy.keepsKey second

section Judgements

theorem judgedAlike_of_normalize (first second : Text) (h : normalize first = normalize second) :
    JudgedAlike first second := by
  intro allow deny policy _
  rw [keepsKey, keepsKey, h]

theorem occurs_empty (text : Text) : Pattern.occurs .empty text = true := by
  cases text <;> rfl

/-- Where everything is denied that is not allowed, a key of another normal form is dropped. -/
theorem exists_standardWith_apart (first second : Text) (h : normalize first ≠ normalize second)
    (hprose : normalize second ∉ proseKeys) :
    ∃ policy, standardWith [first] [[]] = .ok policy ∧ policy.keepsKey first = true ∧
      policy.keepsKey second = false := by
  refine ⟨⟨proseKeys ++ [normalize first], standardDenied ++ [.empty]⟩, rfl, ?_, ?_⟩
  · simp [keepsKey]
  · simp [keepsKey, hprose, Ne.symm h, occurs_empty]

theorem underscore_mem_snakeCase (first second : Text) (others : List Text) :
    '_' ∈ snakeCase (first :: second :: others) := by
  rw [snakeCase, Text.joined_cons _ _ _ (List.cons_ne_nil second others)]
  simp

theorem not_prose_of_underscore (key : Text) (h : '_' ∈ key) : key ∉ proseKeys := by
  have hprose : ∀ key ∈ proseKeys, '_' ∉ key := by decide
  exact fun hmem => hprose key hmem h

/-- A key is judged as words in snake case just if its normal form has the same words. -/
theorem judgedAlike_snakeCase_iff (words pieces : List Text) (h : ∀ word ∈ words, IsKeyWord word)
    (hpieces : ∀ piece ∈ pieces, '_' ∉ piece) (hn : pieces ≠ [])
    (hshort : words.length ≤ 1 → pieces = words) (key : Text)
    (hkey : normalize key = snakeCase pieces) :
    JudgedAlike key (snakeCase words) ↔ pieces = words := by
  have hsnake : normalize (snakeCase words) = snakeCase words :=
    normalize_joined '_' (Or.inl rfl) words h
  have hplain (word : Text) (hword : word ∈ words) : '_' ∉ word := (h word hword).underscore_notMem
  constructor
  · intro halike
    match words with
    | [] => exact hshort (Nat.zero_le 1)
    | [word] => exact hshort (Nat.le_refl 1)
    | first :: second :: others =>
      by_contra hne
      have hapart : normalize key ≠ normalize (snakeCase (first :: second :: others)) := by
        rw [hkey, hsnake]
        exact fun hjoined => hne (snakeCase_inj _ _ hpieces hplain hn (by simp) hjoined)
      -- Words side by side are no key of prose, so a policy can drop them.
      have hprose : normalize (snakeCase (first :: second :: others)) ∉ proseKeys := by
        rw [hsnake]
        exact not_prose_of_underscore _ (underscore_mem_snakeCase first second others)
      obtain ⟨policy, hpolicy, hkept, hdropped⟩ := exists_standardWith_apart _ _ hapart hprose
      rw [halike _ _ policy hpolicy, hdropped] at hkept
      cases hkept
  · intro heq
    apply judgedAlike_of_normalize
    rw [hkey, hsnake, heq]

end Judgements

/-- A key is judged alike in snake case and kebab case. In camel case and Pascal case it is judged as
in the other two, whatever the policy, just if no word of one letter is written as a capital in front
of another word. -/
theorem keepsKey_spellings (words : List Text) (h : ∀ word ∈ words, IsKeyWord word) :
    JudgedAlike (kebabCase words) (snakeCase words) ∧
    (JudgedAlike (camelCase words) (snakeCase words) ↔
      ∀ word ∈ words.tail.dropLast, word.length ≠ 1) ∧
    (JudgedAlike (pascalCase words) (snakeCase words) ↔
      ∀ word ∈ words.dropLast, word.length ≠ 1) := by
  have hsnake := normalize_joined '_' (Or.inl rfl) words h
  have hkebab := normalize_joined '-' (Or.inr rfl) words h
  have hplain (word : Text) (hword : word ∈ words) : '_' ∉ word := (h word hword).underscore_notMem
  refine ⟨judgedAlike_of_normalize _ _ (hkebab.trans hsnake.symm), ?_⟩
  cases words with
  | nil =>
    have hsame : JudgedAlike [] [] := judgedAlike_of_normalize [] [] rfl
    exact ⟨iff_of_true hsame (by simp), iff_of_true hsame (by simp)⟩
  | cons word others =>
    obtain ⟨hword, hothers⟩ := List.forall_mem_cons.1 h
    obtain ⟨hw, ho⟩ := List.forall_mem_cons.1 hplain
    have hcamel : ∀ piece ∈ word :: runTogether others, '_' ∉ piece :=
      List.forall_mem_cons.2 ⟨hw, underscore_notMem_runTogether others ho⟩
    have hpascal := underscore_notMem_runTogether (word :: others) hplain
    -- A single word cannot run together with another one.
    have hshort (hlength : (word :: others).length ≤ 1) :
        word :: runTogether others = word :: others ∧
          runTogether (word :: others) = word :: others := by
      obtain rfl : others = [] := by simpa using hlength
      exact ⟨rfl, rfl⟩
    have hcamelIff := judgedAlike_snakeCase_iff _ _ h hcamel (List.cons_ne_nil _ _)
      (fun hlength => (hshort hlength).1) _ (normalize_camelCase word others hword hothers)
    have hpascalIff := judgedAlike_snakeCase_iff _ _ h hpascal
      (runTogether_ne_nil _ (List.cons_ne_nil _ _)) (fun hlength => (hshort hlength).2) _
      (normalize_pascalCase _ h)
    refine ⟨?_, hpascalIff.trans (runTogether_eq_self_iff _)⟩
    calc JudgedAlike (camelCase (word :: others)) (snakeCase (word :: others))
        ↔ word :: runTogether others = word :: others := hcamelIff
      _ ↔ runTogether others = others := by rw [List.cons.injEq, and_iff_right rfl]
      _ ↔ ∀ word ∈ others.dropLast, word.length ≠ 1 := runTogether_eq_self_iff others

/-- A key with a digit at the end of a word, and one of one letter at its end. -/
theorem keepsKey_spellings_digits :
    let words : List Text := ["is".toList, "md5".toList, "x".toList]
    (∀ word ∈ words, IsKeyWord word) ∧ kebabCase words = "is-md5-x".toList ∧
    camelCase words = "isMd5X".toList ∧ pascalCase words = "IsMd5X".toList ∧
    ∀ key ∈ ["is-md5-x".toList, "isMd5X".toList, "IsMd5X".toList],
      Policy.standard.keepsKey key = Policy.standard.keepsKey "is_md5_x".toList := by
  intro words
  have hwords : ∀ word ∈ words, IsKeyWord word := by
    simp only [words, List.forall_mem_cons]
    exact ⟨isKeyWord_cons 'i' _ rfl rfl, isKeyWord_cons 'm' _ rfl rfl, isKeyWord_cons 'x' _ rfl rfl,
      by simp⟩
  have hcamel : ∀ word ∈ words.tail.dropLast, word.length ≠ 1 := by decide
  have hpascal : ∀ word ∈ words.dropLast, word.length ≠ 1 := by decide
  have hstandard : standardWith [] [] = .ok Policy.standard := rfl
  obtain ⟨hkebab, hcamelIff, hpascalIff⟩ := keepsKey_spellings words hwords
  refine ⟨hwords, rfl, rfl, rfl, ?_⟩
  simp only [List.forall_mem_cons]
  exact ⟨hkebab [] [] _ hstandard, hcamelIff.2 hcamel [] [] _ hstandard,
    hpascalIff.2 hpascal [] [] _ hstandard, by simp⟩

/-- Two words of one letter look like one word of two where both are capitals. -/
theorem initials_run_together :
    let words : List Text := ["user".toList, "i".toList, "d".toList]
    (∀ word ∈ words, IsKeyWord word) ∧ Policy.standard.keepsKey (snakeCase words) = true ∧
    Policy.standard.keepsKey (camelCase words) = false ∧
    Policy.standard.keepsKey (pascalCase words) = false := by
  intro words
  refine ⟨?_, ?_, ?_, ?_⟩
  · simp only [words, List.forall_mem_cons]
    exact ⟨isKeyWord_cons 'u' _ rfl rfl, isKeyWord_cons 'i' _ rfl rfl, isKeyWord_cons 'd' _ rfl rfl,
      by simp⟩
  · cbv
  · cbv
  · cbv

end Quarry.Policy
