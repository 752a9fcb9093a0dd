import Quarry.Proofs.Text.Lowered

/-! The lower case form of a text inside another one. It is the form of the text alone, unless a
capital sigma near its ends is lowered by letters outside of it. -/
namespace Quarry.Text

/-- Whether a cased letter has come last when a text has been read, case-ignorable characters
skipped. -/
def endsCased (afterCased : Bool) (text : Text) : Bool :=
  text.foldl (fun after c => if isCaseIgnorable c then after else isCased c) afterCased

/-- Whether a capital sigma between two texts is lowered to its final form. -/
def sigmaIsFinal (before after : Text) : Bool := endsCased false before && !startsCased after

/-- Between two others, every capital sigma of a text is lowered as it is in the text alone. -/
def KeepsSigmas (before text after : Text) : Prop :=
  ∀ first rest, text = first ++ capitalSigma :: rest →
    sigmaIsFinal (before ++ first) (rest ++ after) = sigmaIsFinal first rest

/-- A text stands in another one letter by letter, at a place where it keeps its sigmas. -/
def OccursAlike (text whole : Text) : Prop :=
  ∃ before after, whole = before ++ text ++ after ∧ KeepsSigmas before text after

theorem keepsSigmas_iff_forall_lt (before text after : Text) : KeepsSigmas before text after ↔
    ∀ n < text.length, text[n]? = some capitalSigma →
      sigmaIsFinal (before ++ text.take n) (text.drop (n + 1) ++ after) =
        sigmaIsFinal (text.take n) (text.drop (n + 1)) := by
  constructor
  · intro h n hn hsigma
    obtain ⟨hlt, hget⟩ := List.getElem?_eq_some_iff.1 hsigma
    apply h (text.take n) (text.drop (n + 1))
    rw [← hget, List.getElem_cons_drop, List.take_append_drop]
  · rintro h first rest rfl
    have hplace := h first.length (by simp) (by simp)
    simpa using hplace

instance (before text after : Text) : Decidable (KeepsSigmas before text after) :=
  decidable_of_iff _ (keepsSigmas_iff_forall_lt before text after).symm

theorem endsCased_append (afterCased : Bool) (first rest : Text) :
    endsCased afterCased (first ++ rest) = endsCased (endsCased afterCased first) rest :=
  List.foldl_append

/-- The places of a character in a text are its first place, if it stands there, and those behind
it. -/
theorem forall_split_cons (mark c : Char) (text : Text) (P : Text → Text → Prop) :
    (∀ first rest, c :: text = first ++ mark :: rest → P first rest) ↔
      (c = mark → P [] text) ∧
        ∀ first rest, text = first ++ mark :: rest → P (c :: first) rest := by
  constructor
  · intro h
    refine ⟨fun hc => h [] text (by rw [hc, List.nil_append]), fun first rest htext => ?_⟩
    exact h (c :: first) rest (by rw [htext, List.cons_append])
  · rintro ⟨hhere, hbehind⟩ first rest htext
    cases first with
    | nil =>
      obtain ⟨hc, rfl⟩ := List.cons.inj htext
      exact hhere hc
    | cons d first =>
      obtain ⟨rfl, hbelow⟩ := List.cons.inj htext
      exact hbehind first rest hbelow

theorem sigma_form_inj (first second : Bool) :
    (if first then finalSigma else innerSigma) = (if second then finalSigma else innerSigma) ↔
      first = second := by
  have hne : finalSigma ≠ innerSigma := by decide
  cases first <;> cases second <;> simp [hne, hne.symm]

/-- Behind what has been read, and with more to come, a text is lowered as it is from another state
and alone exactly if each of its capital sigmas is. -/
theorem lowerFrom_append_iff (inside alone : Bool) (text after : Text) :
    lowerFrom inside (text ++ after) =
        lowerFrom alone text ++ lowerFrom (endsCased inside text) after ↔
      ∀ first rest, text = first ++ capitalSigma :: rest →
        (endsCased inside first && !startsCased (rest ++ after)) =
          (endsCased alone first && !startsCased rest) := by
  induction text generalizing inside alone with
  | nil => simp [lowerFrom, endsCased]
  | cons c text ih =>
    rw [forall_split_cons, List.cons_append, lowerFrom, lowerFrom, List.append_assoc]
    -- The first character is lowered alike unless it is a sigma, and the rest as in the induction.
    have hrest := ih (if isCaseIgnorable c then inside else isCased c)
      (if isCaseIgnorable c then alone else isCased c)
    by_cases hc : c = capitalSigma
    · rw [if_pos hc, if_pos hc, List.singleton_append, List.singleton_append, List.cons.injEq,
        sigma_form_inj]
      exact and_congr (by simp [hc, endsCased]) hrest
    · rw [if_neg hc, if_neg hc, List.append_cancel_left_eq]
      exact hrest.trans (by simp [hc, endsCased])

/-- What comes before a text is lowered for itself, but for the sigmas at its end, which have one
form as the other. -/
theorem exists_lowerFrom_append (afterCased : Bool) (before text : Text) :
    ∃ front, lowerFrom afterCased (before ++ text) =
        front ++ lowerFrom (endsCased afterCased before) text ∧
      ∀ other, front.length = (lowerFrom other before).length := by
  induction before generalizing afterCased with
  | nil => exact ⟨[], rfl, fun other => rfl⟩
  | cons c before ih =>
    obtain ⟨front, hfront, hlength⟩ := ih (if isCaseIgnorable c then afterCased else isCased c)
    rw [List.cons_append, lowerFrom, hfront, ← List.append_assoc]
    refine ⟨_, rfl, fun other => ?_⟩
    rw [lowerFrom, List.length_append, List.length_append,
      hlength (if isCaseIgnorable c then other else isCased c)]
    by_cases hc : c = capitalSigma
    · simp only [if_pos hc, List.length_singleton]
    · simp only [if_neg hc]

/-- A text that keeps its sigmas inside another one occurs there in lower case. -/
theorem infix_lower (before text after : Text) (h : KeepsSigmas before text after) :
    lower text <:+: lower (before ++ text ++ after) := by
  have hinside : lowerFrom (endsCased false before) (text ++ after) =
      lower text ++ lowerFrom (endsCased (endsCased false before) text) after := by
    rw [lower, lowerFrom_append_iff]
    intro first rest htext
    rw [← endsCased_append]
    exact h first rest htext
  obtain ⟨front, hfront, -⟩ := exists_lowerFrom_append false before (text ++ after)
  refine ⟨front, lowerFrom (endsCased (endsCased false before) text) after, ?_⟩
  rw [List.append_assoc before, lower, lower, hfront, hinside, lower, List.append_assoc]

theorem startsCased_append (rest after : Text) : startsCased (rest ++ after) =
    if rest.all isCaseIgnorable then startsCased after else startsCased rest := by
  induction rest with
  | nil => rfl
  | cons c rest ih =>
    by_cases hc : isCaseIgnorable c = true
    · simpa [startsCased, hc] using ih
    · simp [startsCased, hc]

/-- Of what stands around a text only two facts decide the forms of its sigmas. -/
theorem keepsSigmas_congr (before other text after further : Text)
    (hbefore : endsCased false before = endsCased false other)
    (hafter : startsCased after = startsCased further) (h : KeepsSigmas before text after) :
    KeepsSigmas other text further := by
  intro first rest htext
  have hkept := h first rest htext
  simp only [sigmaIsFinal, endsCased_append, startsCased_append, hbefore, hafter] at hkept ⊢
  exact hkept

/-- A text as long as what stands between two others, which are one letter at most, is found there
alone if it neither starts nor ends with the letter. -/
theorem eq_of_infix_between (letter : Char) (needle before text after : Text)
    (hbefore : before = [] ∨ before = [letter]) (hafter : after = [] ∨ after = [letter])
    (hlength : text.length = needle.length) (hhead : needle.head? ≠ some letter)
    (hlast : needle.getLast? ≠ some letter) (h : needle <:+: before ++ text ++ after) :
    needle = text := by
  by_cases hne : needle = []
  · subst hne
    exact (List.length_eq_zero_iff.1 hlength).symm
  obtain ⟨front, back, hwhole⟩ := h
  have hsum := congrArg List.length hwhole
  simp only [List.length_append] at hsum
  -- One place further to the front or to the back, the needle would start or end with the letter.
  have hstart : front = [] → before = [] := by
    rintro rfl
    rcases hbefore with hbefore | rfl
    · exact hbefore
    · have hheads := congrArg List.head? hwhole
      simp [List.head?_append, hne, hhead] at hheads
  have hend : back = [] → after = [] := by
    rintro rfl
    rcases hafter with hafter | rfl
    · exact hafter
    · have hlasts := congrArg List.getLast? hwhole
      simp [List.getLast?_append, hne, hlast] at hlasts
  have hfront : front.length = before.length := by
    have hstart' : front.length = 0 → before.length = 0 := by simpa using hstart
    have hend' : back.length = 0 → after.length = 0 := by simpa using hend
    have hbefore' : before.length ≤ 1 := by rcases hbefore with rfl | rfl <;> simp
    have hafter' : after.length ≤ 1 := by rcases hafter with rfl | rfl <;> simp
    omega
  rw [List.append_assoc, List.append_assoc] at hwhole
  have hinner := (List.append_inj hwhole hfront).2
  exact (List.append_inj hinner hlength.symm).1

-- Three letters will do, as a text has two ends.
theorem exists_letter (needle : Text) : ∃ letter ∈ ['a', 'b', 'c'],
    needle.head? ≠ some letter ∧ needle.getLast? ≠ some letter := by
  by_cases ha : needle.head? = some 'a' ∨ needle.getLast? = some 'a'
  · by_cases hb : needle.head? = some 'b' ∨ needle.getLast? = some 'b'
    · exact ⟨'c', by simp, by grind, by grind⟩
    · exact ⟨'b', by simp, by grind, by grind⟩
  · exact ⟨'a', by simp, by grind, by grind⟩

/-- A cased letter that is its own lower case form. -/
structure IsSmallLetter (letter : Char) : Prop where
  cased : isCased letter = true
  counts : isCaseIgnorable letter = false
  noSigma : letter ≠ capitalSigma
  lower : lowerChar letter = [letter]

theorem isSmallLetter_of_mem (letter : Char) (h : letter ∈ ['a', 'b', 'c']) :
    IsSmallLetter letter := by
  simp only [List.mem_cons, List.not_mem_nil, or_false] at h
  rcases h with rfl | rfl | rfl
  · exact ⟨by decide, by decide, by decide, by decide⟩
  · exact ⟨by decide, by decide, by decide, by decide⟩
  · exact ⟨by decide, by decide, by decide, by decide⟩

theorem exists_front (letter : Char) (hletter : IsSmallLetter letter) (before : Text) :
    ∃ front, (front = [] ∨ front = [letter]) ∧ endsCased false front = endsCased false before ∧
      ∀ rest, lowerFrom false (front ++ rest) =
        front ++ lowerFrom (endsCased false front) rest := by
  cases hends : endsCased false before with
  | false => exact ⟨[], Or.inl rfl, rfl, fun rest => rfl⟩
  | true =>
    refine ⟨[letter], Or.inr rfl, by simp [endsCased, hletter.cased, hletter.counts], ?_⟩
    intro rest
    rw [List.singleton_append, lowerFrom, if_neg hletter.noSigma, hletter.lower]
    rfl

theorem exists_back (letter : Char) (hletter : IsSmallLetter letter) (after : Text) :
    ∃ back, (back = [] ∨ back = [letter]) ∧ startsCased back = startsCased after ∧
      ∀ afterCased, lowerFrom afterCased back = back := by
  cases hstarts : startsCased after with
  | false => exact ⟨[], Or.inl rfl, rfl, fun afterCased => rfl⟩
  | true =>
    refine ⟨[letter], Or.inr rfl, by simp [startsCased, hletter.cased, hletter.counts], ?_⟩
    intro afterCased
    rw [lowerFrom, if_neg hletter.noSigma, hletter.lower, lowerFrom, List.append_nil]

/-- A text that occurs in lower case wherever it occurs keeps its sigmas everywhere. -/
theorem keepsSigmas_of_infix (text : Text)
    (h : ∀ whole, text <:+: whole → lower text <:+: lower whole) (before after : Text) :
    KeepsSigmas before text after := by
  obtain ⟨letter, hmem, hhead, hlast⟩ := exists_letter (lower text)
  have hletter := isSmallLetter_of_mem letter hmem
  -- The letter takes the place of whatever cased letters stand around the text.
  obtain ⟨front, hfront, hbefore, hfrontLower⟩ := exists_front letter hletter before
  obtain ⟨back, hback, hafter, hbackLower⟩ := exists_back letter hletter after
  apply keepsSigmas_congr front before text back after hbefore hafter
  have hoccurs := h (front ++ text ++ back) ⟨front, back, rfl⟩
  obtain ⟨inside, hinside, hlength⟩ :=
    exists_lowerFrom_append (endsCased false front) text back
  rw [hbackLower] at hinside
  rw [lower, lower, List.append_assoc, hfrontLower, hinside, ← List.append_assoc] at hoccurs
  have hsame := eq_of_infix_between letter (lower text) front inside back hfront hback
    (hlength false) hhead hlast hoccurs
  rw [← hsame] at hinside
  intro first rest htext
  have hforms := (lowerFrom_append_iff (endsCased false front) false text back).1
    (by rw [hbackLower]; exact hinside)
  rw [sigmaIsFinal, endsCased_append]
  exact hforms first rest htext

end Quarry.Text
