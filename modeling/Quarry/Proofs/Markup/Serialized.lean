import Quarry.Proofs.Markup.Reading
import Quarry.Proofs.Text.Squeezed

/-! Showing what has been written: a page that is written down is read back, and its visible text
is made of the texts that no element covers. -/
namespace Quarry.Markup

/-- A character that is written as it is. -/
def isVerbatim (c : Char) : Bool := c != '&' && c != '<' && c != '>'

theorem escape_verbatim (run : Text) (h : ∀ c ∈ run, isVerbatim c = true) : escape run = run := by
  induction run with
  | nil => rfl
  | cons c run ih =>
    have hc := h c List.mem_cons_self
    simp only [isVerbatim, Bool.and_eq_true, bne_iff_ne, ne_eq] at hc
    have hrest := ih fun d hd => h d (List.mem_cons_of_mem _ hd)
    rw [escape] at hrest ⊢
    rw [List.flatMap_cons, hrest, escapeChar, if_neg hc.1.1, if_neg hc.1.2, if_neg hc.2]
    rfl

/-- Characters that are written as they are come as one piece, if no more of them follow. -/
theorem scan_verbatim (second : Bool) (read : List Token) (c : Char) (run rest : Text)
    (hrun : ∀ d ∈ c :: run, isVerbatim d = true) (hrest : ∀ d ∈ rest.head?, d = '<' ∨ d = '&') :
    scan second read (c :: run ++ rest) = scan second (.text (c :: run) :: read) rest := by
  have hplain : ∀ d ∈ c :: run, d ≠ '<' ∧ d ≠ '&' := by
    intro d hd
    have hverbatim := hrun d hd
    simp only [isVerbatim, Bool.and_eq_true, bne_iff_ne, ne_eq] at hverbatim
    exact ⟨hverbatim.1.2, hverbatim.1.1⟩
  obtain ⟨hc, hbehind⟩ := List.forall_mem_cons.1 hplain
  have hpass : ∀ d ∈ run, (d != '<' && d != '&') = true := by
    intro d hd
    simpa using hbehind d hd
  have hstop : ∀ d ∈ rest.head?, (d != '<' && d != '&') = false := by
    intro d hd
    rcases hrest d hd with rfl | rfl
    · rfl
    · rfl
  have hstep : step c (run ++ rest) = .next [.text (c :: run)] rest := by
    simp only [step, if_neg hc.1, if_neg hc.2,
      Text.takeWhile_run (fun d => d != '<' && d != '&') run rest hpass hstop,
      Text.dropWhile_run (fun d => d != '<' && d != '&') run rest hpass hstop]
  rw [List.cons_append, scan_next second read _ _ _ _ hstep]
  rfl

theorem escape_append (before after : Text) :
    escape (before ++ after) = escape before ++ escape after :=
  List.flatMap_append

/-- Behind the characters that are written as they are, a reference or markup follows. -/
theorem head?_behind_verbatim (text rest : Text) (hrest : EndsText rest) :
    ∀ d ∈ (escape (text.dropWhile isVerbatim) ++ rest).head?, d = '<' ∨ d = '&' := by
  cases hafter : text.dropWhile isVerbatim with
  | nil => exact fun d hd => Or.inl (hrest d hd)
  | cons c after =>
    have hc : isVerbatim c = false := by
      have hhead := List.head?_dropWhile_not isVerbatim text
      simpa [hafter] using hhead
    obtain ⟨others, hothers⟩ : ∃ others, escapeChar c = '&' :: others := by
      unfold escapeChar
      split
      · exact ⟨_, rfl⟩
      · split
        · exact ⟨_, rfl⟩
        · split
          · exact ⟨_, rfl⟩
          · simp_all [isVerbatim]
    intro d hd
    right
    simpa [escape, hothers] using hd.symm

/-- The pieces that are read where a text is written make it up, if no more text follows. -/
theorem exists_pieces (text : Text) : ∃ pieces : List Text, pieces.flatten = text ∧
    ∀ second read rest, EndsText rest →
      scan second read (escape text ++ rest) =
        scan second ((pieces.map Token.text).reverse ++ read) rest := by
  -- On the length, since a run of characters is one piece.
  induction hlength : text.length using Nat.strong_induction_on generalizing text with
  | _ n ih =>
    subst hlength
    cases text with
    | nil => exact ⟨[], rfl, fun second read rest _ => rfl⟩
    | cons c text =>
      by_cases hc : isVerbatim c = true
      · have hshorter := (List.dropWhile_sublist isVerbatim (l := text)).length_le
        obtain ⟨pieces, hpieces, hscan⟩ :=
          ih (text.dropWhile isVerbatim).length (Nat.lt_succ_of_le hshorter) _ rfl
        have hrun : ∀ d ∈ c :: text.takeWhile isVerbatim, isVerbatim d = true :=
          List.forall_mem_cons.2 ⟨hc, List.all_eq_true.1 List.all_takeWhile⟩
        refine ⟨(c :: text.takeWhile isVerbatim) :: pieces, ?_, fun second read rest hrest => ?_⟩
        · simp [hpieces]
        · have htext : c :: text = c :: text.takeWhile isVerbatim ++ text.dropWhile isVerbatim := by
            simp
          rw [htext, escape_append, escape_verbatim _ hrun, List.append_assoc,
            scan_verbatim second read c _ _ hrun (head?_behind_verbatim text rest hrest),
            hscan second _ rest hrest]
          simp
      · obtain ⟨pieces, hpieces, hscan⟩ := ih text.length (by simp) text rfl
        have hspecial : c = '&' ∨ c = '<' ∨ c = '>' := by
          by_contra hnot
          push Not at hnot
          exact hc (by simpa [isVerbatim, and_assoc] using hnot)
        refine ⟨[c] :: pieces, by simp [hpieces], fun second read rest hrest => ?_⟩
        have hfirst : escape (c :: text) ++ rest = escapeChar c ++ (escape text ++ rest) := by
          simp [escape]
        rw [hfirst, scan_reference _ second read c hspecial, hscan second _ rest hrest]
        simp

namespace Forest

theorem endsText_markup (forest : Forest) (h : forest.startsWithText = false) (rest : Text)
    (hrest : EndsText rest) : EndsText (forest.markup ++ rest) := by
  cases forest with
  | nil => exact hrest
  | text content others => cases h
  | comment content others =>
    intro c hc
    simpa [markup] using hc.symm
  | raw name content others =>
    intro c hc
    simpa [markup, startTag] using hc.symm
  | element name children others =>
    intro c hc
    simpa [markup, startTag] using hc.symm

/-- Every page is read back, as one of the token lists that it has. -/
theorem exists_tokens (forest : Forest) (hw : forest.WellFormed) :
    ∃ tokens, forest.HasTokens tokens ∧ ∀ second read rest, EndsText rest →
      scan second read (forest.markup ++ rest) = scan second (tokens.reverse ++ read) rest := by
  -- The rest is what is written behind, which the end tag of an element opens for its children.
  induction hw with
  | nil => exact ⟨[], .nil, fun second read rest _ => rfl⟩
  | text content others hcontent hothers hw ih =>
    obtain ⟨tokens, htokens, hscan⟩ := ih
    obtain ⟨pieces, rfl, hpieces⟩ := exists_pieces content
    have hne : pieces ≠ [] := by
      rintro rfl
      exact hcontent rfl
    refine ⟨_, .text pieces others tokens hne htokens, fun second read rest hrest => ?_⟩
    have hbehind := endsText_markup others hothers rest hrest
    rw [markup, List.append_assoc, hpieces second read _ hbehind, hscan second _ rest hrest]
    simp
  | comment content others hcontent hw ih =>
    obtain ⟨tokens, htokens, hscan⟩ := ih
    refine ⟨_, .comment content others tokens htokens, fun second read rest hrest => ?_⟩
    rw [markup, List.append_assoc, scan_comment _ second read content hcontent,
      hscan second _ rest hrest]
    simp
  | raw name content others hname hcontent hw ih =>
    obtain ⟨tokens, htokens, hscan⟩ := ih
    refine ⟨_, .raw name content others tokens htokens, fun second read rest hrest => ?_⟩
    obtain ⟨hhead, hsmall⟩ := rawNames_small name hname
    have helement := isElementName_of_small name hhead hsmall
    have hplain : ∀ c ∈ name, isPlainNameChar c = true := fun c hc =>
      (isSmallChar_facts c (hsmall c hc)).1
    rw [markup, List.append_assoc,
      scan_raw name _ second read helement hplain hname content hcontent,
      hscan second _ rest hrest]
    simp
  | element name children others hname hkind hchildren hw ihchildren ih =>
    obtain ⟨inside, hinside, hscanInside⟩ := ihchildren
    obtain ⟨tokens, htokens, hscan⟩ := ih
    refine ⟨_, .element name children others inside tokens hinside htokens,
      fun second read rest hrest => ?_⟩
    have hraw : name ∉ rawNames := fun hraw => hkind (by simp [hraw])
    have hend : EndsText (endTag name ++ (others.markup ++ rest)) := by
      intro c hc
      simpa [endTag] using hc.symm
    rw [markup, List.append_assoc, List.append_assoc, List.append_assoc,
      scan_startTag name _ second read hname hraw, hscanInside second _ _ hend,
      scan_endTag name _ second _ hname, hscan second _ rest hrest]
    simp

/-- The visible text of a page that is written down is made of the texts that nothing covers, with
one space between them and for every run of blanks: their words, one space apart. -/
theorem visibleText_markup (forest : Forest) (hw : forest.WellFormed) :
    visibleText forest.markup = .ok (Text.squeeze (Text.joined [' '] forest.shown)) ∧
      Text.squeeze (Text.joined [' '] forest.shown) =
        Text.joined [' '] (forest.shown.flatMap Text.words) := by
  obtain ⟨found, hfound, hscan⟩ := exists_tokens forest hw
  have htokens : tokens forest.markup = .ok found := by
    have hread := hscan false [] [] (by simp [EndsText])
    rw [List.append_nil, List.append_nil, scan] at hread
    rw [tokens, hread]
    simp [Except.map]
  have hshown := filter_isVisible_nodes forest hw [] (by simp)
  constructor
  · rw [visibleText, htokens, Except.map, textNodes_of_hasTokens forest found hfound hw, shownText,
      hshown]
    rfl
  · rw [Text.squeeze_eq_joined_words, Text.words_joined]

/-- A page of all kinds of pieces: a script whose content looks like a tag, a comment between two
texts, and a text that is covered at some depth. -/
def mixedPage : Forest :=
  .element ['p']
    (.text "a  < b".toList (.comment "-x".toList (.text ['&']
      (.element "noscript".toList (.element ['h', '1'] (.text ['c'] .nil) .nil)
        (.raw "script".toList "x<y>".toList (.text ['d', '\n'] .nil))))))
    .nil

theorem mixedPage_wellFormed : mixedPage.WellFormed := by
  have hname (name : Text) (h : name.head?.any isAsciiLetter = true ∧
      name.all isSmallChar = true) : IsElementName name :=
    isElementName_of_small name h.1 (List.all_eq_true.1 h.2)
  refine .element _ _ _ (hname _ (by decide)) (by decide) ?_ .nil
  refine .text _ _ (by decide) rfl (.comment _ _ (by decide) ?_)
  refine .text _ _ (by decide) rfl (.element _ _ _ (hname _ (by decide)) (by decide) ?_ ?_)
  · exact .element _ _ _ (hname _ (by decide)) (by decide) (.text _ _ (by decide) rfl .nil) .nil
  · exact .raw _ _ _ (by decide) (by decide) (.text _ _ (by decide) rfl .nil)

theorem visibleText_markup_mixed :
    mixedPage.WellFormed ∧
      mixedPage.markup = "<p>a  &lt; b<!---x-->&amp;<noscript><h1>c</h1></noscript>".toList ++
        "<script>x<y></script>d\n</p>".toList ∧
      visibleText mixedPage.markup = .ok "a < b & d".toList := by
  have hshown : Text.squeeze (Text.joined [' '] mixedPage.shown) = "a < b & d".toList := by decide
  have h := (visibleText_markup mixedPage mixedPage_wellFormed).1
  rw [hshown] at h
  exact ⟨mixedPage_wellFormed, by decide, h⟩

end Forest

end Quarry.Markup
