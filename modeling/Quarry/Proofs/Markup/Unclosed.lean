import Quarry.Proofs.Markup.Serialized

/-! Elements that are not closed. All that follows them, up to the end tag of an element around them,
stands inside them, so nothing of it is shown if they hide what they hold. -/
namespace Quarry.Markup

theorem scan_startTags (second : Bool) (read : List Token) (names : List Text) (rest : Text)
    (hnames : ∀ name ∈ names, IsElementName name ∧ name ∉ rawNames) :
    scan second read (names.flatMap startTag ++ rest) =
      scan second ((names.map fun name => .start name false).reverse ++ read) rest := by
  induction names generalizing read with
  | nil => rfl
  | cons name names ih =>
    obtain ⟨⟨hname, hraw⟩, hothers⟩ := List.forall_mem_cons.1 hnames
    rw [List.flatMap_cons, List.append_assoc, scan_startTag name _ second read hname hraw,
      ih _ hothers]
    simp

namespace Builder

theorem foldl_push_start (builder : Builder) (names : List Text) (hpieces : builder.pieces = [])
    (hnames : ∀ name ∈ names, name ∉ voidNames) :
    (names.map fun name => Token.start name false).foldl push builder =
      { builder with around := names.reverse ++ builder.around } := by
  induction names generalizing builder with
  | nil => rfl
  | cons name names ih =>
    obtain ⟨hname, hothers⟩ := List.forall_mem_cons.1 hnames
    rw [List.map_cons, List.foldl_cons, push_start builder name hname,
      endText_of_nil builder hpieces, ih (builder.opening name) hpieces hothers]
    simp [opening]

/-- An end tag ends the text that is under way, and makes no other text. -/
theorem nodes_push_finish (builder : Builder) (name : Text) (h : builder.closedAlready = []) :
    (builder.push (.finish name)).endText.nodes = builder.endText.nodes := by
  have hnone : (builder.push (.finish name)).pieces = [] := by
    rw [push, finish, if_neg (by simp [h])]
    exact endText_pieces builder
  rw [endText_of_nil _ hnone, push, finish, if_neg (by simp [h])]

end Builder

namespace Forest

/-- What stands behind the start tags of elements stands inside all of them, whichever of them the end
tag behind it names. -/
theorem textNodes_of_unclosed (names : List Text) (forest : Forest) (found : List Token)
    (hfound : forest.HasTokens found) (hw : forest.WellFormed) (outer : Text)
    (hnames : ∀ name ∈ names, name ∉ voidNames) :
    textNodes ((names.map fun name => .start name false) ++ found ++ [.finish outer]) =
      forest.nodes names.reverse := by
  have hopened : (names.map fun name => Token.start name false).foldl Builder.push .empty =
      ⟨[], [], names.reverse, []⟩ := by
    rw [Builder.foldl_push_start .empty names rfl hnames]
    simp [Builder.empty]
  have hmade := endText_foldl_push forest found hfound hw ⟨[], [], names.reverse, []⟩ rfl fun _ => rfl
  -- The end tag leaves an element, but ends no more than the text that is under way.
  have hclosed : (found.foldl Builder.push ⟨[], [], names.reverse, []⟩).closedAlready = [] := by
    rw [← Builder.endText_closedAlready, hmade]
    rfl
  rw [textNodes, List.foldl_append, List.foldl_append, hopened, List.foldl_cons, List.foldl_nil,
    Builder.nodes_push_finish _ outer hclosed, hmade]
  simp [Builder.adding, Builder.endText]

/-- A page whose outermost elements are opened, and closed by one end tag at most, shows the words of
its texts, or nothing if one of these elements hides what it holds. -/
theorem visibleText_of_unclosed (names : List Text) (forest : Forest) (hw : forest.WellFormed)
    (outer : Text) (houter : IsElementName outer)
    (hnames : ∀ name ∈ names, IsElementName name ∧
      name ∉ voidNames ++ annotationNames ++ rawNames) :
    visibleText (names.flatMap startTag ++ (forest.markup ++ endTag outer)) =
      .ok (if names.any hiddenNames.contains then []
        else Text.joined [' '] (forest.shown.flatMap Text.words)) := by
  obtain ⟨found, hfound, hscan⟩ := exists_tokens forest hw
  simp only [List.mem_append, not_or] at hnames
  have htokens : tokens (names.flatMap startTag ++ (forest.markup ++ endTag outer)) =
      .ok ((names.map fun name => .start name false) ++ found ++ [.finish outer]) := by
    have hend : EndsText (endTag outer) := by
      intro c hc
      simpa [endTag] using hc.symm
    have hfinish := scan_endTag outer [] false
      (found.reverse ++ (names.map fun name => Token.start name false).reverse) houter
    rw [List.append_nil, scan] at hfinish
    rw [tokens, scan_startTags false [] names _ fun name hname =>
      ⟨(hnames name hname).1, (hnames name hname).2.2⟩, List.append_nil, hscan false _ _ hend, hfinish]
    simp [Except.map]
  have hnodes := textNodes_of_unclosed names forest found hfound hw outer
    fun name hname => (hnames name hname).2.1.1
  have hshown := filter_isVisible_nodes forest hw names.reverse
    fun name hname => (hnames name (List.mem_reverse.1 hname)).2.1.2
  rw [visibleText, htokens, Except.map, hnodes, shownText, hshown, List.any_reverse]
  split
  · rfl
  · rw [Text.squeeze_eq_joined_words, Text.words_joined]

end Forest

/-- A page with a title in its head, which an end tag may close, and with a body. -/
def page (title headEnd : Text) (body : Forest) : Text :=
  startTag "html".toList ++ startTag "head".toList ++ startTag "title".toList ++ escape title ++
    endTag "title".toList ++ headEnd ++ startTag "body".toList ++ body.markup ++
      endTag "body".toList ++ endTag "html".toList

/-- A title, which may be empty, with what stands behind it. -/
def titled (title : Text) (others : Forest) : Forest :=
  .element "title".toList (if title = [] then .nil else .text title .nil) others

theorem isElementName_of_known (name : Text)
    (h : name ∈ ["html", "head", "title", "body"].map String.toList) :
    IsElementName name ∧ name ∉ voidNames ++ annotationNames ++ rawNames := by
  have hall : ∀ name ∈ ["html", "head", "title", "body"].map String.toList,
      (name.head?.any isAsciiLetter = true ∧ name.all isSmallChar = true) ∧
        name ∉ voidNames ++ annotationNames ++ rawNames := by decide
  obtain ⟨⟨hhead, hsmall⟩, hkind⟩ := hall name h
  exact ⟨isElementName_of_small name hhead (List.all_eq_true.1 hsmall), hkind⟩

section

variable (title : Text) (others : Forest)

theorem titled_markup : (titled title others).markup =
    startTag "title".toList ++ escape title ++ endTag "title".toList ++ others.markup := by
  rw [titled, Forest.markup]
  split
  · rename_i h
    rw [h]
    rfl
  · rw [Forest.markup, Forest.markup, List.append_nil]

theorem titled_wellFormed (hw : others.WellFormed) : (titled title others).WellFormed := by
  obtain ⟨hname, hkind⟩ := isElementName_of_known "title".toList (by decide)
  refine .element _ _ _ hname hkind ?_ hw
  split
  · exact .nil
  · rename_i h
    exact .text _ _ h rfl .nil

end

section

variable (title : Text) (body : Forest) (hw : body.WellFormed)

include hw

theorem bodied_wellFormed : (Forest.element "body".toList body .nil).WellFormed := by
  obtain ⟨hname, hkind⟩ := isElementName_of_known "body".toList (by decide)
  exact .element _ _ _ hname hkind hw .nil

theorem visibleText_closed_head : visibleText (page title (endTag "head".toList) body) =
    .ok (Text.joined [' '] (body.shown.flatMap Text.words)) := by
  obtain ⟨hname, hkind⟩ := isElementName_of_known "head".toList (by decide)
  have houter := isElementName_of_known "html".toList (by decide)
  have hpage : page title (endTag "head".toList) body = ["html".toList].flatMap startTag ++
      ((Forest.element "head".toList (titled title .nil) (.element "body".toList body .nil)).markup ++
        endTag "html".toList) := by
    simp only [page, Forest.markup, titled_markup, List.flatMap_cons, List.flatMap_nil,
      List.append_assoc, List.append_nil]
  rw [hpage, Forest.visibleText_of_unclosed _ _ (.element _ _ _ hname hkind
      (titled_wellFormed title .nil .nil) (bodied_wellFormed body hw)) _ houter.1
    (List.forall_mem_singleton.2 houter), if_neg (by decide)]
  have hcovers : "head".toList ∈ coverNames ∧ "body".toList ∉ coverNames := by decide
  rw [Forest.shown, if_pos hcovers.1, Forest.shown, if_neg hcovers.2, Forest.shown,
    List.nil_append, List.append_nil]

/-- Nothing closes the head before the page ends, so the body is a part of it. -/
theorem visibleText_open_head : visibleText (page title [] body) = .ok [] := by
  have hhead := isElementName_of_known "head".toList (by decide)
  have houter := isElementName_of_known "html".toList (by decide)
  have hpage : page title [] body = ["html".toList, "head".toList].flatMap startTag ++
      ((titled title (.element "body".toList body .nil)).markup ++ endTag "html".toList) := by
    simp only [page, Forest.markup, titled_markup, List.flatMap_cons, List.flatMap_nil,
      List.append_assoc, List.append_nil]
  rw [hpage, Forest.visibleText_of_unclosed _ _
    (titled_wellFormed title _ (bodied_wellFormed body hw)) _ houter.1
    (List.forall_mem_cons.2 ⟨houter, List.forall_mem_singleton.2 hhead⟩), if_pos (by decide)]

end

/-- With the end tag of its head a page shows the words of its body, and without this tag nothing at
all: nothing is lost only where there is nothing to show. -/
theorem visibleText_page (title : Text) (body : Forest) (hw : body.WellFormed) :
    visibleText (page title (endTag "head".toList) body) =
        .ok (Text.joined [' '] (body.shown.flatMap Text.words)) ∧
      visibleText (page title [] body) = .ok [] ∧
      (visibleText (page title [] body) = visibleText (page title (endTag "head".toList) body) ↔
        ∀ text ∈ body.shown, Text.isBlank text = true) := by
  have hclosed := visibleText_closed_head title body hw
  have hopen := visibleText_open_head title body hw
  refine ⟨hclosed, hopen, ?_⟩
  rw [hopen, hclosed, Except.ok.injEq, eq_comm, Text.joined_words_eq_nil_iff]

/-- A heading and a text of two words are shown with the end tag of the head. -/
theorem visibleText_page_heading :
    let body : Forest := .element ['h', '1'] (.text ['x'] .nil) (.text ['y', '\n', 'z'] .nil)
    body.WellFormed ∧
      visibleText (page ['T'] (endTag "head".toList) body) = .ok "x y z".toList ∧
      visibleText (page ['T'] [] body) = .ok [] := by
  intro body
  have hw : body.WellFormed := by
    refine .element _ _ _ (isElementName_of_small _ (by decide) (List.all_eq_true.1 (by decide)))
      (by decide) (.text _ _ (by decide) rfl .nil) (.text _ _ (by decide) rfl .nil)
  obtain ⟨hclosed, hopen, -⟩ := visibleText_page ['T'] body hw
  refine ⟨hw, hclosed.trans ?_, hopen⟩
  have hwords : body.shown.flatMap Text.words = [['x'], ['y'], ['z']] := by decide
  rw [hwords]
  rfl

/-- A body of one text is lost with the end tag of the head. -/
theorem headEnd_is_needed :
    page ['T'] [] (.text ['x'] .nil) = "<html><head><title>T</title><body>x</body></html>".toList ∧
      visibleText (page ['T'] (endTag "head".toList) (.text ['x'] .nil)) = .ok ['x'] ∧
      visibleText (page ['T'] [] (.text ['x'] .nil)) ≠
        visibleText (page ['T'] (endTag "head".toList) (.text ['x'] .nil)) := by
  have hw : (Forest.text ['x'] .nil).WellFormed := .text _ _ (by decide) rfl .nil
  have hclosed := visibleText_closed_head ['T'] _ hw
  have hopen := visibleText_open_head ['T'] _ hw
  have hwords : (Forest.text ['x'] .nil).shown.flatMap Text.words = [['x']] := by decide
  rw [hwords] at hclosed
  refine ⟨rfl, hclosed, ?_⟩
  rw [hclosed, hopen]
  decide

end Quarry.Markup
