import Quarry.Markup.Visible

/-! Pages as forests: texts, comments, and elements that hold pages themselves. How a page is
written, which of its texts are shown, and what its tokens make of it. -/
namespace Quarry.Markup

/-- A page, by its first piece and the pieces beside it. -/
inductive Forest where
  | nil
  | text (content : Text) (others : Forest)
  | comment (content : Text) (others : Forest)
  /-- An element whose content is no markup. -/
  | raw (name content : Text) (others : Forest)
  | element (name : Text) (children others : Forest)
  deriving DecidableEq, Repr

/-- A character of text, which is written as a reference if markup gives it a meaning. -/
def escapeChar (c : Char) : Text :=
  if c = '&' then "&amp;".toList
  else if c = '<' then "&lt;".toList
  else if c = '>' then "&gt;".toList
  else [c]

def escape (text : Text) : Text := text.flatMap escapeChar

def startTag (name : Text) : Text := '<' :: name ++ ['>']

def endTag (name : Text) : Text := '<' :: '/' :: name ++ ['>']

/-- A name that starts with a letter of ASCII, is in lower case and is cut short nowhere. -/
structure IsElementName (name : Text) : Prop where
  head : name.head?.any isAsciiLetter = true
  plain : ∀ c ∈ name, isTagNameChar c = true ∧ Text.isBlankChar c = false
  lower : Text.lower name = name

/-- Elements that hold markup and are never shown. -/
def coverNames : List Text := ["noscript", "template", "head"].map String.toList

namespace Forest

/-- The page as it is written. -/
def markup : Forest → Text
  | nil => []
  | text content others => escape content ++ others.markup
  | comment content others => "<!--".toList ++ content ++ "-->".toList ++ others.markup
  | raw name content others => startTag name ++ content ++ endTag name ++ others.markup
  | element name children others =>
    startTag name ++ children.markup ++ endTag name ++ others.markup

def startsWithText : Forest → Bool
  | text _ _ => true
  | _ => false

/-- What can be written and read back: no text is empty or stands next to another one, and neither
comments nor raw elements end before their ends. -/
inductive WellFormed : Forest → Prop where
  | nil : WellFormed nil
  | text (content : Text) (others : Forest) (hcontent : content ≠ [])
    (hothers : others.startsWithText = false) (h : WellFormed others) :
    WellFormed (text content others)
  | comment (content : Text) (others : Forest) (hcontent : ¬"--".toList <:+: content)
    (h : WellFormed others) : WellFormed (comment content others)
  | raw (name content : Text) (others : Forest) (hname : name ∈ rawNames)
    (hcontent : ¬"</".toList <:+: content) (h : WellFormed others) :
    WellFormed (raw name content others)
  | element (name : Text) (children others : Forest) (hname : IsElementName name)
    (hkind : name ∉ voidNames ++ annotationNames ++ rawNames) (hchildren : WellFormed children)
    (h : WellFormed others) : WellFormed (element name children others)

/-- The texts that no element covers, in document order. -/
def shown : Forest → List Text
  | nil => []
  | text content others => content :: others.shown
  | comment _ others => others.shown
  | raw _ _ others => others.shown
  | element name children others =>
    (if name ∈ coverNames then [] else children.shown) ++ others.shown

/-- The texts with the names of the elements around them. -/
def nodes (around : List Text) : Forest → List TextNode
  | nil => []
  | text content others => ⟨around, content, false⟩ :: others.nodes around
  | comment _ others => others.nodes around
  | raw name content others => ⟨name :: around, content, false⟩ :: others.nodes around
  | element name children others => children.nodes (name :: around) ++ others.nodes around

/-- The tokens of a page, where a text may come in several pieces. -/
inductive HasTokens : Forest → List Token → Prop where
  | nil : HasTokens nil []
  | text (pieces : List Text) (others : Forest) (tokens : List Token) (hpieces : pieces ≠ [])
    (h : HasTokens others tokens) :
    HasTokens (text pieces.flatten others) (pieces.map .text ++ tokens)
  | comment (content : Text) (others : Forest) (tokens : List Token)
    (h : HasTokens others tokens) : HasTokens (comment content others) (.aside :: tokens)
  | raw (name content : Text) (others : Forest) (tokens : List Token)
    (h : HasTokens others tokens) : HasTokens (raw name content others)
      (.start name false :: .text content :: .finish name :: tokens)
  | element (name : Text) (children others : Forest) (inside tokens : List Token)
    (hchildren : HasTokens children inside) (h : HasTokens others tokens) :
    HasTokens (element name children others)
      (.start name false :: inside ++ .finish name :: tokens)

end Forest

namespace Builder

variable (builder : Builder)

/-- The builder with more texts behind those that are complete. -/
def adding (texts : List TextNode) : Builder :=
  { builder with nodes := texts.reverse ++ builder.nodes }

theorem adding_adding (texts others : List TextNode) :
    (builder.adding texts).adding others = builder.adding (texts ++ others) := by
  simp [adding]

theorem endText_pieces : builder.endText.pieces = [] := by
  unfold endText
  split
  · rename_i h
    exact List.isEmpty_iff.1 h
  · rfl

theorem endText_of_nil (h : builder.pieces = []) : builder.endText = builder := by
  rw [endText, h]
  rfl

theorem endText_around : builder.endText.around = builder.around := by
  unfold endText
  split
  · rfl
  · rfl

theorem endText_closedAlready : builder.endText.closedAlready = builder.closedAlready := by
  unfold endText
  split
  · rfl
  · rfl

/-- Pieces of a text come to nothing but a longer text. -/
theorem foldl_push_text (pieces : List Text) : (pieces.map Token.text).foldl push builder =
    { builder with pieces := pieces.reverse ++ builder.pieces } := by
  induction pieces generalizing builder with
  | nil => rfl
  | cons piece pieces ih =>
    rw [List.map_cons, List.foldl_cons, ih]
    simp [push]

/-- The builder inside one more element. -/
def opening (name : Text) : Builder := { builder with around := name :: builder.around }

theorem push_start (name : Text) (h : name ∉ voidNames) :
    builder.push (.start name false) = builder.endText.opening name := by
  rw [push, start, if_neg (by simp), if_neg (by simpa using h)]
  rfl

/-- An end tag of the element that has been opened last closes it, and the texts inside stay. -/
theorem push_finish (inner : Builder) (name : Text) (texts : List TextNode)
    (hclosed : builder.closedAlready = [])
    (h : inner.endText = (builder.endText.opening name).adding texts) :
    inner.push (.finish name) = builder.endText.adding texts := by
  have hinner : inner.closedAlready = [] := by
    rw [← endText_closedAlready inner, h]
    exact (endText_closedAlready builder).trans hclosed
  have hleave : leave name (name :: builder.endText.around) = builder.endText.around := by
    simp [leave]
  rw [push, finish, if_neg (by simp [hinner])]
  dsimp only
  rw [h]
  simp only [adding, opening, hleave]

/-- Behind texts that are complete, tokens add the texts that they make alone. -/
theorem endText_foldl_behind (tokens : List Token) (made : List Text → List TextNode)
    (h : ∀ other : Builder, other.closedAlready = [] → other.pieces = [] →
      (tokens.foldl push other).endText = other.endText.adding (made other.around))
    (hclosed : builder.closedAlready = []) (texts : List TextNode) :
    (tokens.foldl push (builder.endText.adding texts)).endText =
      builder.endText.adding (texts ++ made builder.around) := by
  have hnone : (builder.endText.adding texts).pieces = [] := endText_pieces builder
  have haround : (builder.endText.adding texts).around = builder.around := endText_around builder
  rw [h (builder.endText.adding texts) ((endText_closedAlready builder).trans hclosed) hnone,
    endText_of_nil _ hnone, haround, adding_adding]

end Builder

namespace Forest

/-- The tokens of a page add its texts to those there are, each with the elements around it. -/
theorem endText_foldl_push (forest : Forest) (tokens : List Token) (h : forest.HasTokens tokens)
    (hw : forest.WellFormed) (builder : Builder) (hclosed : builder.closedAlready = [])
    (hpieces : forest.startsWithText = true → builder.pieces = []) :
    (tokens.foldl Builder.push builder).endText =
      builder.endText.adding (forest.nodes builder.around) := by
  -- The builder may be inside a text, which anything but another text ends: this is why texts side
  -- by side are ruled out, and why both sides are compared once their text has ended.
  induction h generalizing builder with
  | nil => rfl
  | text pieces others tokens hne h ih =>
    cases hw with | text _ _ hcontent hothers hw =>
    have hnone := hpieces rfl
    have hunder : ({ builder with pieces := pieces.reverse } : Builder).endText =
        builder.adding [⟨builder.around, pieces.flatten, false⟩] := by
      rw [Builder.endText, if_neg (by simpa using hne), List.reverse_reverse]
      simp [Builder.adding, hnone]
    have hrest := ih hw { builder with pieces := pieces.reverse } hclosed (by simp [hothers])
    rw [List.foldl_append, Builder.foldl_push_text, hnone, List.append_nil, hrest, hunder,
      Builder.adding_adding, Builder.endText_of_nil builder hnone]
    rfl
  | comment content others tokens h ih =>
    cases hw with | comment _ _ _ hw =>
    exact Builder.endText_foldl_behind builder tokens others.nodes
      (fun other hclosed hnone => ih hw other hclosed fun _ => hnone) hclosed []
  | raw name content others tokens h ih =>
    cases hw with | raw _ _ _ hname _ hw =>
    have hvoid : name ∉ voidNames := by
      have hall : ∀ name ∈ rawNames, name ∉ voidNames := by decide
      exact hall name hname
    have hinner : ((builder.endText.opening name).push (.text content)).endText =
        (builder.endText.opening name).adding [⟨name :: builder.around, content, false⟩] := by
      have hnone : (builder.endText.opening name).pieces = [] := Builder.endText_pieces builder
      have haround : (builder.endText.opening name).around = name :: builder.around := by
        rw [Builder.opening, Builder.endText_around]
      rw [Builder.push, hnone, Builder.endText, if_neg (by simp)]
      simp [Builder.adding, haround, hnone]
    rw [List.foldl_cons, List.foldl_cons, List.foldl_cons, Builder.push_start builder name hvoid,
      Builder.push_finish builder _ name _ hclosed hinner]
    exact Builder.endText_foldl_behind builder tokens others.nodes
      (fun other hclosed hnone => ih hw other hclosed fun _ => hnone) hclosed _
  | element name children others inside tokens hchildren h ihchildren ih =>
    cases hw with | element _ _ _ hname hkind hwchildren hw =>
    have hvoid : name ∉ voidNames := fun hvoid => hkind (by simp [hvoid])
    have hnone : (builder.endText.opening name).pieces = [] := Builder.endText_pieces builder
    have haround : (builder.endText.opening name).around = name :: builder.around := by
      rw [Builder.opening, Builder.endText_around]
    have hinside := ihchildren hwchildren (builder.endText.opening name)
      ((Builder.endText_closedAlready builder).trans hclosed) fun _ => hnone
    rw [Builder.endText_of_nil _ hnone, haround] at hinside
    rw [List.cons_append, List.foldl_cons, List.foldl_append, List.foldl_cons,
      Builder.push_start builder name hvoid,
      Builder.push_finish builder _ name _ hclosed hinside]
    exact Builder.endText_foldl_behind builder tokens others.nodes
      (fun other hclosed hnone => ih hw other hclosed fun _ => hnone) hclosed _

/-- The texts of a page are those that its tokens make. -/
theorem textNodes_of_hasTokens (forest : Forest) (tokens : List Token)
    (h : forest.HasTokens tokens) (hw : forest.WellFormed) :
    textNodes tokens = forest.nodes [] := by
  have hmade := endText_foldl_push forest tokens h hw .empty rfl fun _ => rfl
  rw [textNodes, hmade]
  simp [Builder.adding, Builder.endText, Builder.empty]

/-- Of the texts of a page inside elements, none of which is an annotation, those are visible that
nothing covers, unless the elements hide them all. -/
theorem filter_isVisible_nodes (forest : Forest) (hw : forest.WellFormed) (around : List Text)
    (haround : ∀ name ∈ around, name ∉ annotationNames) :
    ((forest.nodes around).filter TextNode.isVisible).map TextNode.text =
      if around.any hiddenNames.contains then [] else forest.shown := by
  have hvisible (around : List Text) (haround : ∀ name ∈ around, name ∉ annotationNames)
      (text : Text) : TextNode.isVisible ⟨around, text, false⟩ =
        !around.any hiddenNames.contains := by
    have hnone : around.any annotationNames.contains = false := by
      rw [List.any_eq_false]
      intro name hname
      simpa using haround name hname
    have hannotation : TextNode.isWithin ⟨around, text, false⟩ annotationNames = false := hnone
    rw [TextNode.isVisible, hannotation]
    exact Bool.and_true _
  induction hw generalizing around with
  | nil => simp [nodes, shown]
  | text content others hcontent hothers hw ih =>
    rw [nodes, List.filter_cons, hvisible around haround content]
    cases hhidden : around.any hiddenNames.contains with
    | true => simpa [hhidden] using ih around haround
    | false => simpa [hhidden, shown] using ih around haround
  | comment content others hcontent hw ih => exact ih around haround
  | raw name content others hname hcontent hw ih =>
    have hhidden : (name :: around).any hiddenNames.contains = true := by
      have hall : ∀ name ∈ rawNames, hiddenNames.contains name = true := by decide
      rw [List.any_cons, hall name hname]
      rfl
    have hin : ∀ other ∈ name :: around, other ∉ annotationNames := by
      have hall : ∀ name ∈ rawNames, name ∉ annotationNames := by decide
      exact List.forall_mem_cons.2 ⟨hall name hname, haround⟩
    rw [nodes, List.filter_cons, hvisible _ hin content, hhidden]
    exact ih around haround
  | element name children others hname hkind hchildren hw ihchildren ih =>
    simp only [List.mem_append, not_or] at hkind
    have hin : ∀ other ∈ name :: around, other ∉ annotationNames :=
      List.forall_mem_cons.2 ⟨hkind.1.2, haround⟩
    -- Of the names that hide, those of raw elements are no names of other ones.
    have hcovers : hiddenNames.contains name = decide (name ∈ coverNames) := by
      have hnames : hiddenNames = rawNames ++ coverNames := rfl
      rw [hnames, List.contains_eq_mem, decide_eq_decide, List.mem_append]
      exact or_iff_right hkind.2
    rw [nodes, List.filter_append, List.map_append, ihchildren _ hin, ih around haround,
      List.any_cons, hcovers, shown]
    cases hhidden : around.any hiddenNames.contains with
    | true => simp
    | false => simp

end Forest

end Quarry.Markup
