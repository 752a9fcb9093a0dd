import Quarry.Markup.Token
import Quarry.Text.Blank

/-! The visible text of markup. Elements nest as their tags do, and nothing is closed unless an end
tag closes it or an element around it. -/
namespace Quarry.Markup

/-- Elements without content. -/
def voidNames : List Text :=
  ["area", "base", "basefont", "bgsound", "br", "col", "command", "embed", "frame", "hr", "image",
    "img", "input", "isindex", "keygen", "link", "menuitem", "meta", "nextid", "param", "source",
    "spacer", "track", "wbr"].map String.toList

/-- Elements of which nothing is ever shown, whatever they hold. -/
def hiddenNames : List Text :=
  ["script", "style", "noscript", "template", "head"].map String.toList

/-- Elements of annotations beside a text. Only character data are shown of them. -/
def annotationNames : List Text := ["rt", "rp"].map String.toList

/-- A text with the names of the elements around it, the innermost first, which is character data
or not. -/
structure TextNode where
  around : List Text
  text : Text
  isData : Bool
  deriving DecidableEq, Repr

def TextNode.isWithin (node : TextNode) (names : List Text) : Bool :=
  node.around.any fun name => names.contains name

def TextNode.isVisible (node : TextNode) : Bool :=
  !node.isWithin hiddenNames && (node.isData || !node.isWithin annotationNames)

/-- Markup read in part: the texts that are complete, the last one first; the pieces of the text
that is under way, also last first; the open elements, the innermost first; and the elements
without content that an end tag may yet name. -/
structure Builder where
  nodes : List TextNode
  pieces : List Text
  around : List Text
  closedAlready : List Text

namespace Builder

def empty : Builder := ⟨[], [], [], []⟩

/-- Ends the text that is under way. -/
def endText (builder : Builder) : Builder :=
  if builder.pieces.isEmpty then builder
  else { builder with
    nodes := ⟨builder.around, builder.pieces.reverse.flatten, false⟩ :: builder.nodes
    pieces := [] }

/-- Leaves the innermost element of a name, and the elements inside it. -/
def leave (name : Text) (around : List Text) : List Text :=
  if around.contains name then (around.dropWhile (· != name)).drop 1 else around

/-- Takes an end tag. One that names an element without content, which was closed when it was
opened, is crossed off and does not even end a text. -/
def finish (builder : Builder) (name : Text) : Builder :=
  if builder.closedAlready.contains name then
    { builder with closedAlready := builder.closedAlready.erase name }
  else
    let builder := builder.endText
    { builder with around := leave name builder.around }

/-- Takes a start tag. An element that is closed at once leaves nothing behind. -/
def start (builder : Builder) (name : Text) (selfClosing : Bool) : Builder :=
  let builder := builder.endText
  if selfClosing then builder
  else if voidNames.contains name then
    { builder with closedAlready := name :: builder.closedAlready }
  else { builder with around := name :: builder.around }

/-- Takes character data, which are a text of their own. -/
def addData (builder : Builder) (text : Text) : Builder :=
  let builder := builder.endText
  { builder with nodes := ⟨builder.around, text, true⟩ :: builder.nodes }

def push (builder : Builder) : Token → Builder
  | .text t => { builder with pieces := t :: builder.pieces }
  | .start name selfClosing => builder.start name selfClosing
  | .finish name => builder.finish name
  | .data t => builder.addData t
  | .aside => builder.endText

end Builder

/-- The texts that tokens make, in document order. -/
def textNodes (tokens : List Token) : List TextNode :=
  (tokens.foldl Builder.push .empty).endText.nodes.reverse

/-- The visible texts with one space between them, in which every run of blanks is one space. -/
def shownText (nodes : List TextNode) : Text :=
  Text.squeeze (Text.joined [' '] ((nodes.filter TextNode.isVisible).map TextNode.text))

/-- The visible text of markup. -/
def visibleText (markup : Text) : Except Refusal Text :=
  (tokens markup).map fun tokens => shownText (textNodes tokens)

end Quarry.Markup
