import HtmlMarkdown.Document.Basic
import HtmlMarkdown.Tag

/-!
# Nodes of a document

A `Node` is a place in a document. This module reads what is there and moves about: to the
parent, the children, the siblings, and to all nodes above or below.

* `Node.text` and `Node.innerText`: the two ways to put the texts below a node together.
* `Node.elementIndex`: the position among the elements of the same parent, from 1.
-/

namespace HtmlMarkdown

/-- A place in a document. -/
structure Node where
  doc : Document
  id : Nat

namespace Node

/-! ## What a node holds -/

/-- What the node holds. -/
def data (n : Node) : NodeData := n.doc.data n.id

/-- Is the node an element? -/
def isElement (n : Node) : Bool :=
  match n.data with
  | .element .. => true
  | _ => false

/-- Is the node a text? -/
def isText (n : Node) : Bool :=
  match n.data with
  | .text _ => true
  | _ => false

/-- The tag of an element; empty for other nodes. -/
def tag (n : Node) : String :=
  match n.data with
  | .element tag _ => tag
  | _ => ""

/-- The characters of a text or a comment. -/
def value? (n : Node) : Option Text :=
  match n.data with
  | .text t | .comment t => some t
  | .element .. => none

/-- The value of an attribute, whatever the case of ASCII letters in its name. -/
def attr? (n : Node) (name : String) : Option Text :=
  match n.data with
  | .element _ attributes =>
    (attributes.find? fun a => Text.sameAscii a.1.toList name.toList).map (·.2)
  | _ => none

/-- Is there such an attribute? -/
def hasAttr (n : Node) (name : String) : Bool := (n.attr? name).isSome

/-- The value of an attribute, empty if there is none. -/
def attrD (n : Node) (name : String) : Text := (n.attr? name).getD []

/-! ## Neighbours -/

/-- Another place of the same document. -/
def at' (n : Node) (id : Nat) : Node := ⟨n.doc, id⟩

/-- The parent. -/
def parent? (n : Node) : Option Node := (n.doc.parent? n.id).map n.at'

/-- The children. -/
def children (n : Node) : List Node := (n.doc.children n.id).map n.at'

/-- The children that are elements. -/
def elementChildren (n : Node) : List Node := n.children.filter isElement

/-- The numbers of the siblings, the node itself included; none for the root. -/
def siblingIds (n : Node) : List Nat :=
  match n.doc.parent? n.id with
  | none => []
  | some p => n.doc.children p

/-- The element of a list just before a given one. -/
def before? (id : Nat) : List Nat → Option Nat
  | a :: b :: rest => if b = id then some a else before? id (b :: rest)
  | _ => none

/-- The element of a list just after a given one. -/
def after? (id : Nat) : List Nat → Option Nat
  | a :: b :: rest => if a = id then some b else after? id (b :: rest)
  | _ => none

/-- The sibling before the node. -/
def prev? (n : Node) : Option Node := (before? n.id n.siblingIds).map n.at'

/-- The sibling after the node. -/
def next? (n : Node) : Option Node := (after? n.id n.siblingIds).map n.at'

/-- The position among the element children of the parent, counted from 1; 1 for the root and
for nodes that are no elements. -/
def elementIndex (n : Node) : Nat :=
  match (n.siblingIds.filter fun id => (n.at' id).isElement).idxOf? n.id with
  | some i => i + 1
  | none => 1

/-- The nodes above, nearest first. -/
def ancestors (n : Node) : List Node := (n.doc.ancestors n.id).map n.at'

/-- Is there an element with this tag above? -/
def hasAncestor (n : Node) (tag : String) : Bool := n.ancestors.any (·.tag == tag)

/-- The nodes below, in document order. -/
def descendants (n : Node) : List Node := (n.doc.descendants n.id).map n.at'

/-- The first element below with this tag. -/
def findDescendant? (n : Node) (tag : String) : Option Node := n.descendants.find? (·.tag == tag)

/-! ## Text -/

/-- The text of the node. -/
def text (n : Node) : Text := n.doc.text n.id

/-- Start a new line, unless a line has just begun. Texts are put together in reverse. -/
def freshLine : Text → Text
  | '\n' :: rest => '\n' :: rest
  | rest => '\n' :: rest

/-- Put the text of a node behind the reversed text `out`, with line breaks around blocks and
at `br`; `levels` bounds the depth. -/
def innerOnto (d : Document) : (levels : Nat) → Text → Nat → Text
  | 0, out, _ => out
  | levels + 1, out, id =>
    match d.data id with
    | .text t => t.reverse ++ out
    | .comment _ => out
    | .element tag _ =>
      if tag = "br" then '\n' :: out
      else if Tag.isBlock tag then
        freshLine ((d.children id).foldl (innerOnto d levels)
          (if out.isEmpty then out else freshLine out))
      else (d.children id).foldl (innerOnto d levels) out

/-- **The text of the node as lines**: blocks stand on lines of their own, every line is
trimmed, and so is the whole. -/
def innerText (n : Node) : Text :=
  let out := (innerOnto n.doc n.doc.size [] n.id).reverse
  Text.trim (Text.joinLines ((Text.lines out).map Text.trim))

end Node

namespace Document

/-- A place in the document. -/
def node (d : Document) (id : Nat) : Node := ⟨d, id⟩

/-- The root. -/
def root (d : Document) : Node := d.node rootId

/-- The body: the first element with that tag, or the root if there is none. -/
def body (d : Document) : Node :=
  if d.root.tag = "body" then d.root else (d.root.findDescendant? "body").getD d.root

/-- All elements in document order; none in a degraded document. -/
def elements (d : Document) : List Node :=
  if d.degraded then [] else (d.root :: d.root.descendants).filter Node.isElement

/-- The elements with a tag, in document order. -/
def elementsByTag (d : Document) (tag : String) : List Node :=
  let tag := Text.lowerName tag
  d.elements.filter (·.tag == tag)

/-- The title: the first `title` element's text that is not blank, trimmed. -/
def title? (d : Document) : Option Text :=
  ((d.elementsByTag "title").map fun n => Text.trim n.text).find? fun t => !t.isEmpty

/-! ## Questions that are remembered -/

/-- Ask for the text of a node and remember it. -/
def askText (d : Document) (id : Nat) : Text × Document := (d.text id, d.remember id)

/-- Remember the texts of several nodes. -/
def rememberAll (d : Document) (ids : List Nat) : Document := ids.foldl remember d

/-- Ask for the title: the `title` elements up to the first one that is not blank are
remembered. -/
def askTitle (d : Document) : Option Text × Document :=
  let titles := d.elementsByTag "title"
  let blank := titles.takeWhile fun n => (Text.trim n.text).isEmpty
  let asked := titles.take (blank.length + 1)
  (d.title?, d.rememberAll (asked.map (·.id)))

end Document

end HtmlMarkdown
