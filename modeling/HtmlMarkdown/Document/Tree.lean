import HtmlMarkdown.Document.Node

/-!
# Trees

A tree written out as a value. `Document.ofRoot` and `Document.ofTree?` plant one as a document,
its nodes numbered in document order, and `Document.treeAt` reads one off again.
-/

namespace HtmlMarkdown

/-- A node with everything below it. -/
inductive Tree where
  | element (tag : String) (attributes : List (String × Text)) (children : List Tree)
  | text (value : Text)
  | comment (value : Text)

namespace Document

mutual

/-- Append a tree below a node. -/
def plant (d : Document) (parent : Nat) : Tree → Document
  | .element tag attributes children =>
    plantAll (d.appendElement parent tag attributes) d.size children
  | .text t => d.appendText parent t
  | .comment t => d.appendComment parent t

/-- Append trees below a node, one after the other. -/
def plantAll (d : Document) (parent : Nat) : List Tree → Document
  | [] => d
  | t :: rest => plantAll (plant d parent t) parent rest

end

/-- The document with a root element and the trees below it. -/
def ofRoot (tag : String) (attributes : List (String × Text)) (children : List Tree) : Document :=
  plantAll (new tag attributes) rootId children

/-- The document of a tree, which has to be an element. -/
def ofTree? : Tree → Option Document
  | .element tag attributes children => some (ofRoot tag attributes children)
  | _ => none

/-- The tree at a node, read to a depth of `levels`. -/
def treeTo (d : Document) : (levels : Nat) → Nat → Tree
  | 0, _ => .text []
  | levels + 1, id =>
    match d.data id with
    | .element tag attributes => .element tag attributes ((d.children id).map (treeTo d levels))
    | .text t => .text t
    | .comment t => .comment t

/-- The tree at a node. -/
def treeAt (d : Document) (id : Nat) : Tree := d.treeTo d.size id

end Document

end HtmlMarkdown
