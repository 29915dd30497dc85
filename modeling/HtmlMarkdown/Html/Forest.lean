import HtmlMarkdown.Document.Tree
import HtmlMarkdown.Html.Token

/-!
# Trees under construction

While a source is parsed its nodes can still move: they are put in front of others, taken out
again, and handed over to new parents. A `Forest` holds all nodes that were made; the document
is node 0. `Forest.document` reads the finished document off.
-/

namespace HtmlMarkdown.Html

/-- The vocabulary that an element belongs to. -/
inductive Vocabulary where
  | html
  | math
  | svg
  deriving DecidableEq, Repr

/-- The name of an element. -/
structure ElementName where
  vocabulary : Vocabulary := .html
  tag : String
  deriving DecidableEq, Repr

/-- An attribute of an element. The `space` of an attribute in a namespace of its own is the
part of its name before the colon. -/
structure ElementAttribute where
  space : String := ""
  name : String
  value : Text
  deriving DecidableEq, Repr

/-- What a node of a forest is. -/
inductive ForestData where
  | document
  /-- The contents of a template. -/
  | contents
  /-- An element; a template has its contents in a node of their own. -/
  | element (name : ElementName) (attributes : List ElementAttribute) (contents : Option Nat)
  /-- A text, as the pieces that were added to it, the last one first. -/
  | text (pieces : List Text)
  | comment (t : Text)

/-- A node in its current place. -/
structure ForestNode where
  data : ForestData
  parent : Option Nat := none
  children : Array Nat := #[]

/-- All nodes made so far. -/
structure Forest where
  nodes : Array ForestNode := #[{ data := .document }]

namespace Forest

/-- The document. -/
def documentId : Nat := 0

/-- What a node is. -/
def data? (f : Forest) (id : Nat) : Option ForestData := f.nodes[id]?.map (·.data)

/-- The parent of a node. -/
def parent? (f : Forest) (id : Nat) : Option Nat := f.nodes[id]?.bind (·.parent)

/-- The children of a node. -/
def children (f : Forest) (id : Nat) : Array Nat := (f.nodes[id]?.map (·.children)).getD #[]

/-- The name of an element. -/
def name? (f : Forest) (id : Nat) : Option ElementName :=
  match f.data? id with
  | some (.element name ..) => some name
  | _ => none

/-- Make a node, which has no place yet. -/
def make (f : Forest) (data : ForestData) : Nat × Forest :=
  (f.nodes.size, { nodes := f.nodes.push { data := data } })

/-- Change a node. -/
def modify (f : Forest) (id : Nat) (change : ForestNode → ForestNode) : Forest :=
  { nodes := f.nodes.modify id change }

/-- Take a node out of its place. -/
def detach (f : Forest) (id : Nat) : Forest :=
  match f.parent? id with
  | none => f
  | some p =>
    (f.modify p fun n => { n with children := n.children.filter (· != id) }).modify id fun n =>
      { n with parent := none }

/-- Make a node the last child of another. -/
def append (f : Forest) (parent id : Nat) : Forest :=
  ((f.detach id).modify parent fun n => { n with children := n.children.push id }).modify id
    fun n => { n with parent := some parent }

/-- The children of a node with another one put in before one of them. -/
def insertBeforeIn (children : Array Nat) (sibling id : Nat) : Array Nat :=
  (children.toList.flatMap fun c => if c = sibling then [id, c] else [c]).toArray

/-- Put a node in before a sibling. -/
def insertBefore (f : Forest) (sibling id : Nat) : Forest :=
  let f := f.detach id
  match f.parent? sibling with
  | none => f
  | some p =>
    (f.modify p fun n => { n with children := insertBeforeIn n.children sibling id }).modify id
      fun n => { n with parent := some p }

/-- Add characters to a node if it is a text. -/
def extend? (f : Forest) (id : Option Nat) (t : Text) : Option Forest :=
  id.bind fun id =>
    match f.data? id with
    | some (.text pieces) => some (f.modify id fun n => { n with data := .text (t :: pieces) })
    | _ => none

/-- Add characters at the end of a node. -/
def appendText (f : Forest) (parent : Nat) (t : Text) : Forest :=
  match f.extend? (f.children parent).back? t with
  | some f => f
  | none =>
    let (id, f) := f.make (.text [t])
    f.append parent id

/-- The child before another one. -/
def siblingBefore? (f : Forest) (id : Nat) : Option Nat :=
  (f.parent? id).bind fun p => Node.before? id (f.children p).toList

/-- Add characters in front of a node. -/
def insertTextBefore (f : Forest) (sibling : Nat) (t : Text) : Forest :=
  match f.extend? (f.siblingBefore? sibling) t with
  | some f => f
  | none =>
    let (id, f) := f.make (.text [t])
    f.insertBefore sibling id

/-- Hand all children of a node over to another. -/
def handOver (f : Forest) (old new : Nat) : Forest :=
  (f.children old).foldl (fun f id => f.append new id) f

/-- The attributes of an element in their order: by namespace, then by name. -/
def sortedAttributes (attributes : List ElementAttribute) : List (String × Text) :=
  let before (a b : ElementAttribute) : Bool :=
    if a.space = b.space then !(b.name < a.name) else a.space < b.space
  (attributes.mergeSort before).map fun a => (a.name, a.value)

/-- The trees at a node, read to a depth of `levels`. The contents of templates are no part of
them. -/
def treesTo (f : Forest) : (levels : Nat) → Nat → List Tree
  | 0, _ => []
  | levels + 1, id =>
    match f.data? id with
    | some (.element name attributes _) =>
      [.element name.tag (sortedAttributes attributes)
        ((f.children id).toList.flatMap (treesTo f levels))]
    | some (.text pieces) => [.text pieces.reverse.flatten]
    | some (.comment t) => [.comment t]
    | _ => []

/-- The trees below a node. -/
def treesBelow (f : Forest) (id : Nat) : List Tree :=
  (f.children id).toList.flatMap (f.treesTo f.nodes.size)

/-- The root of the document: the first element that stands in no other. -/
def root? (f : Forest) : Option Nat :=
  (f.children documentId).toList.find? fun id => (f.name? id).isSome

/-- **The finished document.** -/
def document (f : Forest) : Document :=
  match f.root?.map fun id => (f.data? id, id) with
  | some (some (.element name attributes _), id) =>
    .ofRoot name.tag (sortedAttributes attributes) (f.treesBelow id)
  | _ => .ofRoot "html" [] []

end Forest

end HtmlMarkdown.Html
