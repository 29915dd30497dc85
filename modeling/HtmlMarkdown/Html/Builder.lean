import HtmlMarkdown.Html.Scope

/-!
# Building a document

The state of a parser between two tokens, and the steps of which all of its rules are made:
looking at the stack of open elements, closing elements, and putting nodes in their places.

The stack of open elements and the list of active formatting elements have their latest member
first.
-/

namespace HtmlMarkdown.Html

/-- The sets of rules by which tokens are taken in. -/
inductive Mode where
  | initial
  | beforeHtml
  | beforeHead
  | inHead
  | afterHead
  | inBody
  | text
  | inTable
  | inTableText
  | inCaption
  | inColumnGroup
  | inTableBody
  | inRow
  | inCell
  | inSelect
  | inSelectInTable
  | inTemplate
  | afterBody
  | inFrameset
  | afterFrameset
  | afterAfterBody
  | afterAfterFrameset
  deriving DecidableEq, Repr

/-- A member of the list of active formatting elements. -/
inductive Formatting where
  /-- Elements before it are out of reach. -/
  | marker
  /-- An element with the tag that started it. -/
  | element (id : Nat) (tag : StartTag)
  deriving DecidableEq, Repr

/-- The state of a parser. -/
structure Builder where
  forest : Forest := {}
  mode : Mode := .initial
  /-- The mode to go back to after text. -/
  returnMode : Mode := .initial
  templateModes : List Mode := []
  /-- The open elements, the innermost first. -/
  stack : List Nat := []
  /-- The active formatting elements, the latest first. -/
  formatting : List Formatting := []
  head : Option Nat := none
  form : Option Nat := none
  /-- May a frameset still replace the body? -/
  framesetOk : Bool := true
  /-- May a table stand within a paragraph? It may in documents of an old type. -/
  tablesInParagraphs : Bool := false
  /-- Does content that is misplaced in a table go in front of it? -/
  fostering : Bool := false
  /-- Is a line feed passed over if it comes next? -/
  skipLineFeed : Bool := false
  /-- Characters between the tags of a table, the latest first. -/
  tableText : List (CharKind × Text) := []
  /-- How the source is read on. -/
  reading : Reading := .data

namespace Builder

/-! ## The stack of open elements -/

/-- The name of an element; a node that is none has no tag. -/
def nameOf (b : Builder) (id : Nat) : ElementName := (b.forest.name? id).getD { tag := "" }

/-- Is the node an HTML element with one of some tags? -/
def isHtml (b : Builder) (tags : List String) (id : Nat) : Bool := (b.nameOf id).isHtml tags

/-- The current node is the innermost open element. -/
def current (b : Builder) : Nat := b.stack.head?.getD Forest.documentId

/-- Is the current node one with such a tag? -/
def currentIs (b : Builder) (tags : List String) : Bool := b.isHtml tags b.current

/-- Is a template open? -/
def inTemplate (b : Builder) : Bool := b.stack.any (b.isHtml ["template"])

/-- Can an open element be seen from the current node? -/
def seesIn (b : Builder) (scope : Scope) (p : Nat → Bool) : List Nat → Bool
  | [] => false
  | id :: rest =>
    if p id then true else if scope.stops (b.nameOf id) then false else b.seesIn scope p rest

/-- Is an element with one of some tags in scope? -/
def inScope (b : Builder) (scope : Scope) (tags : List String) : Bool :=
  b.seesIn scope (b.isHtml tags) b.stack

/-- Close the innermost element. -/
def pop (b : Builder) : Builder := { b with stack := b.stack.drop 1 }

/-- Close elements up to and including the innermost one with one of some tags. -/
def popThrough (b : Builder) (tags : List String) : Builder :=
  { b with stack := (b.stack.dropWhile fun id => !b.isHtml tags id).drop 1 }

/-- Close elements until the current node has one of some tags. -/
def popTo (b : Builder) (tags : List String) : Builder :=
  { b with stack := b.stack.dropWhile fun id => !b.isHtml tags id }

/-- Close the elements that end by themselves. -/
def closeImplied (b : Builder) (tags : List String) : Builder :=
  { b with stack := b.stack.dropWhile (b.isHtml tags) }

/-- Close the elements that end by themselves, other than those with a tag. -/
def closeImpliedBut (b : Builder) (tag : String) : Builder :=
  b.closeImplied (impliedEnds.filter (· != tag))

/-- Close an element with a tag, and what ends by itself within it. -/
def close (b : Builder) (tag : String) : Builder := (b.closeImpliedBut tag).popThrough [tag]

/-- Close a paragraph that is in scope. -/
def closeParagraph (b : Builder) : Builder :=
  if b.inScope .button ["p"] then b.close "p" else b

/-- Take an element out of the stack. -/
def removeOpen (b : Builder) (id : Nat) : Builder :=
  { b with stack := b.stack.filter (· != id) }

/-- The elements of a table's rows to which its contents can be cut back. -/
def tableContext : List String := ["table", "template", "html"]

/-- The elements to which the contents of a group of rows can be cut back. -/
def tableBodyContext : List String := ["tbody", "tfoot", "thead", "template", "html"]

/-- The elements to which the contents of a row can be cut back. -/
def rowContext : List String := ["tr", "template", "html"]

/-! ## Places -/

/-- Where a node goes. -/
inductive Place where
  | lastIn (parent : Nat)
  /-- In front of a table, or at the end of another element if the table has no parent. -/
  | nearTable (table above : Nat)

/-- The element itself, or the contents of a template. -/
def contentsOf (b : Builder) (id : Nat) : Nat :=
  match b.forest.data? id with
  | some (.element _ _ (some contents)) => contents
  | _ => id

/-- Where misplaced content of a table goes, looked for from the inside out. -/
def fosterPlace (b : Builder) : List Nat → Place
  | [] => .lastIn Forest.documentId
  | id :: rest =>
    if b.isHtml ["template"] id then .lastIn (b.contentsOf id)
    else if b.isHtml ["table"] id then .nearTable id (rest.head?.getD id)
    else if rest.isEmpty then .lastIn id
    else b.fosterPlace rest

/-- **The place for a new node** below a target. -/
def placeIn (b : Builder) (target : Nat) : Place :=
  if b.fostering && b.isHtml ["table", "tbody", "tfoot", "thead", "tr"] target then
    b.fosterPlace b.stack
  else .lastIn (b.contentsOf target)

/-- Put a node in its place. -/
def putNode (b : Builder) (place : Place) (id : Nat) : Builder :=
  let forest :=
    match place with
    | .lastIn parent => b.forest.append parent id
    | .nearTable table above =>
      if (b.forest.parent? table).isSome then b.forest.insertBefore table id
      else b.forest.append above id
  { b with forest := forest }

/-- Put characters in their place. -/
def putText (b : Builder) (t : Text) : Builder :=
  let forest :=
    match b.placeIn b.current with
    | .lastIn parent =>
      if parent = Forest.documentId then b.forest else b.forest.appendText parent t
    | .nearTable table above =>
      if (b.forest.parent? table).isSome then b.forest.insertTextBefore table t
      else b.forest.appendText above t
  { b with forest := forest }

/-- Put a comment at the end of a node. -/
def putCommentIn (b : Builder) (parent : Nat) (t : Text) : Builder :=
  let (id, forest) := b.forest.make (.comment t)
  { b with forest := forest.append parent id }

/-- Put a comment in the place for a new node. -/
def putComment (b : Builder) (t : Text) : Builder :=
  let (id, forest) := b.forest.make (.comment t)
  ({ b with forest := forest } : Builder).putNode (b.placeIn b.current) id

/-! ## Elements -/

/-- The attributes of a tag in the HTML vocabulary. -/
def htmlAttributes (attributes : List (String × Text)) : List ElementAttribute :=
  attributes.map fun a => { name := a.1, value := a.2 }

/-- Make an element, which has no place yet. -/
def makeElement (b : Builder) (name : ElementName) (attributes : List ElementAttribute) :
    Nat × Builder :=
  if name == ⟨.html, "template"⟩ then
    let (contents, forest) := b.forest.make .contents
    let (id, forest) := forest.make (.element name attributes (some contents))
    (id, { b with forest := forest })
  else
    let (id, forest) := b.forest.make (.element name attributes none)
    (id, { b with forest := forest })

/-- Make the element of a tag and put it in its place, without opening it. -/
def putElement (b : Builder) (name : ElementName) (attributes : List ElementAttribute) :
    Nat × Builder :=
  let place := b.placeIn b.current
  let (id, b) := b.makeElement name attributes
  (id, b.putNode place id)

/-- Open an element for a tag: it becomes the current node. -/
def openElement (b : Builder) (tag : StartTag) : Nat × Builder :=
  let (id, b) := b.putElement { tag := tag.name } (htmlAttributes tag.attributes)
  (id, { b with stack := id :: b.stack })

/-- Open an element for a tag. -/
def insert (b : Builder) (tag : StartTag) : Builder := (b.openElement tag).2

/-- Open an element without attributes. -/
def insertBare (b : Builder) (tag : String) : Builder := b.insert { name := tag }

/-- Put the element of a tag in its place; it stays empty. -/
def insertEmpty (b : Builder) (tag : StartTag) : Builder :=
  (b.putElement { tag := tag.name } (htmlAttributes tag.attributes)).2

/-- Make the root of the document. -/
def insertRoot (b : Builder) (attributes : List (String × Text)) : Builder :=
  let (id, b) := b.makeElement { tag := "html" } (htmlAttributes attributes)
  { b with forest := b.forest.append Forest.documentId id, stack := [id] }

/-- Give an element the attributes that it lacks. -/
def addAttributes (b : Builder) (id : Nat) (attributes : List (String × Text)) : Builder :=
  let change (n : ForestNode) : ForestNode :=
    match n.data with
    | .element name old contents =>
      let new := (htmlAttributes attributes).filter fun a =>
        !old.any fun o => o.space == a.space && o.name == a.name
      { n with data := .element name (old ++ new) contents }
    | _ => n
  { b with forest := b.forest.modify id change }

/-- The root of the document, the outermost open element. -/
def outermost (b : Builder) : Nat := b.stack.getLast?.getD Forest.documentId

/-- Forbid framesets. -/
def noFrameset (b : Builder) : Builder := { b with framesetOk := false }

/-- Go over to another mode. -/
def enter (b : Builder) (mode : Mode) : Builder := { b with mode := mode }

/-- Open an element that holds only text, which is read in its own way. -/
def insertText (b : Builder) (tag : StartTag) (reading : Reading) : Builder :=
  { b.insert tag with returnMode := b.mode, mode := .text, reading := reading }

/-! ## Active formatting elements -/

/-- Put a marker into the list of active formatting elements. -/
def mark (b : Builder) : Builder := { b with formatting := .marker :: b.formatting }

/-- Forget the active formatting elements up to the latest marker. -/
def clearToMarker (b : Builder) : Builder :=
  { b with formatting := (b.formatting.dropWhile (· != .marker)).drop 1 }

/-- Is the member the element with a number? -/
def Formatting.isElement (id : Nat) : Formatting → Bool
  | .marker => false
  | .element other _ => other == id

/-- The latest active formatting element with a tag, behind the last marker. -/
def formattingFor? (tag : String) : List Formatting → Option (Nat × StartTag)
  | [] | .marker :: _ => none
  | .element id t :: rest => if t.name = tag then some (id, t) else formattingFor? tag rest

/-- Are the tags the same, whatever the order of their attributes? -/
def sameTag (s t : StartTag) : Bool :=
  s.name == t.name && s.attributes.length == t.attributes.length &&
    s.attributes.all fun a => t.attributes.contains a

/-- Take out the earliest of three elements behind the last marker that are the same as a
tag. -/
def dropThird (tag : StartTag) (formatting : List Formatting) : List Formatting :=
  let reach := formatting.takeWhile (· != .marker)
  let same := reach.filterMap fun e =>
    match e with
    | .element id t => if sameTag tag t then some id else none
    | .marker => none
  if 3 ≤ same.length then
    match same.getLast? with
    | some earliest => formatting.filter fun e => !Formatting.isElement earliest e
    | none => formatting
  else formatting

/-- Open a formatting element. -/
def insertFormatting (b : Builder) (tag : StartTag) : Builder :=
  let (id, b) := { b with formatting := dropThird tag b.formatting }.openElement tag
  { b with formatting := .element id tag :: b.formatting }

/-- Open the formatting elements again that were closed with the elements around them, the
earliest first. -/
def reconstruct (b : Builder) : Builder :=
  let isClosed (e : Formatting) : Bool :=
    match e with
    | .marker => false
    | .element id _ => !b.stack.contains id
  let closed := (b.formatting.takeWhile isClosed).reverse
  let kept := b.formatting.dropWhile isClosed
  closed.foldl
    (fun b e =>
      match e with
      | .marker => b
      | .element _ tag =>
        let (id, b) := b.openElement tag
        { b with formatting := .element id tag :: b.formatting })
    { b with formatting := kept }

/-! ## Modes -/

/-- The mode for a selection within some elements, the innermost first. -/
def selectModeIn (b : Builder) : List Nat → Mode
  | [] => .inSelect
  | id :: rest =>
    if b.isHtml ["template"] id then .inSelect
    else if b.isHtml ["table"] id then .inSelectInTable
    else b.selectModeIn rest

/-- The mode for an open element, looked for from the inside out. -/
def modeFor (b : Builder) : List Nat → Mode
  | [] => .inBody
  | id :: rest =>
    let isLast := rest.isEmpty
    let name := b.nameOf id
    let mode? : Option Mode :=
      if name.vocabulary != .html then none
      else
        match name.tag with
        | "select" => some (b.selectModeIn rest)
        | "td" | "th" => if isLast then none else some .inCell
        | "tr" => some .inRow
        | "tbody" | "thead" | "tfoot" => some .inTableBody
        | "caption" => some .inCaption
        | "colgroup" => some .inColumnGroup
        | "table" => some .inTable
        | "template" => some (b.templateModes.head?.getD .inBody)
        | "head" => if isLast then none else some .inHead
        | "body" => some .inBody
        | "frameset" => some .inFrameset
        | "html" => some (if b.head.isNone then .beforeHead else .afterHead)
        | _ => none
    match mode? with
    | some mode => mode
    | none => if isLast then .inBody else b.modeFor rest

/-- Go over to the mode that the open elements call for. -/
def resetMode (b : Builder) : Builder := { b with mode := b.modeFor b.stack }

/-- Close the innermost template. -/
def closeTemplate (b : Builder) : Builder :=
  let b := (b.popThrough ["template"]).clearToMarker
  { b with templateModes := b.templateModes.drop 1 }.resetMode

end Builder

end HtmlMarkdown.Html
