import HtmlMarkdown.Html.Builder

/-!
# Closing formatting elements

The end tag of a formatting element such as `b` may come while blocks within it are still open.
The element then ends before the outermost such block, and a copy of it goes on inside the
block: `<b>x<p>y</b>z</p>` reads as `<b>x</b><p><b>y</b>z</p>`. This takes a round for each
block, `adoptBlock`; `endFormatting` runs the rounds.
-/

namespace HtmlMarkdown.Html

namespace Builder

/-- Is the node an element that no end tag of another element closes unasked? -/
def isSpecial (b : Builder) (id : Nat) : Bool := (b.nameOf id).isSpecial

/-- Close the innermost element with a tag, unless a special element would be closed with it. -/
def endOrdinary (b : Builder) (tag : String) : Builder :=
  match b.stack.find? fun id => b.isHtml [tag] id || b.isSpecial id with
  | some id => if b.isHtml [tag] id then b.close tag else b
  | none => b

/-- Take an element off the list of active formatting elements. -/
def forget (b : Builder) (id : Nat) : Builder :=
  { b with formatting := b.formatting.filter fun e => !Formatting.isElement id e }

/-- The tag of an element on the list of active formatting elements. -/
def activeTag? (b : Builder) (id : Nat) : Option StartTag :=
  b.formatting.findSome? fun e =>
    match e with
    | .element other tag => if other = id then some tag else none
    | .marker => none

/-- The elements between a formatting element and a block inside of it, as they are copied from
the inside out. -/
structure Climb where
  builder : Builder
  /-- The outermost node so far, which goes into the next copy. -/
  last : Nat
  /-- The copies, the outermost first. -/
  copies : List Nat := []
  /-- How many elements were looked at. -/
  count : Nat := 0

/-- Look at the next element further out. It is copied if it is an active formatting element
and among the first three; otherwise it is left behind. -/
def Climb.step (c : Climb) (id : Nat) : Climb :=
  let c := { c with count := c.count + 1 }
  match if c.count ≤ 3 then c.builder.activeTag? id else none with
  | none => { c with builder := c.builder.forget id }
  | some tag =>
    let (copy, b) := c.builder.makeElement { tag := tag.name } (htmlAttributes tag.attributes)
    let renew (e : Formatting) : Formatting :=
      if Formatting.isElement id e then .element copy tag else e
    { c with
      builder := { b with formatting := b.formatting.map renew
                          forest := b.forest.append copy c.last }
      last := copy
      copies := copy :: c.copies }

/-- The list of active formatting elements with an element replaced by its copy. The copy comes
right behind the innermost copy of the elements between, if there are any. -/
def replaceFormatting (formatting : List Formatting) (old : Nat) (new : Formatting)
    (innermost : Option Nat) : List Formatting :=
  match innermost with
  | none => formatting.map fun e => if Formatting.isElement old e then new else e
  | some copy => formatting.flatMap fun e =>
      if Formatting.isElement copy e then [new, e]
      else if Formatting.isElement old e then []
      else [e]

/-- End a formatting element before a block inside of it. The stack of open elements is given
in its parts: what is within the block, what is between the block and the formatting element,
and what is around them. -/
def adoptBlock (b : Builder) (id : Nat) (tag : StartTag) (within : List Nat) (block : Nat)
    (between around : List Nat) : Builder :=
  let c := between.foldl Climb.step { builder := b, last := block }
  let b := c.builder
  let b := { b with forest := b.forest.detach c.last }
  let b := b.putNode (b.placeIn (around.head?.getD Forest.documentId)) c.last
  let (copy, b) := b.makeElement { tag := tag.name } (htmlAttributes tag.attributes)
  { b with
    forest := (b.forest.handOver block copy).append block copy
    formatting := replaceFormatting b.formatting id (.element copy tag) c.copies.getLast?
    stack := within ++ copy :: block :: c.copies.reverse ++ around }

/-- A round of ending a formatting element: the state behind it, and whether there may be more
to do. -/
def adoptOnce (b : Builder) (tag : String) : Builder × Bool :=
  match formattingFor? tag b.formatting with
  | none => (b.endOrdinary tag, false)
  | some (id, start) =>
    if !b.stack.contains id then (b.forget id, false)
    else if !b.seesIn .default (· == id) b.stack then (b, false)
    else
      let inside := b.stack.takeWhile (· != id)
      let around := (b.stack.dropWhile (· != id)).drop 1
      match (inside.filter b.isSpecial).getLast? with
      | none => (({ b with stack := around } : Builder).forget id, false)
      | some block =>
        let within := inside.takeWhile (· != block)
        let between := (inside.dropWhile (· != block)).drop 1
        (b.adoptBlock id start within block between around, true)

/-- Run the rounds of ending a formatting element. -/
def adoptRounds (tag : String) : (rounds : Nat) → Builder → Builder
  | 0, b => b
  | rounds + 1, b =>
    match b.adoptOnce tag with
    | (b, true) => adoptRounds tag rounds b
    | (b, false) => b

/-- **End a formatting element**, in at most eight rounds. -/
def endFormatting (b : Builder) (tag : String) : Builder :=
  let isActive := b.formatting.any (Formatting.isElement b.current)
  if b.currentIs [tag] && !isActive then b.pop else adoptRounds tag 8 b

end Builder

end HtmlMarkdown.Html
