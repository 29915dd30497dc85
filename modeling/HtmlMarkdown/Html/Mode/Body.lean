import HtmlMarkdown.Html.Adoption
import HtmlMarkdown.Html.Mode.Foreign

/-!
# Rules for the body

How tokens are taken in within the body of a document. A start tag closes what cannot hold the
new element (`closeParagraph`, `closeItem`), opens the formatting again that earlier blocks cut
off (`reconstruct`), and opens its element. An end tag closes the innermost element of its name
if nothing hides it.
-/

namespace HtmlMarkdown.Html

/-- Elements whose start tag closes a paragraph. -/
def blockTags : List String := [
  "address", "article", "aside", "blockquote", "center", "details", "dialog", "dir", "div",
  "dl", "fieldset", "figcaption", "figure", "footer", "header", "hgroup", "main", "menu", "nav",
  "ol", "p", "search", "section", "summary", "ul"]

/-- Elements whose end tag closes them through whatever is still open in them. -/
def blockEndTags : List String :=
  blockTags.filter (· != "p") ++ ["button", "listing", "pre"]

/-- Elements that go on behind a block that cuts them off. -/
def formattingTags : List String := [
  "b", "big", "code", "em", "font", "i", "s", "small", "strike", "strong", "tt", "u"]

/-- Elements that formatting does not cross. -/
def enclosureTags : List String := ["applet", "marquee", "object"]

/-- Tags that mean something only in other places. -/
def misplacedTags : List String := [
  "caption", "col", "colgroup", "frame", "head", "tbody", "td", "tfoot", "th", "thead", "tr"]

/-- Is the tag one of an input field that is not shown? -/
def isHiddenInput (tag : StartTag) : Bool :=
  tag.attributes.any fun a => a.1 == "type" && a.2.map Char.toLower == "hidden".toList

namespace Builder

/-- The body of the document, if it is open. -/
def body? (b : Builder) : Option Nat :=
  match b.stack.reverse with
  | _ :: id :: _ => if b.isHtml ["body"] id then some id else none
  | _ => none

/-- The innermost item of a list that an item with one of some tags would end, looked for from
the inside out. -/
def openItem? (b : Builder) (tags : List String) : List Nat → Option String
  | [] => none
  | id :: rest =>
    if b.isHtml tags id then some (b.nameOf id).tag
    else if b.isSpecial id && !b.isHtml ["address", "div", "p"] id then none
    else b.openItem? tags rest

/-- Close the item of a list that an item with one of some tags ends. -/
def closeItem (b : Builder) (tags : List String) : Builder :=
  match b.openItem? tags b.stack with
  | some tag => b.close tag
  | none => b

/-- Close an option that is the current node. -/
def closeOption (b : Builder) : Builder := if b.currentIs ["option"] then b.pop else b

/-- Open a selection. Its rules depend on whether it stands within a table. -/
def startSelect (b : Builder) (tag : StartTag) : Builder :=
  let mode : Mode :=
    if [Mode.inTable, .inCaption, .inTableBody, .inRow, .inCell].contains b.mode then
      .inSelectInTable
    else .inSelect
  (b.reconstruct.insert tag).noFrameset.enter mode

/-- Close an element if it is in scope. -/
def closeInScope (b : Builder) (scope : Scope) (tag : String) : Builder :=
  if b.inScope scope [tag] then (b.closeImplied impliedEnds).popThrough [tag] else b

/-- End a link that is still open where another one begins. -/
def endLink (b : Builder) : Builder :=
  match formattingFor? "a" b.formatting with
  | some (id, _) => ((b.endFormatting "a").forget id).removeOpen id
  | none => b

/-- Replace the body by a set of frames. -/
def insertFrameset (b : Builder) (tag : StartTag) : Builder :=
  match if b.framesetOk then b.body? else none with
  | some body =>
    let b := { b with forest := b.forest.detach body, stack := [b.outermost] }
    (b.insert tag).enter .inFrameset
  | none => b

/-- Open a form, unless one is open. -/
def insertForm (b : Builder) (tag : StartTag) : Builder :=
  if b.inTemplate then b.closeParagraph.insert tag
  else if b.form.isSome then b
  else
    let (id, b) := b.closeParagraph.openElement tag
    { b with form := some id }

/-- End a form. -/
def endForm (b : Builder) : Builder :=
  if b.inTemplate then b.closeInScope .default "form"
  else
    match b.form with
    | none => b
    | some id =>
      let b := { b with form := none }
      if b.seesIn .default (· == id) b.stack then (b.closeImplied impliedEnds).removeOpen id
      else b

/-- Take in the start tag of a block. -/
def startBlock? (b : Builder) (tag : StartTag) : Option Builder :=
  if blockTags.contains tag.name then some (b.closeParagraph.insert tag)
  else if headings.contains tag.name then
    let b := b.closeParagraph
    some ((if b.currentIs headings then b.pop else b).insert tag)
  else
    match tag.name with
    | "pre" | "listing" =>
      some { (b.closeParagraph.insert tag).noFrameset with skipLineFeed := true }
    | "form" => some (b.insertForm tag)
    | "li" => some (((b.noFrameset.closeItem ["li"]).closeParagraph).insert tag)
    | "dd" | "dt" => some (((b.noFrameset.closeItem ["dd", "dt"]).closeParagraph).insert tag)
    | "plaintext" => some { b.closeParagraph.insert tag with reading := .plain }
    | "table" =>
      let b := if b.tablesInParagraphs then b else b.closeParagraph
      some ((b.insert tag).noFrameset.enter .inTable)
    | "hr" => some (b.closeParagraph.insertEmpty tag).noFrameset
    | "xmp" =>
      some (b.closeParagraph.reconstruct.noFrameset.insertText tag (.raw tag.name))
    | _ => none

/-- Take in the start tag of a formatting element. -/
def startFormatting? (b : Builder) (tag : StartTag) : Option Builder :=
  if formattingTags.contains tag.name then some (b.reconstruct.insertFormatting tag)
  else
    match tag.name with
    | "a" => some (b.endLink.reconstruct.insertFormatting tag)
    | "nobr" =>
      let b := b.reconstruct
      let b := if b.inScope .default ["nobr"] then (b.endFormatting "nobr").reconstruct else b
      some (b.insertFormatting tag)
    | _ => none

/-- Take in the start tag of a part of a form. -/
def startField? (b : Builder) (tag : StartTag) : Option Builder :=
  match tag.name with
  | "button" => some ((b.closeInScope .default "button").reconstruct.insert tag).noFrameset
  | "input" =>
    let b := b.reconstruct.insertEmpty tag
    some (if isHiddenInput tag then b else b.noFrameset)
  | "textarea" =>
    some { b.noFrameset.insertText tag (.escapable tag.name) with skipLineFeed := true }
  | "select" => some (b.startSelect tag)
  | "option" | "optgroup" => some (b.closeOption.reconstruct.insert tag)
  | _ => none

/-- Take in the start tag of an element within a line of text. -/
def startInline (b : Builder) (tag : StartTag) : Builder :=
  if enclosureTags.contains tag.name then (b.reconstruct.insert tag).mark.noFrameset
  else
    match tag.name with
    | "area" | "br" | "embed" | "img" | "keygen" | "wbr" =>
      (b.reconstruct.insertEmpty tag).noFrameset
    | "image" => (b.reconstruct.insertEmpty { tag with name := "img" }).noFrameset
    | "param" | "source" | "track" => b.insertEmpty tag
    | "iframe" => b.noFrameset.insertText tag (.raw tag.name)
    | "noembed" | "noscript" => b.insertText tag (.raw tag.name)
    | "rb" | "rtc" =>
      (if b.inScope .default ["ruby"] then b.closeImplied impliedEnds else b).insert tag
    | "rp" | "rt" =>
      (if b.inScope .default ["ruby"] then b.closeImpliedBut "rtc" else b).insert tag
    | "math" => b.insertForeign .math tag
    | "svg" => b.insertForeign .svg tag
    | _ => if misplacedTags.contains tag.name then b else b.reconstruct.insert tag

/-- Take in a start tag in the body. -/
def startInBody (b : Builder) (tag : StartTag) : Builder :=
  match tag.name with
  | "html" => if b.inTemplate then b else b.addAttributes b.outermost tag.attributes
  | "body" =>
    match if b.inTemplate then none else b.body? with
    | some body => b.noFrameset.addAttributes body tag.attributes
    | none => b
  | "frameset" => b.insertFrameset tag
  | _ =>
    ((b.headContent? tag).or ((b.startBlock? tag).or ((b.startFormatting? tag).or
      (b.startField? tag)))).getD (b.startInline tag)

/-- Take in an end tag in the body, other than those of `body` and `html`. -/
def endInBody (b : Builder) (name : String) : Builder :=
  if blockEndTags.contains name then b.closeInScope .default name
  else if headings.contains name then
    if b.inScope .default headings then (b.closeImplied impliedEnds).popThrough headings else b
  else if name == "a" || name == "nobr" || formattingTags.contains name then b.endFormatting name
  else if enclosureTags.contains name then
    if b.inScope .default [name] then (b.closeInScope .default name).clearToMarker else b
  else
    match name with
    | "template" => b.endTemplate
    | "form" => b.endForm
    | "p" => (if b.inScope .button ["p"] then b else b.insertBare "p").close "p"
    | "li" => if b.inScope .listItem ["li"] then b.close "li" else b
    | "dd" | "dt" => if b.inScope .default [name] then b.close name else b
    | "br" => (b.reconstruct.insertEmpty { name := "br" }).noFrameset
    | _ => b.endOrdinary name

end Builder

/-- In the body. -/
def inBody (b : Builder) : Token → Outcome
  | .characters .nul _ | .doctype _ => .done b
  | .characters .blank t => .done (b.reconstruct.putText t)
  | .characters .visible t => .done (b.reconstruct.noFrameset.putText t)
  | .comment t => .done (b.putComment t)
  | .startTag tag => .done (b.startInBody tag)
  | .endTag "body" => .done (if b.inScope .default ["body"] then b.enter .afterBody else b)
  | .endTag "html" =>
    if b.inScope .default ["body"] then .again (b.enter .afterBody) else .done b
  | .endTag name => .done (b.endInBody name)
  | .endOfFile => if b.templateModes.isEmpty then .done b else .asIn .inTemplate b

/-- In an element that holds only text. -/
def inText (b : Builder) : Token → Outcome
  | .characters _ t => .done (b.putText t)
  | .endTag _ => .done (b.pop.enter b.returnMode)
  | .endOfFile => .again (b.pop.enter b.returnMode)
  | .startTag _ | .comment _ | .doctype _ => .done b

end HtmlMarkdown.Html
