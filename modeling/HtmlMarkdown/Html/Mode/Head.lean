import HtmlMarkdown.Html.Builder
import HtmlMarkdown.Html.Doctype

/-!
# Rules up to the body

How tokens are taken in before a document has a body. Documents may leave out the tags of
`html`, `head` and `body`; the elements are made then by the first token that needs them.

An `Outcome` says what becomes of a token, and is shared by the rules of all modes.
-/

namespace HtmlMarkdown.Html

/-- What becomes of a token under the rules of a mode. -/
inductive Outcome where
  /-- It is taken in. -/
  | done (b : Builder)
  /-- It is to be taken in once more, in the mode that is on now. -/
  | again (b : Builder)
  /-- It is to be taken in by the rules of another mode, without going over to it. -/
  | asIn (mode : Mode) (b : Builder)

namespace Builder

/-- Take in an element that belongs to the head of a document. -/
def headContent? (b : Builder) (tag : StartTag) : Option Builder :=
  match tag.name with
  | "base" | "basefont" | "bgsound" | "link" | "meta" => some (b.insertEmpty tag)
  | "title" => some (b.insertText tag (.escapable tag.name))
  | "noframes" | "style" => some (b.insertText tag (.raw tag.name))
  | "script" => some (b.insertText tag .script)
  | "template" =>
    let b := (b.insert tag).mark.noFrameset.enter .inTemplate
    some { b with templateModes := .inTemplate :: b.templateModes }
  | _ => none

/-- Take in the end tag of a template. -/
def endTemplate (b : Builder) : Builder :=
  if b.inTemplate then (b.closeImplied thoroughEnds).closeTemplate else b

/-- Make the head of a document. -/
def insertHead (b : Builder) (tag : StartTag) : Builder :=
  let (id, b) := b.openElement tag
  { b with head := some id, mode := .inHead }

/-- Close the head of a document. -/
def closeHead (b : Builder) : Builder := b.pop.enter .afterHead

end Builder

/-- End tags that make the elements which they would close, if they are missing. -/
def makesMissing (name : String) : Bool := ["head", "body", "html", "br"].contains name

/-- Before the document type. -/
def initial (b : Builder) : Token → Outcome
  | .characters .blank _ => .done b
  | .comment t => .done (b.putCommentIn Forest.documentId t)
  | .doctype d => .done { b with mode := .beforeHtml, tablesInParagraphs := d.isOld }
  | _ => .again { b with mode := .beforeHtml, tablesInParagraphs := true }

/-- Before the root. -/
def beforeHtml (b : Builder) : Token → Outcome
  | .characters .blank _ | .doctype _ => .done b
  | .comment t => .done (b.putCommentIn Forest.documentId t)
  | .startTag ⟨"html", attributes, _⟩ => .done ((b.insertRoot attributes).enter .beforeHead)
  | .endTag name =>
    if makesMissing name then .again ((b.insertRoot []).enter .beforeHead) else .done b
  | _ => .again ((b.insertRoot []).enter .beforeHead)

/-- Before the head. -/
def beforeHead (b : Builder) : Token → Outcome
  | .characters .blank _ | .doctype _ => .done b
  | .comment t => .done (b.putComment t)
  | .startTag tag =>
    match tag.name with
    | "html" => .asIn .inBody b
    | "head" => .done (b.insertHead tag)
    | _ => .again (b.insertHead { name := "head" })
  | .endTag name =>
    if makesMissing name then .again (b.insertHead { name := "head" }) else .done b
  | _ => .again (b.insertHead { name := "head" })

/-- In the head. -/
def inHead (b : Builder) : Token → Outcome
  | .characters .blank t => .done (b.putText t)
  | .doctype _ => .done b
  | .comment t => .done (b.putComment t)
  | .startTag tag =>
    match tag.name with
    | "html" => .asIn .inBody b
    | "head" => .done b
    | "noscript" => .done (b.insertText tag (.raw tag.name))
    | _ =>
      match b.headContent? tag with
      | some b => .done b
      | none => .again b.closeHead
  | .endTag name =>
    match name with
    | "head" => .done b.closeHead
    | "body" | "html" | "br" => .again b.closeHead
    | "template" => .done b.endTemplate
    | _ => .done b
  | _ => .again b.closeHead

/-- Between head and body. -/
def afterHead (b : Builder) : Token → Outcome
  | .characters .blank t => .done (b.putText t)
  | .doctype _ => .done b
  | .comment t => .done (b.putComment t)
  | .startTag tag =>
    match tag.name with
    | "html" => .asIn .inBody b
    | "body" => .done ((b.insert tag).noFrameset.enter .inBody)
    | "frameset" => .done ((b.insert tag).enter .inFrameset)
    | "head" => .done b
    | _ =>
      let open? :=
        b.head.bind fun head =>
          (({ b with stack := head :: b.stack } : Builder).headContent? tag).map
            (·.removeOpen head)
      match open? with
      | some b => .done b
      | none => .again ((b.insertBare "body").enter .inBody)
  | .endTag name =>
    match name with
    | "template" => .done b.endTemplate
    | "body" | "html" | "br" => .again ((b.insertBare "body").enter .inBody)
    | _ => .done b
  | _ => .again ((b.insertBare "body").enter .inBody)

end HtmlMarkdown.Html
