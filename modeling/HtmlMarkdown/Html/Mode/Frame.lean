import HtmlMarkdown.Html.Mode.Select

/-!
# Rules around the body

How tokens are taken in within templates and sets of frames, and behind the end of the document.
-/

namespace HtmlMarkdown.Html

/-- The mode for the contents of a template that begin with a tag. -/
def templateModeFor (name : String) : Mode :=
  if ["caption", "colgroup", "tbody", "tfoot", "thead"].contains name then .inTable
  else if name == "col" then .inColumnGroup
  else if name == "tr" then .inTableBody
  else if name == "td" || name == "th" then .inRow
  else .inBody

/-- Does the element belong to the head of a document? -/
def isHeadTag (name : String) : Bool :=
  ["base", "basefont", "bgsound", "link", "meta", "noframes", "script", "style", "template",
    "title"].contains name

/-- In a template. -/
def inTemplate (b : Builder) : Token → Outcome
  | .characters .nul _ | .doctype _ => .done b
  | .characters .. | .comment _ => .asIn .inBody b
  | .startTag tag =>
    if isHeadTag tag.name then .asIn .inHead b
    else
      let mode := templateModeFor tag.name
      .again { b with mode := mode, templateModes := mode :: b.templateModes.drop 1 }
  | .endTag name => if name == "template" then .asIn .inHead b else .done b
  | .endOfFile => if b.inTemplate then .again b.closeTemplate else .done b

/-- Behind the body. -/
def afterBody (b : Builder) : Token → Outcome
  | .characters .blank _ => .asIn .inBody b
  | .comment t => .done (b.putCommentIn b.outermost t)
  | .doctype _ | .endOfFile => .done b
  | .startTag ⟨"html", _, _⟩ => .asIn .inBody b
  | .endTag "html" => .done (b.enter .afterAfterBody)
  | _ => .again (b.enter .inBody)

/-- In a set of frames. -/
def inFrameset (b : Builder) : Token → Outcome
  | .characters .blank t => .done (b.putText t)
  | .comment t => .done (b.putComment t)
  | .startTag tag =>
    match tag.name with
    | "html" => .asIn .inBody b
    | "frameset" => .done (b.insert tag)
    | "frame" => .done (b.insertEmpty tag)
    | "noframes" => .asIn .inHead b
    | _ => .done b
  | .endTag "frameset" =>
    if b.stack.length ≤ 1 then .done b
    else
      let b := b.pop
      .done (if b.currentIs ["frameset"] then b else b.enter .afterFrameset)
  | _ => .done b

/-- Behind a set of frames. -/
def afterFrameset (b : Builder) : Token → Outcome
  | .characters .blank t => .done (b.putText t)
  | .comment t => .done (b.putComment t)
  | .startTag tag =>
    match tag.name with
    | "html" => .asIn .inBody b
    | "noframes" => .asIn .inHead b
    | _ => .done b
  | .endTag "html" => .done (b.enter .afterAfterFrameset)
  | _ => .done b

/-- Behind the end of a document with a body. -/
def afterAfterBody (b : Builder) : Token → Outcome
  | .characters .blank _ => .asIn .inBody b
  | .comment t => .done (b.putCommentIn Forest.documentId t)
  | .doctype _ | .endOfFile => .done b
  | .startTag ⟨"html", _, _⟩ => .asIn .inBody b
  | _ => .again (b.enter .inBody)

/-- Behind the end of a document with a set of frames. -/
def afterAfterFrameset (b : Builder) : Token → Outcome
  | .characters .blank _ => .asIn .inBody b
  | .comment t => .done (b.putCommentIn Forest.documentId t)
  | .startTag tag =>
    match tag.name with
    | "html" => .asIn .inBody b
    | "noframes" => .asIn .inHead b
    | _ => .done b
  | _ => .done b

end HtmlMarkdown.Html
