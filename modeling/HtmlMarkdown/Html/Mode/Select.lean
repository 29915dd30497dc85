import HtmlMarkdown.Html.Mode.Table

/-!
# Rules for selections

How tokens are taken in within `select`. A selection holds options, their groups, separators and
text, and leaves all other tags out; what those tags enclose stays as text. The parts of a form
that cannot stand in a selection end it, and so do the tags of a table around it.
-/

namespace HtmlMarkdown.Html

namespace Builder

/-- Is a selection open around the current node, with at most options and groups between? -/
def inSelection (b : Builder) : Bool := b.inScope .selection ["select"]

/-- Close a group of options that is the current node. -/
def closeGroup (b : Builder) : Builder := if b.currentIs ["optgroup"] then b.pop else b

/-- Close the selection. -/
def closeSelect (b : Builder) : Builder := (b.popThrough ["select"]).resetMode

/-- End a group of options, and with it an option that stands directly in it. -/
def endGroup (b : Builder) : Builder :=
  let inGroup := b.pop.currentIs ["optgroup"]
  (if inGroup then b.closeOption else b).closeGroup

end Builder

/-- Take in a start tag in a selection. -/
def startInSelect (b : Builder) (tag : StartTag) : Outcome :=
  match tag.name with
  | "html" => .asIn .inBody b
  | "option" => .done (b.closeOption.insert tag)
  | "optgroup" => .done (b.closeOption.closeGroup.insert tag)
  | "hr" => .done (b.closeOption.closeGroup.insertEmpty tag)
  | "select" => .done (if b.inSelection then b.closeSelect else b)
  | "input" | "keygen" | "textarea" => if b.inSelection then .again b.closeSelect else .done b
  | "script" | "template" => .asIn .inHead b
  | _ => .done b

/-- In a selection. -/
def inSelect (b : Builder) : Token → Outcome
  | .characters .nul _ | .doctype _ => .done b
  | .characters _ t => .done (b.putText t)
  | .comment t => .done (b.putComment t)
  | .startTag tag => startInSelect b tag
  | .endTag name =>
    match name with
    | "optgroup" => .done b.endGroup
    | "option" => .done b.closeOption
    | "select" => .done (if b.inSelection then b.closeSelect else b)
    | "template" => .asIn .inHead b
    | _ => .done b
  | .endOfFile => .asIn .inBody b

/-- Tags of a table that end a selection within it. -/
def tableTags : List String :=
  ["caption", "table", "tbody", "td", "tfoot", "th", "thead", "tr"]

/-- In a selection within a table. -/
def inSelectInTable (b : Builder) (token : Token) : Outcome :=
  match token with
  | .startTag tag =>
    if tableTags.contains tag.name then .again b.closeSelect else .asIn .inSelect b
  | .endTag name =>
    if !tableTags.contains name then .asIn .inSelect b
    else if b.inTableScope [name] then .again b.closeSelect
    else .done b
  | _ => .asIn .inSelect b

end HtmlMarkdown.Html
