import HtmlMarkdown.Html.Mode.Body

/-!
# Rules for tables

How tokens are taken in within a table. The elements of a table that a source leaves out are
made (`tbody` around rows, `tr` around cells, `colgroup` around columns), and a tag of a table
closes all that is open further in. Content that does not belong between the tags of a table
goes in front of it.
-/

namespace HtmlMarkdown.Html

/-- Elements that stand directly in a table. -/
def tableParts : List String := ["caption", "col", "colgroup", "tbody", "tfoot", "thead"]

/-- The groups of rows. -/
def rowGroups : List String := ["tbody", "tfoot", "thead"]

namespace Builder

/-- Take content in by the rules of the body; it goes in front of the table. -/
def asMisplaced (b : Builder) : Outcome := .asIn .inBody { b with fostering := true }

/-- Put the characters in their places that came between the tags of a table. They are
misplaced together if any of them is visible. -/
def releaseTableText (b : Builder) : Builder :=
  let pending := b.tableText.reverse
  let put (b : Builder) (run : CharKind × Text) : Builder :=
    if pending.all (·.1 == .blank) then b.putText run.2
    else
      let b := { b with fostering := true }.reconstruct
      { (if run.1 == .visible then b.noFrameset else b).putText run.2 with fostering := false }
  pending.foldl put { b with tableText := [] }

/-- Close a cell. -/
def closeCell (b : Builder) : Builder :=
  ((b.closeImplied impliedEnds).popThrough ["td", "th"]).clearToMarker.enter .inRow

/-- Close a caption. -/
def closeCaption (b : Builder) : Builder :=
  ((b.closeImplied impliedEnds).popThrough ["caption"]).clearToMarker.enter .inTable

/-- Close a row. -/
def closeRow (b : Builder) : Builder := (b.popTo rowContext).pop.enter .inTableBody

/-- Close a group of rows. -/
def closeRowGroup (b : Builder) : Builder := (b.popTo tableBodyContext).pop.enter .inTable

/-- Close a table. -/
def closeTable (b : Builder) : Builder := (b.popThrough ["table"]).resetMode

/-- Is an element of a table in scope? -/
def inTableScope (b : Builder) (tags : List String) : Bool := b.inScope .table tags

end Builder

/-- Take in a start tag between the tags of a table. -/
def startInTable (b : Builder) (tag : StartTag) : Outcome :=
  let cut := b.popTo Builder.tableContext
  match tag.name with
  | "caption" => .done ((cut.mark.insert tag).enter .inCaption)
  | "colgroup" => .done ((cut.insert tag).enter .inColumnGroup)
  | "col" => .again ((cut.insertBare "colgroup").enter .inColumnGroup)
  | "tbody" | "tfoot" | "thead" => .done ((cut.insert tag).enter .inTableBody)
  | "td" | "th" | "tr" => .again ((cut.insertBare "tbody").enter .inTableBody)
  | "table" => if b.inTableScope ["table"] then .again b.closeTable else .done b
  | "style" | "script" | "template" => .asIn .inHead b
  | "input" => if isHiddenInput tag then .done (b.insertEmpty tag) else b.asMisplaced
  | "form" =>
    if b.inTemplate || b.form.isSome then .done b
    else
      let (id, b) := b.putElement { tag := "form" } (Builder.htmlAttributes tag.attributes)
      .done { b with form := some id }
  | _ => b.asMisplaced

/-- In a table, between its parts. -/
def inTable (b : Builder) : Token → Outcome
  | .characters .. =>
    if b.currentIs ["table", "tbody", "template", "tfoot", "thead", "tr"] then
      .again { b with returnMode := b.mode, mode := .inTableText }
    else b.asMisplaced
  | .comment t => .done (b.putComment t)
  | .doctype _ => .done b
  | .startTag tag => startInTable b tag
  | .endTag name =>
    if name == "table" then .done (if b.inTableScope ["table"] then b.closeTable else b)
    else if name == "template" then .asIn .inHead b
    else if (tableParts ++ ["body", "html", "td", "th", "tr"]).contains name then .done b
    else b.asMisplaced
  | .endOfFile => .asIn .inBody b

/-- In a run of characters between the tags of a table. -/
def inTableText (b : Builder) : Token → Outcome
  | .characters .nul _ | .doctype _ => .done b
  | .characters kind t => .done { b with tableText := (kind, t) :: b.tableText }
  | _ => .again (b.releaseTableText.enter b.returnMode)

/-- In a caption. -/
def inCaption (b : Builder) : Token → Outcome
  | .startTag tag =>
    if !(tableParts ++ ["td", "th", "tr"]).contains tag.name then .asIn .inBody b
    else if b.inTableScope ["caption"] then .again b.closeCaption
    else .done b
  | .endTag name =>
    if name == "caption" then
      .done (if b.inTableScope ["caption"] then b.closeCaption else b)
    else if name == "table" then
      if b.inTableScope ["caption"] then .again b.closeCaption else .done b
    else if (tableParts ++ ["body", "html", "td", "th", "tr"]).contains name then .done b
    else .asIn .inBody b
  | _ => .asIn .inBody b

/-- In a group of columns. -/
def inColumnGroup (b : Builder) (token : Token) : Outcome :=
  let close : Outcome :=
    if b.currentIs ["colgroup"] then .again (b.pop.enter .inTable) else .done b
  match token with
  | .characters .blank t => .done (b.putText t)
  | .comment t => .done (b.putComment t)
  | .doctype _ => .done b
  | .startTag tag =>
    match tag.name with
    | "html" => .asIn .inBody b
    | "col" => .done (b.insertEmpty tag)
    | "template" => .asIn .inHead b
    | _ => close
  | .endTag name =>
    match name with
    | "colgroup" => .done (if b.currentIs ["colgroup"] then b.pop.enter .inTable else b)
    | "col" => .done b
    | "template" => .asIn .inHead b
    | _ => close
  | .endOfFile => .asIn .inBody b
  | .characters .. => close

/-- In a group of rows. -/
def inTableBody (b : Builder) (token : Token) : Outcome :=
  let close : Outcome := if b.inTableScope rowGroups then .again b.closeRowGroup else .done b
  match token with
  | .startTag tag =>
    let cut := b.popTo Builder.tableBodyContext
    if tag.name == "tr" then .done ((cut.insert tag).enter .inRow)
    else if tag.name == "td" || tag.name == "th" then
      .again ((cut.insertBare "tr").enter .inRow)
    else if tableParts.contains tag.name then close
    else .asIn .inTable b
  | .endTag name =>
    if rowGroups.contains name then
      .done (if b.inTableScope [name] then b.closeRowGroup else b)
    else if name == "table" then close
    else if (tableParts ++ ["body", "html", "td", "th", "tr"]).contains name then .done b
    else .asIn .inTable b
  | _ => .asIn .inTable b

/-- In a row. -/
def inRow (b : Builder) (token : Token) : Outcome :=
  let close : Outcome := if b.inTableScope ["tr"] then .again b.closeRow else .done b
  match token with
  | .startTag tag =>
    if tag.name == "td" || tag.name == "th" then
      .done (((b.popTo Builder.rowContext).insert tag).enter .inCell).mark
    else if (tableParts ++ ["tr"]).contains tag.name then close
    else .asIn .inTable b
  | .endTag name =>
    if name == "tr" then .done (if b.inTableScope ["tr"] then b.closeRow else b)
    else if name == "table" then close
    else if rowGroups.contains name then if b.inTableScope [name] then close else .done b
    else if (tableParts ++ ["body", "html", "td", "th"]).contains name then .done b
    else .asIn .inTable b
  | _ => .asIn .inTable b

/-- In a cell. -/
def inCell (b : Builder) : Token → Outcome
  | .startTag tag =>
    if !(tableParts ++ ["td", "th", "tr"]).contains tag.name then .asIn .inBody b
    else if b.inTableScope ["td", "th"] then .again b.closeCell
    else .done b
  | .endTag name =>
    if name == "td" || name == "th" then
      .done <|
        if b.inTableScope [name] then
          ((b.closeImplied impliedEnds).popThrough [name]).clearToMarker.enter .inRow
        else b
    else if rowGroups.contains name || name == "table" || name == "tr" then
      if b.inTableScope [name] then .again b.closeCell else .done b
    else if (tableParts ++ ["body", "html"]).contains name then .done b
    else .asIn .inBody b
  | _ => .asIn .inBody b

end HtmlMarkdown.Html
