import HtmlMarkdown.Document.Node
import HtmlMarkdown.Options
import HtmlMarkdown.Text.Spacing

/-!
# Tables

Tables that hold data are written as pipe tables; tables that only place things on a page are
layout tables.

* `Table.rows`: the rows that belong to a table itself and not to one inside it.
* `Table.isLayout`: is the table used for layout?
* `Table.render`: the pipe table.
-/

namespace HtmlMarkdown.Table

/-- A cell with fewer characters than this can be the heading of a column. -/
def headingLimit : Nat := 50

/-- The rows of a table: those below it whose nearest table above is the table itself. -/
def rows (table : Node) : List Node :=
  table.descendants.filter fun n =>
    n.tag == "tr" && (n.ancestors.find? (·.tag == "table")).any (·.id == table.id)

/-- Is the attribute zero? -/
def isZero (n : Node) (name : String) : Bool := (n.attr? name).any fun v => Text.trim v == ['0']

/-- **Is the table used for layout?** By its role, by having neither padding nor spacing, or
because it does not look like data: it has no header cell, or a single row. -/
def isLayout (table : Node) : Bool :=
  ((table.attr? "role").any fun role => Text.sameAscii (Text.trim role) "presentation") ||
    (isZero table "cellpadding" && isZero table "cellspacing") ||
    (let rows := rows table
     !(rows.any fun row => row.elementChildren.any (·.tag == "th")) || rows.length < 2)

/-- The cells of a row. -/
def cells (row : Node) : List Node :=
  row.elementChildren.filter fun c => c.tag == "td" || c.tag == "th"

/-- The delimiter of the inline elements that keep their form in a cell. -/
def delimiter (options : Options) (tag : String) : Text :=
  if tag = "b" || tag = "strong" then options.strongDelimiter
  else if tag = "i" || tag = "em" then options.emDelimiter
  else if tag = "code" then ['\x60']
  else []

/-- What a child adds to the text of its cell. -/
def childText (options : Options) (child : Node) : Text :=
  match child.data with
  | .text t => t
  | .comment _ => []
  | .element tag _ =>
    let inner := Text.trim child.text
    if inner.isEmpty then child.text
    else delimiter options tag ++ inner ++ delimiter options tag

/-- A text as the content of a cell: on one line, with its pipes escaped. -/
def cellContent (t : Text) : Text :=
  let t := Text.replaceChar '|' ['\\', '|'] t
  let t := t.map fun c => if c == '\n' || c == '\r' then ' ' else c
  Text.trim (Text.collapse t)

/-- The content of a cell. -/
def cellText (options : Options) (cell : Node) : Text :=
  cellContent (cell.children.flatMap (childText options))

/-- A line of the table. -/
def line (contents : List Text) : Text :=
  "| " ++ (" | ".toList).intercalate contents ++ " |"

/-- Is the row the header of the table: by a header cell, or because all cells look like
headings? -/
def isHeader (cells : List Node) (contents : List Text) : Bool :=
  cells.any (·.tag == "th") ||
    contents.all fun t => t.length < headingLimit && t.head?.any Text.isUpper

/-- The lines of a row; the first row of the table can be followed by a separator. -/
def rowLines (options : Options) (isFirst : Bool) (row : Node) : List Text :=
  match cells row with
  | [] => []
  | cells =>
    let contents := cells.map (cellText options)
    line (contents.map fun t => if t.isEmpty then [' '] else t) ::
      if isFirst && isHeader cells contents then [line (cells.map fun _ => "---".toList)] else []

/-- **The pipe table**; empty if no row has a cell. -/
def render (options : Options) (table : Node) : Text :=
  let lines :=
    match rows table with
    | [] => []
    | first :: rest => rowLines options true first ++ rest.flatMap (rowLines options false)
  if lines.isEmpty then [] else '\n' :: (Text.joinLines lines ++ ['\n', '\n'])

/-- The elements whose text a rendering asks for. -/
def asked (table : Node) : List Nat :=
  (rows table).flatMap fun row => (cells row).flatMap fun cell => cell.elementChildren.map (·.id)

/-- Render a table and remember the texts that this asks for. -/
def askRender (options : Options) (table : Node) : Text × Document :=
  (render options table, table.doc.rememberAll (asked table))

end HtmlMarkdown.Table
