import HtmlMarkdown.Rule.Element
import HtmlMarkdown.Rule.Set
import HtmlMarkdown.Table
import HtmlMarkdown.Text.Number

/-!
# General rules

The rules for the elements of any document, in their order of declaration.
-/

namespace HtmlMarkdown.Rule.General

/-- A rule that looks at the content only. -/
def ofContent (tags : List String) (f : Text → Text) : Rule :=
  .forTags tags fun _ content _ => .ok (f content)

/-- The level that the tag of a heading names. -/
def headingLevel (tag : String) : Nat :=
  (Text.readNat? UInt64.size (tag.toList.drop 1)).getD 1

/-- Headings. -/
def heading : Rule :=
  .forTags ["h1", "h2", "h3", "h4", "h5", "h6"] fun n content _ =>
    .ok (Markdown.heading (headingLevel n.tag) content)

/-- Paragraphs stand between blank lines. -/
def paragraph : Rule := .forTag "p" fun _ content _ => .ok (Markdown.separated content)

/-- Line breaks. -/
def lineBreak : Rule := .forTag "br" fun _ _ _ => .ok "\n"

/-- Horizontal rules. -/
def horizontalRule : Rule := .forTag "hr" fun _ _ _ => .ok "\n---\n\n"

/-- Strong emphasis. -/
def strong : Rule :=
  .forTags ["strong", "b"] fun _ content options =>
    .ok (Markdown.wrap options.strongDelimiter options.strongDelimiter content)

/-- Emphasis. -/
def emphasis : Rule :=
  .forTags ["em", "i"] fun _ content options =>
    .ok (Markdown.wrap options.emDelimiter options.emDelimiter content)

/-- Inline code; inside preformatted text it is left to the block around it. -/
def code : Rule :=
  .forTag "code" fun n content _ =>
    .ok (if n.hasAncestor "pre" then content else Markdown.codeSpan n.text)

/-- Preformatted text is a code block. -/
def codeBlock : Rule := .forTag "pre" fun n _ options => .ok (Rule.codeBlock n options)

/-- Links. -/
def link : Rule := .forTag "a" fun n content options => .ok (Rule.link n content options)

/-- Images. -/
def image : Rule := .forTag "img" fun n _ _ => .ok (Rule.image n)

/-- Lists stand between blank lines. -/
def list : Rule := ofContent ["ul", "ol"] Markdown.separated

/-- The largest number of a list item. -/
def maxNumber : Nat := UInt64.size - 1

/-- The marker of a list item: in an ordered list its number, counted from the list's start, and
the bullet elsewhere. -/
def itemMarker (n : Node) (options : Options) : Text :=
  match n.parent?.filter (·.tag == "ol") with
  | some parent =>
    let start := ((parent.attr? "start").bind fun s => Text.readNat? UInt64.size (Text.trim s)).getD 1
    Text.ofNat (min (start + (n.elementIndex - 1)) maxNumber) ++ ['.']
  | none => [options.bulletListMarker]

/-- List items. -/
def listItem : Rule :=
  .forTag "li" fun n content options =>
    .ok (itemMarker n options ++ " " ++ Markdown.itemBody content ++ "\n")

/-- Block quotes. -/
def blockquote : Rule := .forTag "blockquote" fun n content _ => .ok (blockQuote n content)

/-- Tables: data tables are pipe tables, layout tables leave their content. -/
def table : Rule :=
  .forTag "table" fun n content options =>
    .ok <|
      if options.tableHandling = .remove then []
      else if Table.isLayout n then Markdown.separated content
      else Table.render options n

/-- The rows of a layout table. -/
def tableRow : Rule := .forTag "tr" fun _ content _ => .ok (Markdown.block content)

/-- The cells of a layout table. -/
def tableCell : Rule := ofContent ["td", "th"] (Markdown.wrap [] [' '])

/-- The tags of blocks without a form of their own. -/
def containerTags : List String := [
  "div", "section", "article", "header", "footer", "main", "aside", "nav", "figure",
  "figcaption", "address"]

/-- Blocks without a form of their own. -/
def container : Rule := ofContent containerTags Markdown.block

/-- Struck text. -/
def strikethrough : Rule := ofContent ["del", "s", "strike"] (Markdown.wrap "~~" "~~")

/-- The tags that stay as they are around their content. -/
def keptTags : List String := ["u", "small", "sub", "sup", "ins", "mark"]

/-- A tag that stays as it is around its content. -/
def keptTag (tag : String) : Rule :=
  .forTag tag fun _ content _ =>
    .ok (Markdown.wrap ("<" ++ tag.toList ++ ">") ("</" ++ tag.toList ++ ">") content)

/-- The rules with the keys that they stand under. -/
def entries : List (String × Rule) :=
  [("heading", heading), ("paragraph", paragraph), ("lineBreak", lineBreak),
    ("horizontalRule", horizontalRule), ("strong", strong), ("emphasis", emphasis),
    ("code", code), ("codeBlock", codeBlock), ("link", link), ("image", image), ("list", list),
    ("listItem", listItem), ("blockquote", blockquote), ("table", table),
    ("tableRow", tableRow), ("tableCell", tableCell), ("container", container),
    ("strikethrough", strikethrough)] ++
  keptTags.map fun tag => (tag, keptTag tag)

/-- **The general rules.** -/
def rules : RuleSet := entries.foldl (fun s e => s.insert e.1 e.2) .empty

end HtmlMarkdown.Rule.General
