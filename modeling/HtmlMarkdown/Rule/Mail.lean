import HtmlMarkdown.Rule.Element
import HtmlMarkdown.Rule.InlineStyle
import HtmlMarkdown.Rule.Set
import HtmlMarkdown.Table

/-!
# Rules for mail

The rules that hold in documents that look like mail: they know signatures, quoted replies, the
wrappers that Outlook puts around content, and inline styles.
-/

namespace HtmlMarkdown.Rule.Mail

/-- Does a text hold one of some others? -/
def holdsAny (parts : List Text) (t : Text) : Bool := parts.any fun p => Text.contains p t

/-- The classes of an element in lower case. -/
def classes (n : Node) : Text := Text.lower (n.attrD "class")

/-- Does the style of an element, in lower case, hold a text? -/
def styleHolds (part : Text) (n : Node) : Bool :=
  (n.attr? "style").any fun style => Text.contains part (Text.lower style)

/-- Is the element a signature: by its class or id, or by a closing phrase in its text? -/
def isSignature (n : Node) : Bool :=
  holdsAny ["signature", "sig", "footer"] (Attributes.markers (n.attr? "class") (n.attr? "id")) ||
    holdsAny ["sent from", "regards", "sincerely"] (Text.lower n.text)

/-- Is the element a quoted reply: by its class, a border on the left, or its direction? -/
def isQuoted (n : Node) : Bool :=
  holdsAny ["quoted", "gmail_quote", "yahoo_quoted"] (classes n) ||
    styleHolds "border-left" n ||
    (n.attr? "dir").any fun dir => Text.sameAscii (Text.trim dir) "ltr"

/-- Is the element a wrapper of Outlook's? -/
def isOutlookWrapper (n : Node) : Bool :=
  holdsAny ["wordsection", "msonormal"] (classes n) || styleHolds "mso-" n

/-- Divisions. -/
def division : Rule :=
  .forTag "div" fun n content options =>
    .ok <|
      if isSignature n then
        if options.handleEmailSignatures then Markdown.wrap "\n\n---\n\n" "\n\n" content else []
      else if isQuoted n then
        if options.preserveEmailQuotes then Markdown.quoteAround content else []
      else if isOutlookWrapper n then content
      else Markdown.block content

/-- Tables. -/
def table : Rule :=
  .forTag "table" fun n content options =>
    .ok <|
      if Table.isLayout n then content
      else
        match options.tableHandling with
        | .remove => []
        | .convert | .preserve => Table.render options n

/-- Text with inline styles. -/
def inlineStyle : Rule :=
  .forTags ["span", "font"] fun n content options =>
    .ok <|
      if options.convertInlineStyles then (InlineStyle.ofNode n).apply content options
      else content

/-- Links; the text of a telephone link is enough. -/
def link : Rule :=
  .forTag "a" fun n content options =>
    let isPhone :=
      (n.attr? "href").any fun href => Text.isPrefix "tel:" (Text.lower (Text.trim href))
    .ok (if isPhone then content else Rule.link n content options)

/-- Does a mail client mark the block quote as a quoted reply? -/
def hasQuoteMarker (n : Node) : Bool :=
  ((n.attr? "type").any fun t => Text.sameAscii t "cite") ||
    holdsAny ["gmail_quote", "yahoo_quoted"] (classes n)

/-- Block quotes. -/
def blockquote : Rule :=
  .forTag "blockquote" fun n content options =>
    .ok (if !options.preserveEmailQuotes && hasQuoteMarker n then [] else blockQuote n content)

/-- Preformatted text. -/
def codeBlock : Rule := .forTag "pre" fun n _ options => .ok (Rule.codeBlock n options)

/-- The rules with the keys that they stand under. -/
def entries : List (String × Rule) :=
  [("emailDiv", division), ("emailTable", table), ("inlineStyle", inlineStyle),
    ("emailLink", link), ("emailBlockquote", blockquote), ("emailPre", codeBlock)]

/-- **The rules for mail.** -/
def rules : RuleSet := entries.foldl (fun s e => s.insert e.1 e.2) .empty

end HtmlMarkdown.Rule.Mail
