import HtmlMarkdown.Document.Node
import HtmlMarkdown.Markdown.Shape
import HtmlMarkdown.Options

/-!
# Elements as Markdown

The renderings of quotes, code, links and images that both tables of rules use.
-/

namespace HtmlMarkdown.Rule

/-- A block quote, as deep as the block quotes above it make it. -/
def blockQuote (n : Node) (content : Text) : Text :=
  Markdown.quote (1 + (n.ancestors.filter (·.tag == "blockquote")).length) content

/-- The language that the code in an element declares by a class. -/
def language (n : Node) : Text :=
  ((do
    let classes ← (← n.findDescendant? "code").attr? "class"
    (Text.words classes).findSome? (List.isPrefixOf? "language-".toList ·)) : Option Text).getD []

/-- A block of preformatted code. -/
def codeBlock (n : Node) (options : Options) : Text :=
  let code := Text.dropEndWhile (fun c => c == '\n' || c == '\r') n.text
  if Text.isBlankText code then []
  else
    match options.codeBlockStyle with
    | .fenced => Markdown.fencedCode options.fence (language n) code
    | .indented => Markdown.indentedCode code

/-- The title of an element, in quotes behind a space. -/
def title (n : Node) : Text := Markdown.titlePart (Attributes.clean (n.attr? "title"))

/-- The address of a mail link: what stands between the scheme and the query. -/
def mailAddress? (href : Text) : Option Text :=
  (List.isPrefixOf? "mailto:".toList href).map (·.takeWhile (· != '?'))

/-- **A link.** A mail link whose text is the address is written as the address in angle
brackets; links without a target, or in plain style, leave their content. -/
def link (n : Node) (content : Text) (options : Options) : Text :=
  let href := Attributes.clean (n.attr? "href")
  if href.isEmpty || options.linkStyle == .plain then content
  else
    match (mailAddress? href).filter (· == Text.trim n.text) with
    | some address => "<" ++ address ++ ">"
    | none => "[" ++ Text.trim content ++ "](" ++ Markdown.linkTarget href ++ title n ++ ")"

/-- **An image**; nothing if it has no source. -/
def image (n : Node) : Text :=
  let src := Attributes.clean (n.attr? "src")
  if src.isEmpty then []
  else "![" ++ Attributes.clean (n.attr? "alt") ++ "](" ++ src ++ title n ++ ")"

end HtmlMarkdown.Rule
