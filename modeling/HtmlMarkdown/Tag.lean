import HtmlMarkdown.Text.Case

/-!
# Tags

The kinds of tags that conversion tells apart. Names are compared in lower case.
-/

namespace HtmlMarkdown.Tag

/-- Elements that start a block. -/
def block : List String := [
  "address", "article", "aside", "audio", "blockquote", "body", "canvas", "center", "dd", "dir",
  "div", "dl", "dt", "fieldset", "figcaption", "figure", "footer", "form", "frameset", "h1",
  "h2", "h3", "h4", "h5", "h6", "header", "hgroup", "hr", "html", "isindex", "li", "main",
  "menu", "nav", "noframes", "noscript", "ol", "output", "p", "pre", "section", "table",
  "tbody", "td", "tfoot", "th", "thead", "tr", "ul"]

/-- Elements that flow within text. -/
def inline : List String := [
  "a", "abbr", "b", "bdi", "bdo", "cite", "code", "del", "dfn", "em", "font", "i", "img", "ins",
  "kbd", "mark", "q", "s", "samp", "small", "span", "strike", "strong", "sub", "sup", "time",
  "u", "var"]

/-- Elements that never produce Markdown, nor does anything in them. -/
def ignored : List String := [
  "script", "style", "noscript", "template", "head", "title", "meta", "link", "svg", "object",
  "embed"]

/-- Does the element start a block? -/
def isBlock (tag : String) : Bool := block.contains (Text.lowerName tag)

/-- Does the element flow within text? -/
def isInline (tag : String) : Bool := inline.contains (Text.lowerName tag)

/-- Is the element left out of a conversion? -/
def isIgnored (tag : String) : Bool := ignored.contains (Text.lowerName tag)

end HtmlMarkdown.Tag
