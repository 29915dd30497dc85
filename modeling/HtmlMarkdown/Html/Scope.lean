import HtmlMarkdown.Html.Forest

/-!
# Scopes

The sets of elements by which a parser decides how far an open element can be seen, and which
elements it may close on its own.
-/

namespace HtmlMarkdown.Html

namespace ElementName

/-- Is it an element of the HTML vocabulary with one of some tags? -/
def isHtml (name : ElementName) (tags : List String) : Bool :=
  name.vocabulary == .html && tags.contains name.tag

/-- Elements of MathML that hold text. -/
def isMathText (name : ElementName) : Bool :=
  name.vocabulary == .math && ["mi", "mo", "mn", "ms", "mtext"].contains name.tag

/-- Elements of SVG that hold HTML. -/
def isSvgHtml (name : ElementName) : Bool :=
  name.vocabulary == .svg && ["foreignobject", "desc", "title"].contains name.tag

/-- Elements that no end tag of another element closes unasked. -/
def isSpecial (name : ElementName) : Bool :=
  name.isHtml [
    "address", "applet", "area", "article", "aside", "base", "basefont", "bgsound",
    "blockquote", "body", "br", "button", "caption", "center", "col", "colgroup", "dd",
    "details", "dir", "div", "dl", "dt", "embed", "fieldset", "figcaption", "figure", "footer",
    "form", "frame", "frameset", "h1", "h2", "h3", "h4", "h5", "h6", "head", "header", "hgroup",
    "hr", "html", "iframe", "img", "input", "isindex", "keygen", "li", "link", "listing", "main",
    "marquee", "menu", "meta", "nav", "noembed", "noframes", "noscript", "object", "ol", "p",
    "param", "plaintext", "pre", "script", "section", "select", "source", "style", "summary",
    "table", "tbody", "td", "template", "textarea", "tfoot", "th", "thead", "title", "tr",
    "track", "ul", "wbr", "xmp"]

end ElementName

/-- How far an open element can be seen. -/
inductive Scope where
  | default
  | listItem
  | button
  | table
  /-- Only options and their groups let a selection be seen. -/
  | selection
  deriving DecidableEq, Repr

/-- The elements that hide what is outside of them. -/
def Scope.stops (scope : Scope) (name : ElementName) : Bool :=
  let stopsDefault :=
    name.isHtml ["applet", "caption", "html", "table", "td", "th", "marquee", "object",
      "template"] || name.isMathText || name.isSvgHtml
  match scope with
  | .default => stopsDefault
  | .listItem => stopsDefault || name.isHtml ["ol", "ul"]
  | .button => stopsDefault || name.isHtml ["button"]
  | .table => name.isHtml ["html", "table", "template"]
  | .selection => !name.isHtml ["optgroup", "option"]

/-- Elements that end where an element around them ends. -/
def impliedEnds : List String :=
  ["dd", "dt", "li", "option", "optgroup", "p", "rb", "rp", "rt", "rtc"]

/-- Elements that end where a template ends. -/
def thoroughEnds : List String :=
  impliedEnds ++ ["caption", "colgroup", "tbody", "td", "tfoot", "th", "thead", "tr"]

/-- The headings. -/
def headings : List String := ["h1", "h2", "h3", "h4", "h5", "h6"]

end HtmlMarkdown.Html
