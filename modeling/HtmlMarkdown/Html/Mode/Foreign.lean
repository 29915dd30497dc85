import HtmlMarkdown.Html.Mode.Head

/-!
# Rules for formulas and drawings

Elements of MathML and SVG have vocabularies of their own, and their own rules: all of their
tags are taken as they come, until a tag of HTML leads back out.
-/

namespace HtmlMarkdown.Html

/-- Attributes with a namespace of their own. -/
def spacedAttributes : List String := [
  "xlink:actuate", "xlink:arcrole", "xlink:href", "xlink:role", "xlink:show", "xlink:title",
  "xlink:type", "xml:lang", "xml:space", "xmlns:xlink"]

/-- An attribute of an element of MathML or SVG. -/
def foreignAttribute (a : String × Text) : ElementAttribute :=
  if spacedAttributes.contains a.1 then
    let name := a.1.toList
    { space := String.ofList (name.takeWhile (· != ':'))
      name := String.ofList ((name.dropWhile (· != ':')).drop 1)
      value := a.2 }
  else { name := a.1, value := a.2 }

/-- HTML elements that end a formula or a drawing. -/
def breaksOut (tag : StartTag) : Bool :=
  (tag.name == "font" &&
    tag.attributes.any fun a => ["color", "face", "size"].contains a.1) ||
    ["b", "big", "blockquote", "body", "br", "center", "code", "dd", "div", "dl", "dt", "em",
      "embed", "h1", "h2", "h3", "h4", "h5", "h6", "head", "hr", "i", "img", "li", "listing",
      "menu", "meta", "nobr", "ol", "p", "pre", "ruby", "s", "small", "span", "strong",
      "strike", "sub", "sup", "table", "tt", "u", "ul", "var"].contains tag.name

namespace Builder

/-- Open an element of another vocabulary, or put it in its place if its tag closes itself. -/
def insertForeign (b : Builder) (vocabulary : Vocabulary) (tag : StartTag) : Builder :=
  let (id, b) := b.putElement ⟨vocabulary, tag.name⟩ (tag.attributes.map foreignAttribute)
  if tag.selfClosing then b else { b with stack := id :: b.stack }

/-- Close elements until HTML can go on. -/
def leaveForeign (b : Builder) : Builder :=
  let isHome (id : Nat) : Bool :=
    let name := b.nameOf id
    name.vocabulary == .html || name.isMathText || name.isSvgHtml
  { b with stack := b.stack.dropWhile fun id => !isHome id }

/-- Is a token taken in by the rules for formulas and drawings? -/
def isForeign (b : Builder) (token : Token) : Bool :=
  let name := b.nameOf b.current
  if b.stack.isEmpty || name.vocabulary == .html then false
  else
    match token with
    | .endOfFile => false
    | .characters .. => !(name.isMathText || name.isSvgHtml)
    | .startTag tag =>
      let isGlyph := ["mglyph", "malignmark"].contains tag.name
      !(name.isSvgHtml || (name.isMathText && !isGlyph) ||
        (name == ⟨.math, "annotation-xml"⟩ && tag.name == "svg"))
    | _ => true

/-- The end tag of an element of another vocabulary: it closes the innermost element of its
name, unless an HTML element is in the way. -/
def endForeign (b : Builder) (name : String) : (isCurrent : Bool) → List Nat → Outcome
  | _, [] | _, [_] => .done b
  | isCurrent, id :: rest =>
    let element := b.nameOf id
    if element.vocabulary == .html && !isCurrent then .asIn b.mode b
    else if element.tag == name then .done { b with stack := rest }
    else b.endForeign name false rest

end Builder

/-- In a formula or a drawing. -/
def inForeign (b : Builder) : Token → Outcome
  | .characters .nul t => .done (b.putText (t.map fun _ => '\uFFFD'))
  | .characters .blank t => .done (b.putText t)
  | .characters .visible t => .done (b.noFrameset.putText t)
  | .comment t => .done (b.putComment t)
  | .startTag tag =>
    if breaksOut tag then
      let b := b.leaveForeign
      .asIn b.mode b
    else .done (b.insertForeign (b.nameOf b.current).vocabulary tag)
  | .endTag name =>
    if name == "br" || name == "p" then
      let b := b.leaveForeign
      .asIn b.mode b
    else b.endForeign name true b.stack
  | .doctype _ | .endOfFile => .done b

end HtmlMarkdown.Html
