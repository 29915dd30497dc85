import HtmlMarkdown.Email.Headers
import HtmlMarkdown.Email.Image
import HtmlMarkdown.Options
import HtmlMarkdown.Text.Spacing

/-!
# Metadata

The title, the mail headers, the images and the links of a document.
-/

namespace HtmlMarkdown

/-- An image of a document. -/
structure ImageInfo where
  src : Text
  alt : Text
  title : Option Text
  isInline : Bool
  deriving DecidableEq, Repr

/-- A link of a document. -/
structure LinkInfo where
  href : Text
  text : Text
  title : Option Text
  isEmail : Bool
  deriving DecidableEq, Repr

/-- What is known about a document besides its Markdown. -/
structure Metadata where
  title : Option Text
  headers : Option Email.Headers
  images : List ImageInfo
  links : List LinkInfo
  deriving DecidableEq, Repr

namespace Metadata

/-- An image, unless it has no source. -/
def image? (n : Node) : Option ImageInfo :=
  (Attributes.clean? (n.attr? "src")).map fun src =>
    { src := src
      alt := Attributes.clean (n.attr? "alt")
      title := Attributes.clean? (n.attr? "title")
      isInline := Email.isInlineImage n }

/-- A link, unless it has no target. -/
def link? (n : Node) : Option LinkInfo :=
  (Attributes.clean? (n.attr? "href")).map fun href =>
    { href := href
      text := Text.trim (Text.collapse n.text)
      title := Attributes.clean? (n.attr? "title")
      isEmail := Text.isPrefix "mailto:" (Text.lower href) }

/-- **The metadata of a document.** Headers are looked for in mail only, and only if the options
ask for them. -/
def ofDocument (d : Document) (context : Email.Context) (options : Options) : Metadata where
  title := d.title?
  headers :=
    if options.preserveEmailHeaders && context.isEmail then
      let h := Email.headers d
      if h.isEmpty then none else some h
    else none
  images := (d.elementsByTag "img").filterMap image?
  links := (d.elementsByTag "a").filterMap link?

end Metadata

end HtmlMarkdown
