import HtmlMarkdown.Document.Node
import HtmlMarkdown.Markdown.Escape
import HtmlMarkdown.Options
import HtmlMarkdown.Text.Spacing

/-!
# Pieces of a conversion

What the two forms of the conversion share: the text of a text node, and how the renderings of
an element's children are put together.
-/

namespace HtmlMarkdown.Convert

/-- The deepest nesting of elements that is converted. -/
def maxLevels : Nat := 512

/-- Is this side of a text the edge of its block: is there no sibling, or a block? -/
def atEdge (sibling : Option Node) : Bool := sibling.all fun n => Tag.isBlock n.tag

/-- **A text node as Markdown**: white space collapsed, and trimmed at the edges of the block
around it; then escaped. -/
def text (n : Node) (t : Text) (options : Options) : Text :=
  if options.preserveWhitespace then t
  else
    let t := Text.collapse t
    let inBlock := n.parent?.any fun p => Tag.isBlock p.tag
    let t := if inBlock && atEdge n.prev? then Text.trimStart t else t
    let t := if inBlock && atEdge n.next? then Text.trimEnd t else t
    Markdown.escape t

/-- The rendered children of an element so far, and whether the last one was inline. -/
structure Joined where
  out : Text := []
  afterInline : Bool := false

/-- Is the child an inline element? -/
def isInline (child : Node) : Bool := child.isElement && Tag.isInline child.tag

/-- **Put a rendered child behind the others.** Blank renderings leave no trace; between two
inline elements there is blank space, a single space if need be. -/
def Joined.add (j : Joined) (options : Options) (inline : Bool) (rendered : Text) : Joined :=
  if rendered.isEmpty then j
  else
    let space := inline && j.afterInline && !options.preserveWhitespace &&
      !Text.endsBlank j.out && !Text.startsBlank rendered
    { out := j.out ++ (if space then [' '] else []) ++ rendered, afterInline := inline }

end HtmlMarkdown.Convert
