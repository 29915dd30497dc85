import HtmlMarkdown.Document.Node
import HtmlMarkdown.Options
import HtmlMarkdown.Text.Number

/-!
# Inline styles

The formatting that a `style` attribute or the color of a `font` element asks for, and its
Markdown.
-/

namespace HtmlMarkdown

/-- What is asked for. -/
structure InlineStyle where
  bold : Bool := false
  italic : Bool := false
  underline : Bool := false
  highlight : Bool := false
  deriving DecidableEq, Repr

namespace InlineStyle

/-- A weight that counts as bold. -/
def isBoldWeight (weight : Text) : Bool :=
  weight == "bold" || weight == "bolder" ||
    ((Text.readNat? UInt32.size weight).any fun n => 600 ≤ n)

/-- The shades of red that mark text as important. -/
def importantColors : List Text := [
  "red", "#ff0000", "#f00", "#cc0000", "#c00", "#e00", "#ee0000", "crimson", "#dc143c",
  "darkred", "#8b0000", "firebrick", "#b22222", "rgb(255,0,0)", "rgb(204,0,0)"]

/-- A reversed text less every `ending` at its start. -/
def dropEndings (ending : Text) : (fuel : Nat) → Text → Text
  | 0, t => t
  | fuel + 1, t =>
    match List.isPrefixOf? ending t with
    | some rest => dropEndings ending fuel rest
    | none => t

/-- Is the color one that marks text as important? -/
def isImportantColor (color : Text) : Bool :=
  let kept := (dropEndings ("!important".toList.reverse) color.length color.reverse).reverse
  importantColors.contains (Text.lower (kept.filter fun c => !Text.isBlank c))

/-- Take over a declaration. -/
def declare (s : InlineStyle) (property value : Text) : InlineStyle :=
  if property == "font-weight" then { s with bold := s.bold || isBoldWeight value }
  else if property == "font-style" then
    { s with italic := s.italic || value == "italic" || value == "oblique" }
  else if property == "text-decoration" || property == "text-decoration-line" then
    { s with underline := s.underline || Text.contains "underline" value }
  else if property == "color" then { s with highlight := s.highlight || isImportantColor value }
  else s

/-- A declaration's property and value, trimmed and in lower case. -/
def declaration? (t : Text) : Option (Text × Text) :=
  match t.dropWhile (· != ':') with
  | _ :: value =>
    some (Text.lower (Text.trim (t.takeWhile (· != ':'))), Text.lower (Text.trim value))
  | [] => none

/-- The style that an element asks for. -/
def ofNode (n : Node) : InlineStyle :=
  let declarations := (Text.splitOn (· == ';') (n.attrD "style")).filterMap declaration?
  let s := declarations.foldl (fun s d => s.declare d.1 d.2) {}
  if n.tag = "font" then
    match n.attr? "color" with
    | some color => { s with highlight := s.highlight || isImportantColor color }
    | none => s
  else s

/-- A text between markers if the style asks for it. -/
def mark (asked : Bool) (opening closing t : Text) : Text :=
  if asked then opening ++ t ++ closing else t

/-- **Content in a style.** The markers stand from the inside out for underline, italic, bold
and highlight; blank space around the content stays outside. -/
def apply (s : InlineStyle) (content : Text) (options : Options) : Text :=
  let inner := Text.trim content
  if inner.isEmpty || s == {} then content
  else
    let t := mark s.underline "<u>" "</u>" inner
    let t := mark s.italic options.emDelimiter options.emDelimiter t
    let t := mark s.bold options.strongDelimiter options.strongDelimiter t
    let t := mark s.highlight "<mark>" "</mark>" t
    content.takeWhile Text.isBlank ++ t ++ (content.reverse.takeWhile Text.isBlank).reverse

end InlineStyle

end HtmlMarkdown
