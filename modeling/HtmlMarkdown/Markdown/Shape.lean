import HtmlMarkdown.Markdown.Layout

/-!
# Shapes of Markdown

How rendered content becomes a block, a quote, a list item or a span. Content that is blank
leaves nothing behind.
-/

namespace HtmlMarkdown.Markdown

/-- Trimmed content between two delimiters. -/
def wrap (opening closing : Text) (content : Text) : Text :=
  let t := Text.trim content
  if t.isEmpty then [] else opening ++ t ++ closing

/-- Trimmed content on a line of its own. -/
def block (content : Text) : Text := wrap [] ['\n'] content

/-- Trimmed content with a blank line around it. -/
def separated (content : Text) : Text := wrap ['\n'] ['\n', '\n'] content

/-- Trimmed content with each line changed, as a separate block. -/
def mapLines (f : Text → Text) (content : Text) : Text :=
  let t := Text.trim content
  if t.isEmpty then [] else '\n' :: (Text.joinLines ((Text.lines t).map f) ++ ['\n', '\n'])

/-- A line of a quote at a depth. A line that starts as a quote comes from a deeper one and stays
as it is. -/
def quoteLine (depth : Nat) (line : Text) : Text :=
  let marker := List.replicate depth '>'
  if Text.isBlankText line then marker
  else if Text.isPrefix ">" line then line
  else marker ++ ' ' :: line

/-- **A block quote** at a depth of nesting. -/
def quote (depth : Nat) (content : Text) : Text := mapLines (quoteLine depth) content

/-- **A quote around content** whose own quotes move one level deeper. -/
def quoteAround (content : Text) : Text :=
  mapLines (fun line => if Text.isBlankText line then ['>'] else "> " ++ line) content

/-- **A code span.** Code with a backtick is put between doubled ones, with a space where it
starts or ends with one. -/
def codeSpan (code : Text) : Text :=
  if code.isEmpty then []
  else
    let ticks : Text := if code.any (· == '\x60') then "``" else "`"
    let space : Text := if code.head? = some '\x60' || code.getLast? = some '\x60' then " " else ""
    ticks ++ space ++ code ++ space ++ ticks

/-- Code between fences, with the language behind the opening one. -/
def fencedCode (fence language code : Text) : Text :=
  "\n" ++ fence ++ language ++ "\n" ++ code ++ "\n" ++ fence ++ "\n\n"

/-- Code as lines indented by four spaces. -/
def indentedCode (code : Text) : Text :=
  "\n" ++ Text.joinLines ((Text.lines code).map ("    ".toList ++ ·)) ++ "\n\n"

/-- The content of a list item: the lines after the first are indented below its marker. -/
def itemBody (content : Text) : Text :=
  Text.replaceChar '\n' "\n    " (collapseBlankLines (Text.trim content))

/-- A heading on one line. -/
def heading (level : Nat) (content : Text) : Text :=
  let t := Text.replaceChar '\n' " " (Text.trim content)
  if t.isEmpty then [] else "\n" ++ List.replicate level '#' ++ " " ++ t ++ "\n\n"

/-- The target of a link, in angle brackets if it has blank space in it. -/
def linkTarget (href : Text) : Text := if href.any Text.isBlank then "<" ++ href ++ ">" else href

/-- The title of a link or an image, in quotes behind a space. -/
def titlePart (title : Text) : Text :=
  if title.isEmpty then [] else " \"" ++ Text.replaceChar '"' "\\\"" title ++ "\""

end HtmlMarkdown.Markdown
