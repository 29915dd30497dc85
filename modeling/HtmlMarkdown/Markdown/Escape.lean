import HtmlMarkdown.Text.Class

/-!
# Escaping

`escape` puts a backslash before what Markdown would read as markup in a run of plain text, and
`unescape` takes the backslashes off again.
-/

namespace HtmlMarkdown.Markdown

/-- Escape one of the emphasis markers throughout, unless the plain text holds it doubled: such
text looks formatted on purpose. -/
def escapeMarker (plain : Text) (marker : Char) (t : Text) : Text :=
  if Text.contains [marker, marker] plain then t else Text.replaceChar marker ['\\', marker] t

/-- The characters that open a block at the start of a line. -/
def isBlockMarker (c : Char) : Bool := ['#', '>', '+', '-', '*'].contains c

/-- A block marker at the start of a line. -/
def findBlockMarker : Text.Finder
  | before, c :: rest =>
    if Text.atLineStart before && isBlockMarker c then some (['\\', c], rest) else none
  | _, [] => none

/-- The number of an ordered list item at the start of a line, with its full stop. -/
def findListNumber : Text.Finder
  | before, t =>
    if Text.atLineStart before then
      match t.takeWhile Text.isDigit, t.dropWhile Text.isDigit with
      | d :: ds, '.' :: rest => some (d :: ds ++ ['\\', '.'], rest)
      | _, _ => none
    else none

/-- **Escape a run of plain text.** Backslashes are doubled first; the emphasis markers, block
markers and list numbers follow. -/
def escape (plain : Text) : Text :=
  let t := Text.replaceChar '\\' ['\\', '\\'] plain
  let t := escapeMarker plain '*' t
  let t := escapeMarker plain '_' t
  let t := escapeMarker plain '\x60' t
  Text.replaceAll findListNumber (Text.replaceAll findBlockMarker t)

/-- The punctuation that a backslash can escape. -/
def isPunctuation (c : Char) : Bool :=
  ("\\`*_\x7b\x7d[]()#+-.!|>~" : Text).contains c

/-- Take off the backslash before punctuation. -/
def unescape : Text → Text
  | [] => []
  | [c] => [c]
  | c :: d :: rest =>
    if c = '\\' && isPunctuation d then d :: unescape rest else c :: unescape (d :: rest)

end HtmlMarkdown.Markdown
