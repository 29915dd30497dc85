import HtmlMarkdown.Text.Basic

/-!
# Layout of Markdown text

`collapseBlankLines` leaves at most one blank line in a row, and `layout` sets headings apart:
one space behind the marker and a blank line on either side, outside fenced code.
-/

namespace HtmlMarkdown.Markdown

/-! ## Blank lines -/

/-- A space or a tab. -/
def isInlineSpace (c : Char) : Bool := c == ' ' || c == '\t'

/-- Pass over lines made of spaces and tabs: their number and the text behind them. The text
`line` is read as the current line and `start` is where it began. -/
def blankLines : (start line : Text) → Nat × Text
  | start, [] => (0, start)
  | start, c :: cs =>
    if c == '\n' then
      let (count, rest) := blankLines cs cs
      (count + 1, rest)
    else if isInlineSpace c then blankLines start cs
    else (0, start)

/-- A line break that two or more blank lines follow. -/
def findBlankLines : Text.Finder
  | _, '\n' :: t =>
    let (count, rest) := blankLines t t
    if 2 ≤ count then some (['\n', '\n'], rest) else none
  | _, _ => none

/-- **Two or more blank lines in a row become one empty line.** -/
def collapseBlankLines (t : Text) : Text := Text.replaceAll findBlankLines t

/-! ## Headings -/

/-- A line of the text with the role it plays. -/
structure Line where
  text : Text
  isHeading : Bool

/-- A heading line with one space behind its marker: one to six number signs and a title. -/
def heading? (line : Text) : Option Text :=
  let marker := line.takeWhile (· == '#')
  let title := Text.trimStart (line.dropWhile (· == '#'))
  if marker.isEmpty || 6 < marker.length || title.isEmpty then none
  else some (marker ++ ' ' :: title)

/-- Does the line open or close fenced code? -/
def isFence (line : Text) : Bool :=
  let t := Text.trimStart line
  Text.isPrefix "```" t || Text.isPrefix "~~~" t

/-- Classify the lines, given whether they start inside fenced code. Trailing blank space is
dropped from every line. -/
def classify : Bool → List Text → List Line
  | _, [] => []
  | fenced, line :: rest =>
    let line := Text.trimEnd line
    if isFence line then ⟨line, false⟩ :: classify (!fenced) rest
    else
      match if fenced then none else heading? line with
      | some h => ⟨h, true⟩ :: classify fenced rest
      | none => ⟨line, false⟩ :: classify fenced rest

/-- Put lines behind a line: with an empty line in between where one of two neighbours is a
heading and neither is empty. -/
def stack : Line → List Line → Text
  | above, [] => above.text
  | above, line :: rest =>
    let gap := (above.isHeading || line.isHeading) && !above.text.isEmpty && !line.text.isEmpty
    above.text ++ (if gap then ['\n', '\n'] else ['\n']) ++ stack line rest

/-- **Final layout of a Markdown text.** -/
def layout (t : Text) : Text :=
  match classify false (Text.splitOn (· == '\n') t) with
  | [] => []
  | first :: rest => stack first rest

end HtmlMarkdown.Markdown
