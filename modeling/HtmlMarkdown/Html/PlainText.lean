import HtmlMarkdown.Document.Basic
import HtmlMarkdown.Text.Spacing

/-!
# Markup as plain text

The way to read markup without parsing it: tags and comments become spaces, and what is left is
a single text.
-/

namespace HtmlMarkdown.Html

/-- What is left behind the end of a comment. -/
def dropComment? : Text → Option Text
  | [] => none
  | c :: cs => if Text.isPrefix "-->" (c :: cs) then some (cs.drop 2) else dropComment? cs

/-- A comment, or else anything from an opening to the next closing angle bracket. -/
def findTag : Text.Finder
  | _, '<' :: t =>
    let comment :=
      match t with
      | '!' :: '-' :: '-' :: t => dropComment? t
      | _ => none
    let tag :=
      match t.dropWhile (· != '>') with
      | _ :: rest => some rest
      | [] => none
    (comment.or tag).map fun rest => ([' '], rest)
  | _, _ => none

/-- The text of markup: tags removed, white space collapsed. -/
def stripTags (t : Text) : Text := Text.trim (Text.collapse (Text.replaceAll findTag t))

/-- **The degraded document of markup**: its text, and no elements to be found. -/
def plainDocument (t : Text) : Document := .ofPlainText (stripTags t)

end HtmlMarkdown.Html
