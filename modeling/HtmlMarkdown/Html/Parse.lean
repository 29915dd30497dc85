import HtmlMarkdown.Html.Lexer
import HtmlMarkdown.Html.Mode.Frame

/-!
# Parsing HTML

`parse` reads any source as a document. Tokens are taken in as soon as they are read, since the
element that a tag opens decides how the source is read on, and each is taken in by the rules of
the mode that the parser is in (`takeIn`).
-/

namespace HtmlMarkdown.Html

/-- The rules of a mode. -/
def rulesOf (mode : Mode) (b : Builder) (token : Token) : Outcome :=
  match mode with
  | .initial => initial b token
  | .beforeHtml => beforeHtml b token
  | .beforeHead => beforeHead b token
  | .inHead => inHead b token
  | .afterHead => afterHead b token
  | .inBody => inBody b token
  | .text => inText b token
  | .inTable => inTable b token
  | .inTableText => inTableText b token
  | .inCaption => inCaption b token
  | .inColumnGroup => inColumnGroup b token
  | .inTableBody => inTableBody b token
  | .inRow => inRow b token
  | .inCell => inCell b token
  | .inSelect => inSelect b token
  | .inSelectInTable => inSelectInTable b token
  | .inTemplate => inTemplate b token
  | .afterBody => afterBody b token
  | .inFrameset => inFrameset b token
  | .afterFrameset => afterFrameset b token
  | .afterAfterBody => afterAfterBody b token
  | .afterAfterFrameset => afterAfterFrameset b token

/-- Take a token in by the rules that are on now. -/
def takeInNow (b : Builder) (token : Token) : Outcome :=
  if b.isForeign token then inForeign b token else rulesOf b.mode b token

/-- Follow a token until some rules take it in, over at most `hops` changes of rules. -/
def settle (token : Token) : (hops : Nat) → Outcome → Builder
  | _, .done b | 0, .again b | 0, .asIn _ b => b
  | hops + 1, .again b => settle token hops (takeInNow { b with fostering := false } token)
  | hops + 1, .asIn mode b => settle token hops (rulesOf mode b token)

/-- A token without the line feed that is passed over at its start. -/
def Token.dropLineFeed : Token → Option Token
  | .characters kind ('\n' :: t) => if t.isEmpty then none else some (.characters kind t)
  | token => some token

/-- **Take a token in.** A token goes through a few modes at most, other than the end of the file,
which closes every template that is still open. -/
def takeIn (b : Builder) (token : Token) : Builder :=
  let b :=
    match token with
    | .startTag _ | .endTag _ => { b with reading := .data }
    | _ => b
  let token? := if b.skipLineFeed then token.dropLineFeed else some token
  let b := { b with skipLineFeed := false }
  match token? with
  | none => b
  | some token =>
    let b := settle token (3 * b.templateModes.length + 24) (takeInNow b token)
    { b with fostering := false }

/-- Take in what is read off the source. A line feed behind a fault of the source is kept. -/
def takeInAll (b : Builder) (read : Lexed) : Builder :=
  read.tokens.foldl takeIn (if read.faulty then { b with skipLineFeed := false } else b)

/-- Read a source to its end. Each step takes a character at least. -/
def readAll : (fuel : Nat) → Builder → Text → Builder
  | 0, b, _ => b
  | _, b, [] => takeIn b .endOfFile
  | fuel + 1, b, t =>
    let sections := !b.stack.isEmpty && (b.nameOf b.current).vocabulary != .html
    let read := next b.reading sections t
    readAll fuel (takeInAll b read) read.rest

/-- **The document that a source reads as.** Every source reads as one. -/
def parse (t : Text) : Document :=
  let t := source t
  (readAll (t.length + 1) {} t).forest.document

end HtmlMarkdown.Html
