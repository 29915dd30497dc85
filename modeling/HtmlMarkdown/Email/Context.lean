import HtmlMarkdown.Selector
import HtmlMarkdown.Text.Class

/-!
# Mail context

Whether a document looks like a mail, and what can be seen of it: header lines, a signature,
quoted text, and the client that wrote it. All of this goes by fixed lists of attribute markers
and of phrases in the text.
-/

namespace HtmlMarkdown.Email

/-- A mail client. -/
inductive Client where
  | gmail
  | outlook
  | yahoo
  | apple
  | thunderbird
  | other
  deriving DecidableEq, Repr

/-- What a document shows of being a mail. -/
structure Context where
  isEmail : Bool := false
  hasHeaders : Bool := false
  hasSignature : Bool := false
  hasQuotes : Bool := false
  client : Client := .other
  deriving DecidableEq, Repr

/-! ## Markers -/

/-- The block quotes that mail clients mark as citations. -/
def citation : Selector := ⟨some "blockquote", some (.equals "type" "cite")⟩

/-- An element whose class includes a text. -/
def classed (marker : Text) : Selector := .including "class" marker

/-- An element whose id includes a text. -/
def identified (marker : Text) : Selector := .including "id" marker

/-- Elements that only mails have. -/
def mailSelectors : List Selector := [
  classed "gmail", classed "outlook", classed "Mso", .including "style" "mso-",
  classed "yahoo", classed "signature", identified "signature", identified "Signature",
  classed "quoted", classed "email", citation]

/-- Phrases that mails use, in lower case. -/
def mailPhrases : List Text := [
  "from:", "subject:", "sent from", "best regards", "kind regards", "sincerely",
  "original message", "forwarded message"]

/-- Elements that hold header fields. -/
def headerSelectors : List Selector := [
  classed "email-header", classed "sender", classed "subject", identified "sender",
  identified "subject", identified "divRplyFwdMsg"]

/-- Elements that hold a signature. -/
def signatureSelectors : List Selector := [
  classed "signature", identified "signature", identified "Signature", classed "moz-signature"]

/-- Elements that hold quoted text. -/
def quoteSelectors : List Selector := [
  citation, classed "gmail_quote", classed "yahoo_quoted", classed "quoted",
  classed "moz-cite-prefix"]

/-- The elements that give a client away; earlier clients take precedence. -/
def clientSelectors : List (Client × List Selector) := [
  (.gmail, [classed "gmail"]),
  (.outlook, [classed "Mso", classed "WordSection", classed "outlook",
    identified "divRplyFwdMsg"]),
  (.yahoo, [classed "yahoo", classed "ydp"]),
  (.apple, [classed "Apple-", classed "apple-mail", identified "AppleMailSignature"]),
  (.thunderbird, [classed "moz-"])]

/-- The names by which a `generator` gives a client away, in lower case. -/
def generatorNames : List (Client × List Text) := [
  (.gmail, ["gmail"]), (.outlook, ["microsoft", "outlook"]), (.yahoo, ["yahoo"]),
  (.apple, ["apple"]), (.thunderbird, ["thunderbird", "mozilla"])]

/-! ## Lines of text -/

/-- The labels that start a header line. -/
def headerLabels : List Text := ["from", "to", "cc", "subject", "date", "sent"]

/-- The text behind `label :`, for the first of the labels that is there. -/
def dropLabel? (labels : List Text) (t : Text) : Option (Text × Text) := do
  let (label, t) ← Text.dropAnyWord? labels t
  let t ← Text.dropChar? ':' (Text.trimStart t)
  return (label, t)

/-- Does a header line with something in it start here? -/
def isHeaderLine (before : Option Char) (t : Text) : Bool :=
  Text.atLineStart before &&
    match dropLabel? headerLabels (Text.trimStart t) with
    | some (_, rest) => !Text.isBlankText rest
    | none => false

/-- Is the rest of the line blank? -/
def restOfLineBlank (t : Text) : Bool := Text.isBlankText (t.takeWhile (· != '\n'))

/-- Does a closing formula, a client's own signature line, or a line of two hyphens start
here? -/
def isSignatureLine (before : Option Char) (t : Text) : Bool :=
  ["best regards,", "kind regards,", "sincerely,"].any
      (fun phrase => (Text.dropWord? (phrase : String).toList t).isSome) ||
    (Text.atLineStart before &&
      let t := Text.trimStart t
      (match Text.dropWord? "sent from my " t with
        | some (c :: _) => !Text.isBlank c
        | _ => false) ||
      (match Text.dropWord? "--" t with
        | some rest => restOfLineBlank rest
        | none => false))

/-- Does a quoted line start here, or a line end that introduces a quote? -/
def isQuoteLine (before : Option Char) (t : Text) : Bool :=
  (Text.atLineStart before && Text.isPrefix ">" (Text.trimStart t)) ||
    (match Text.dropWord? "wrote:" t with
      | some rest => restOfLineBlank rest
      | none => false)

/-! ## Detection -/

/-- Does the document have an element that one of the selectors asks for? -/
def hasAny (d : Document) (selectors : List Selector) : Bool :=
  let elements := d.elements
  selectors.any fun s => elements.any s.accepts

/-- The content of the first `meta` element for the generator, in lower case. -/
def generator? (d : Document) : Option Text := do
  let n ← (d.elementsByTag "meta").find? fun n =>
    (n.attr? "name").any fun name => Text.sameAscii name "generator"
  return Text.lower (← n.attr? "content")

/-- The client that wrote the document. -/
def detectClient (d : Document) : Client :=
  match clientSelectors.find? fun c => hasAny d c.2 with
  | some (client, _) => client
  | none =>
    match generator? d with
    | none => .other
    | some g =>
      match generatorNames.find? fun c => c.2.any fun name => Text.contains name g with
      | some (client, _) => client
      | none => .other

/-- **What the document shows of being a mail.** -/
def detect (d : Document) : Context :=
  let text := d.body.innerText
  let lowered := Text.lower text
  { isEmail := hasAny d mailSelectors || mailPhrases.any fun p => Text.contains p lowered
    hasHeaders := hasAny d headerSelectors || Text.found isHeaderLine text
    hasSignature := hasAny d signatureSelectors || Text.found isSignatureLine text
    hasQuotes := hasAny d quoteSelectors || Text.found isQuoteLine text
    client := detectClient d }

end HtmlMarkdown.Email
