import HtmlMarkdown.Email.Context

/-!
# Mail headers

The sender, the recipients, the subject and the date of a mail, as its document shows them:
first by elements whose class or id names a field, and where these give neither sender nor
subject, by labelled lines of the text. Recipients are reduced to bare addresses.
-/

namespace HtmlMarkdown.Email

/-- The header fields of a mail. -/
structure Headers where
  sender : Option Text := none
  recipients : List Text := []
  cc : List Text := []
  bcc : List Text := []
  subject : Option Text := none
  date : Option Text := none
  deriving DecidableEq, Repr

/-- A header field. -/
inductive Field where
  | sender
  | recipients
  | cc
  | bcc
  | subject
  | date
  deriving DecidableEq, Repr

/-! ## Addresses -/

/-- Drop a character at both ends as often as it is there. -/
def trimBoth (p : Char → Bool) (t : Text) : Text := Text.dropEndWhile p (t.dropWhile p)

/-- What stands between the first opening and the last closing angle bracket. -/
def bracketed? (t : Text) : Option Text :=
  match t.dropWhile (· != '<') with
  | _ :: inner =>
    match (Text.dropEndWhile (· != '>') inner) with
    | [] => none
    | inner => some inner.dropLast
  | [] => none

/-- The address of a recipient: what stands in angle brackets, or else the text less the
brackets around it. -/
def address (recipient : Text) : Text :=
  let t := Text.trim recipient
  match bracketed? t with
  | some inner => Text.trim inner
  | none => trimBoth (fun c => c == '<' || c == '>') t

/-- **The addresses of a list of recipients**, which commas or semicolons separate. -/
def addresses (t : Text) : List Text :=
  ((Text.splitOn (fun c => c == ',' || c == ';') t).map address).filter fun a => List.elem '@' a

namespace Headers

/-- Has the field a value? -/
def has (h : Headers) : Field → Bool
  | .sender => h.sender.isSome
  | .recipients => !h.recipients.isEmpty
  | .cc => !h.cc.isEmpty
  | .bcc => !h.bcc.isEmpty
  | .subject => h.subject.isSome
  | .date => h.date.isSome

/-- Is there no field at all? -/
def isEmpty (h : Headers) : Bool :=
  [Field.sender, .recipients, .cc, .bcc, .subject, .date].all fun f => !h.has f

/-- Give a field its value. -/
def put (h : Headers) (field : Field) (value : Text) : Headers :=
  match field with
  | .sender => { h with sender := some value }
  | .subject => { h with subject := some value }
  | .date => { h with date := some value }
  | .recipients => { h with recipients := addresses value }
  | .cc => { h with cc := addresses value }
  | .bcc => { h with bcc := addresses value }

end Headers

/-! ## Fields by markup -/

/-- The texts in an element's class or id that stand for a field. -/
def fieldMarkers : List (Field × List Text) := [
  (.sender, ["from", "sender"]), (.subject, ["subject"]), (.date, ["date", "sent"]),
  (.recipients, ["to", "recipient"]), (.cc, ["cc"]), (.bcc, ["bcc"])]

/-- The labels that may stand before a field's value. -/
def valueLabels : List Text := [
  "from", "to", "cc", "bcc", "subject", "date", "sent", "sender", "recipients", "recipient"]

/-- A value less the label before it. -/
def dropValueLabel (t : Text) : Text :=
  match dropLabel? valueLabels (Text.trimStart t) with
  | some (_, rest) => Text.trimStart rest
  | none => t

/-- The value that an element gives: its text on one line, less the label. -/
def labelledValue (n : Node) : Text :=
  Text.trim (dropValueLabel (Text.trim (Text.replaceChar '\n' [' '] n.innerText)))

/-- Does the class or the id of the element hold one of the texts? -/
def isMarked (keys : List Text) (n : Node) : Bool :=
  let markers := Attributes.markers (n.attr? "class") (n.attr? "id")
  keys.any fun key => Text.contains key markers

/-- The first value that is not empty among the elements marked by one of the texts. -/
def markedValue? (elements : List Node) (keys : List Text) : Option Text :=
  ((elements.filter (isMarked keys)).map labelledValue).find? fun v => !v.isEmpty

/-- The headers that the markup gives. -/
def markedHeaders (d : Document) : Headers :=
  let elements := d.elements
  fieldMarkers.foldl
    (fun h f =>
      match markedValue? elements f.2 with
      | some value => h.put f.1 value
      | none => h)
    {}

/-! ## Fields by lines of text -/

/-- The labels of lines. -/
def lineLabels : List Text := ["from", "to", "cc", "bcc", "subject", "date", "sent"]

/-- The field that a label stands for, as it is written: the date, unless its lower-case form is
the name of another field. -/
def fieldOfLabel (written : Text) : Field :=
  let label := Text.lower written
  if label == "from" then .sender
  else if label == "to" then .recipients
  else if label == "cc" then .cc
  else if label == "bcc" then .bcc
  else if label == "subject" then .subject
  else .date

/-- Read a labelled line that starts here: the field, the rest of the line behind the label, and
the text behind the line. -/
def fieldLine? (before : Option Char) (t : Text) : Option (Field × Text × Text) := do
  guard (Text.atLineStart before)
  let t := Text.trimStart t
  let (label, rest) ← dropLabel? lineLabels t
  let rest := rest.dropWhile fun c => c == ' ' || c == '\t'
  return (fieldOfLabel (t.take label.length), rest.takeWhile (· != '\n'),
    rest.dropWhile (· != '\n'))

/-- All labelled lines from here on, in order; `skip` characters belong to the line before. -/
def fieldLinesFrom : Option Char → Nat → Text → List (Field × Text)
  | _, _, [] => []
  | _, skip + 1, c :: cs => fieldLinesFrom (some c) skip cs
  | before, 0, c :: cs =>
    match fieldLine? before (c :: cs) with
    | some (field, value, rest) =>
      (field, Text.trim value) :: fieldLinesFrom (some c) (cs.length - rest.length) cs
    | none => fieldLinesFrom (some c) 0 cs

/-- The labelled lines of a text, in order. -/
def fieldLines (t : Text) : List (Field × Text) := fieldLinesFrom none 0 t

/-- Fill the gaps from labelled lines: a field keeps what it has, and of the lines for it the
first one with a value counts. -/
def fillFrom (h : Headers) (t : Text) : Headers :=
  (fieldLines t).foldl
    (fun h line => if line.2.isEmpty || h.has line.1 then h else h.put line.1 line.2) h

/-- **The headers of a mail.** -/
def headers (d : Document) : Headers :=
  let h := markedHeaders d
  if h.sender.isNone && h.subject.isNone then fillFrom h d.body.innerText else h

end HtmlMarkdown.Email
