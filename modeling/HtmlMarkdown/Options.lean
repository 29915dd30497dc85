import HtmlMarkdown.Text.Basic

/-!
# Options

The settings of a conversion and their reading from named fields. Every field is optional, and
a field with an unknown name is passed over.
-/

namespace HtmlMarkdown

/-- How code blocks are set off. -/
inductive CodeStyle where
  | fenced
  | indented
  deriving DecidableEq, Repr

/-- How links are written. -/
inductive LinkStyle where
  | inlined
  | plain
  deriving DecidableEq, Repr

/-- What happens to data tables. A preserved table is written like a converted one. -/
inductive TableHandling where
  | convert
  | remove
  | preserve
  deriving DecidableEq, Repr

/-- The settings of a conversion. -/
structure Options where
  /-- Keep white space as it is and do not escape text. -/
  preserveWhitespace : Bool := false
  bulletListMarker : Char := '-'
  codeBlockStyle : CodeStyle := .fenced
  fence : Text := "```"
  emDelimiter : Text := "*"
  strongDelimiter : Text := "**"
  linkStyle : LinkStyle := .inlined
  tableHandling : TableHandling := .convert
  /-- Keep signatures, below a rule; otherwise they are dropped. -/
  handleEmailSignatures : Bool := true
  /-- Keep quoted replies as block quotes; otherwise they are dropped. -/
  preserveEmailQuotes : Bool := true
  /-- Write bold, italic, underlined and highlighted inline styles as Markdown. -/
  convertInlineStyles : Bool := true
  /-- Clean up Office markup before parsing. -/
  handleOutlookSpecific : Bool := true
  /-- Collect the mail headers into the metadata. -/
  preserveEmailHeaders : Bool := true
  /-- Trim the final text and end it with a single line feed. -/
  trimOutput : Bool := true
  /-- The number of documents in a chunk of a batch. -/
  batchSize : Nat := 10
  deriving DecidableEq, Repr

/-- The value of a settings field as it is given. -/
inductive Setting where
  | flag (value : Bool)
  | text (value : Text)
  /-- A number that is written without a fraction. -/
  | whole (value : Int)
  /-- Anything else. -/
  | other
  deriving DecidableEq, Repr

namespace Setting

/-- A flag. -/
def toFlag? : Setting → Option Bool
  | flag b => some b
  | _ => none

/-- A text. -/
def toText? : Setting → Option Text
  | text t => some t
  | _ => none

/-- A text of one character. -/
def toChar? : Setting → Option Char
  | text [c] => some c
  | _ => none

/-- A word out of a list of words with a meaning. -/
def toWord? {α : Type} (meanings : List (String × α)) : Setting → Option α
  | text t => meanings.lookup (String.ofList t)
  | _ => none

/-- A count that fits into 64 bits. -/
def toCount? : Setting → Option Nat
  | whole n => if 0 ≤ n ∧ n.toNat < UInt64.size then some n.toNat else none
  | _ => none

end Setting

namespace CodeStyle

/-- The words for the styles. -/
def names : List (String × CodeStyle) := [("fenced", fenced), ("indented", indented)]

end CodeStyle

namespace LinkStyle

/-- The words for the styles. -/
def names : List (String × LinkStyle) := [("inlined", inlined), ("plain", plain)]

end LinkStyle

namespace TableHandling

/-- The words for the ways to handle tables. -/
def names : List (String × TableHandling) :=
  [("convert", convert), ("remove", remove), ("preserve", preserve)]

end TableHandling

namespace Options

/-- Take over one field; `none` if its value does not fit. -/
def set? (o : Options) (field : String) (value : Setting) : Option Options :=
  match field with
  | "preserveWhitespace" => value.toFlag?.map fun b => { o with preserveWhitespace := b }
  | "bulletListMarker" => value.toChar?.map fun c => { o with bulletListMarker := c }
  | "codeBlockStyle" =>
    (value.toWord? CodeStyle.names).map fun s => { o with codeBlockStyle := s }
  | "fence" => value.toText?.map fun t => { o with fence := t }
  | "emDelimiter" => value.toText?.map fun t => { o with emDelimiter := t }
  | "strongDelimiter" => value.toText?.map fun t => { o with strongDelimiter := t }
  | "linkStyle" => (value.toWord? LinkStyle.names).map fun s => { o with linkStyle := s }
  | "tableHandling" =>
    (value.toWord? TableHandling.names).map fun h => { o with tableHandling := h }
  | "handleEmailSignatures" => value.toFlag?.map fun b => { o with handleEmailSignatures := b }
  | "preserveEmailQuotes" => value.toFlag?.map fun b => { o with preserveEmailQuotes := b }
  | "convertInlineStyles" => value.toFlag?.map fun b => { o with convertInlineStyles := b }
  | "handleOutlookSpecific" => value.toFlag?.map fun b => { o with handleOutlookSpecific := b }
  | "preserveEmailHeaders" => value.toFlag?.map fun b => { o with preserveEmailHeaders := b }
  | "trimOutput" => value.toFlag?.map fun b => { o with trimOutput := b }
  | "batchSize" => value.toCount?.map fun n => { o with batchSize := n }
  | _ => some o

/-- Read the options from their fields; the others keep their defaults. -/
def ofFields? (fields : List (String × Setting)) : Option Options :=
  fields.foldlM (fun o f => o.set? f.1 f.2) {}

end Options

end HtmlMarkdown
