import HtmlMarkdown.Convert.Session
import HtmlMarkdown.Email.Outlook
import HtmlMarkdown.Entity
import HtmlMarkdown.Html.Parse
import HtmlMarkdown.Metadata

/-!
# The conversion service

A service has options and rules and turns source text into Markdown with metadata: the source is
prepared, parsed and classified, its body is rendered, and the result is laid out.
-/

namespace HtmlMarkdown

/-- The outcome of a conversion. -/
structure Conversion where
  markdown : Text
  metadata : Metadata
  deriving DecidableEq, Repr

/-- A conversion service. -/
structure Service where
  options : Options := {}
  rules : RuleBook := .standard

namespace Service

/-! ## Before parsing -/

/-- What is left behind the first end tag with a name. -/
def dropThroughEndTag? (name : Text) : Text → Option Text
  | [] => none
  | c :: cs =>
    ((Text.dropWord? ("</" ++ name) (c :: cs)).bind fun t =>
        Text.dropChar? '>' (Text.trimStart t)).or
      (dropThroughEndTag? name cs)

/-- What is left behind an element, tags and content, that starts here. -/
def dropElement? (name : Text) (t : Text) : Option Text := do
  let t ← Text.dropWord? ('<' :: name) t
  guard (!t.head?.any Text.isWord)
  match t.dropWhile (· != '>') with
  | _ :: t => dropThroughEndTag? name t
  | [] => none

/-- A script or a style sheet. -/
def findScriptOrStyle : Text.Finder
  | _, t => ((dropElement? "script" t).or (dropElement? "style" t)).map fun rest => ([], rest)

/-- **The source as it is parsed**: without scripts and style sheets, cleaned of Office markup
and with its entities decoded; white space is collapsed unless it is to be preserved. -/
def prepare (options : Options) (source : Text) : Text :=
  let t := Text.replaceAll findScriptOrStyle source
  let t := if options.handleOutlookSpecific then Email.Outlook.clean t else t
  let t := Entity.decode t
  if options.preserveWhitespace then t else Text.trim (Text.collapse t)

/-! ## After rendering -/

/-- **The final form of a rendering**: no two blank lines in a row, headings set apart, and if
the output is trimmed, a single line feed at the end. -/
def finish (options : Options) (rendered : Text) : Text :=
  let t := Markdown.collapseBlankLines rendered
  let t := if options.trimOutput then Text.trimEnd (t.dropWhile (· == '\n')) else t
  let t := Markdown.layout t
  if options.trimOutput && !t.isEmpty then t ++ ['\n'] else t

/-! ## Conversion -/

/-- Convert a document. -/
def convertDocument (s : Service) (d : Document) : Except Error Conversion := do
  let context := Email.detect d
  let metadata := Metadata.ofDocument d context s.options
  let rendered ← (Convert.Setup.mk s.rules s.options context.isEmail).convert d.body
  return { markdown := finish s.options rendered, metadata := metadata }

/-- **Convert a source text.** -/
def convert (s : Service) (source : Text) : Except Error Conversion :=
  if Text.isBlankText source then .error (.invalidInput "HTML input is empty")
  else (s.convertDocument (Html.parse (prepare s.options source))).mapError Error.asConversion

/-- Convert a source text to Markdown alone. -/
def toMarkdown (s : Service) (source : Text) : Except Error Text :=
  (s.convert source).map (·.markdown)

/-- Add a rule, which outranks the built-in ones for its tags. -/
def addRule (s : Service) (key : String) (rule : Rule) : Service :=
  { s with rules := s.rules.add key rule }

/-- Apply a plugin. -/
def use (s : Service) (plugin : Service → Service) : Service := plugin s

end Service

/-! ## Batches -/

/-- The sources of a batch that are still to be converted. -/
structure Batch where
  service : Service
  remaining : List Text

namespace Batch

/-- The number of sources in a chunk. -/
def chunkSize (b : Batch) : Nat := max b.service.options.batchSize 1

/-- The number of chunks that are left. -/
def chunksLeft (b : Batch) : Nat := (b.remaining.length + b.chunkSize - 1) / b.chunkSize

/-- Convert the next chunk; the first failing source fails it. -/
def next? (b : Batch) : Option (Except Error (List Conversion) × Batch) :=
  if b.remaining.isEmpty then none
  else
    some ((b.remaining.take b.chunkSize).mapM b.service.convert,
      { b with remaining := b.remaining.drop b.chunkSize })

/-- The next chunks, at most as many as `fuel`, each with the number of chunks left before it. -/
def resultsTo : (fuel : Nat) → Batch → List (Nat × Except Error (List Conversion))
  | 0, _ => []
  | fuel + 1, b =>
    match b.next? with
    | none => []
    | some (result, rest) => (b.chunksLeft, result) :: resultsTo fuel rest

/-- **All chunks of a batch**, each with the number of chunks left before it. -/
def results (b : Batch) : List (Nat × Except Error (List Conversion)) :=
  resultsTo b.remaining.length b

end Batch

namespace Service

/-- A batch of sources. -/
def batch (s : Service) (sources : List Text) : Batch := ⟨s, sources⟩

/-- **Convert all sources**, chunk by chunk; the first failing source fails the whole. -/
def convertBatch (s : Service) (sources : List Text) : Except Error (List Conversion) :=
  (s.batch sources).results.foldlM (fun done r => do return done ++ (← r.2)) []

end Service

end HtmlMarkdown
