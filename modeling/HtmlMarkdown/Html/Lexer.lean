import HtmlMarkdown.Html.Reference
import HtmlMarkdown.Html.Token

/-!
# Reading tokens

`next` reads what comes next off a source, in one of the ways to read it, and returns what is
left. Each way takes at least one character off a source that is not empty.
-/

namespace HtmlMarkdown.Html

/-- What is read off a source in one step. -/
structure Lexed where
  /-- Does a fault of the source come before the tokens? -/
  faulty : Bool := false
  tokens : List Token := []
  /-- What is left of the source. -/
  rest : Text

/-- A single token, and what is left of the source. -/
def Lexed.one (token : Token) (rest : Text) : Lexed := { tokens := [token], rest := rest }

/-! ## Names and attributes -/

/-- Write the replacement character for each NUL. -/
def replaceNul (t : Text) : Text := t.map fun c => if c == '\x00' then replacement else c

/-- A name in ASCII lower case. -/
def nameOf (t : Text) : String := String.ofList ((replaceNul t).map Char.toLower)

/-- Can the character be part of a tag's name? -/
def isTagNameChar (c : Char) : Bool := !isSpace c && c != '/' && c != '>'

/-- Can the character be part of an attribute's name, other than as its first one? -/
def isAttributeNameChar (c : Char) : Bool := isTagNameChar c && c != '='

/-- Can the character be part of a value without quotes? -/
def isBareValueChar (c : Char) : Bool := !isSpace c && c != '>'

/-- The value of an attribute as it is written. -/
def attributeValue (t : Text) : Text := decodeValue (replaceNul t)

/-- Add an attribute to those of a tag, the last one first. A name counts once. -/
def addAttribute (attributes : List (String × Text)) (name : Text) (value : Text) :
    List (String × Text) :=
  let name := nameOf name
  if attributes.any (·.1 == name) then attributes else (name, attributeValue value) :: attributes

/-- Read a value behind the equals sign: the value, and the rest if the tag goes on. A tag that
ends instead of the value leaves it empty. -/
def value? (t : Text) : Option (Text × Text) :=
  match t.dropWhile isSpace with
  | '"' :: t =>
    match t.dropWhile (· != '"') with
    | _ :: rest => some (t.takeWhile (· != '"'), rest)
    | [] => none
  | '\'' :: t =>
    match t.dropWhile (· != '\'') with
    | _ :: rest => some (t.takeWhile (· != '\''), rest)
    | [] => none
  | t => some (t.takeWhile isBareValueChar, t.dropWhile isBareValueChar)

/-- Read the attributes of a tag and its end: the attributes, the last one first, whether the
tag closes itself, and the rest. A tag that does not end is none. -/
def attributes? : (fuel : Nat) → List (String × Text) → Text →
    Option (List (String × Text) × Bool × Text)
  | 0, _, _ => none
  | fuel + 1, done, t =>
    match t.dropWhile isSpace with
    | [] => none
    | '>' :: rest => some (done, false, rest)
    | '/' :: '>' :: rest => some (done, true, rest)
    | '/' :: rest => attributes? fuel done rest
    | c :: t =>
      let name := c :: t.takeWhile isAttributeNameChar
      match (t.dropWhile isAttributeNameChar).dropWhile isSpace with
      | '=' :: t =>
        match value? t with
        | some (value, rest) => attributes? fuel (addAttribute done name value) rest
        | none => none
      | rest => attributes? fuel (addAttribute done name []) rest

/-- Read a tag from its name on. -/
def tag? (t : Text) : Option (StartTag × Text) := do
  let (attributes, selfClosing, rest) ← attributes? (t.length + 1) [] (t.dropWhile isTagNameChar)
  return ({ name := nameOf (t.takeWhile isTagNameChar), attributes := attributes.reverse,
            selfClosing := selfClosing }, rest)

/-- A start tag, read from its name on; nothing if it does not end. -/
def startTag (t : Text) : Lexed :=
  match tag? t with
  | some (tag, rest) => .one (.startTag tag) rest
  | none => { rest := [] }

/-- An end tag, read from its name on; nothing if it does not end. -/
def endTag (t : Text) : Lexed :=
  match tag? t with
  | some (tag, rest) => .one (.endTag tag.name) rest
  | none => { rest := [] }

/-! ## Comments and document types -/

/-- Read the body of a comment: what it holds and the rest. A comment that does not end goes to
the end of the source. -/
def commentBody : Text → Text × Text
  | [] | ['-'] | ['-', '-'] | ['-', '-', '!'] => ([], [])
  | '-' :: '-' :: '>' :: rest => ([], rest)
  | '-' :: '-' :: '!' :: '>' :: rest => ([], rest)
  | c :: t =>
    let (body, rest) := commentBody t
    (c :: body, rest)

/-- A comment, read from behind its opening on. -/
def comment (t : Text) : Lexed :=
  let (body, rest) :=
    match t with
    | '>' :: rest => ([], rest)
    | '-' :: '>' :: rest => ([], rest)
    | t => commentBody t
  .one (.comment (replaceNul body)) rest

/-- Markup that is treated as a comment up to the next angle bracket. -/
def bogusComment (t : Text) : Lexed :=
  .one (.comment (replaceNul (t.takeWhile (· != '>')))) ((t.dropWhile (· != '>')).drop 1)

/-- A quoted identifier: the identifier and the rest, which is missing if the quote is not
closed. -/
def quotedId? : Text → Option (Text × Option Text)
  | '"' :: t => some (t.takeWhile (· != '"'), (t.dropWhile (· != '"')).tail?)
  | '\'' :: t => some (t.takeWhile (· != '\''), (t.dropWhile (· != '\'')).tail?)
  | _ => none

/-- Read the system identifier of a document type. -/
def systemId (d : Doctype) (t : Text) : Doctype :=
  match quotedId? (t.dropWhile isSpace) with
  | some (id, some _) => { d with systemId := some id }
  | some (id, none) => { d with systemId := some id, malformed := true }
  | none => { d with malformed := true }

/-- Read the public identifier of a document type, and the system identifier if there is one. -/
def publicId (d : Doctype) (t : Text) : Doctype :=
  match quotedId? (t.dropWhile isSpace) with
  | some (id, some rest) =>
    let d := { d with publicId := some id }
    if (rest.dropWhile isSpace).isEmpty then d else systemId d rest
  | some (id, none) => { d with publicId := some id, malformed := true }
  | none => { d with malformed := true }

/-- What is left behind a word that is given in lower case, read in either case of ASCII. -/
def dropKeyword? (word t : Text) : Option Text :=
  if (t.take word.length).map Char.toLower == word then some (t.drop word.length) else none

/-- Read the declaration of a document type. -/
def declaration (t : Text) : Doctype :=
  let t := t.dropWhile isSpace
  let name := t.takeWhile fun c => !isSpace c
  let rest := (t.dropWhile fun c => !isSpace c).dropWhile isSpace
  if name.isEmpty then { malformed := true }
  else
    let d : Doctype := { name := some ((replaceNul name).map Char.toLower) }
    if rest.isEmpty then d
    else
      match dropKeyword? "public" rest, dropKeyword? "system" rest with
      | some t, _ => publicId d t
      | none, some t => systemId d t
      | none, none => { d with malformed := true }

/-- A document type, read from behind its keyword on. -/
def doctype (t : Text) : Lexed :=
  match t.dropWhile (· != '>') with
  | _ :: rest => .one (.doctype (declaration (t.takeWhile (· != '>')))) rest
  | [] => .one (.doctype { declaration t with malformed := true }) []

/-! ## Characters -/

/-- The text before and behind the end of a character data section. -/
def sectionBody : Text → Text × Text
  | [] => ([], [])
  | ']' :: ']' :: '>' :: rest => ([], rest)
  | c :: t =>
    let (body, rest) := sectionBody t
    (c :: body, rest)

/-- The runs of characters of one kind that a text consists of. -/
def characterRuns (t : Text) : List Token :=
  (t.splitBy fun c d => CharKind.of c == CharKind.of d).map fun run =>
    .characters ((run.head?.map CharKind.of).getD .visible) run

/-- A run of characters of one kind, of those that `p` allows behind the first one. -/
def characters (p : Char → Bool) (c : Char) (t : Text) : Lexed :=
  let inRun (d : Char) : Bool := p d && CharKind.of d == CharKind.of c
  .one (.characters (CharKind.of c) (c :: t.takeWhile inRun)) (t.dropWhile inRun)

/-- Characters that were not read as anything else. -/
def visible (t rest : Text) : Lexed := .one (.characters .visible t) rest

/-- The characters that a reference stands for, or the ampersand alone. It is a fault to leave
out the semicolon. -/
def reference (t : Text) : Lexed :=
  match reference? false t with
  | some r => { faulty := !r.closed, tokens := characterRuns r.meaning, rest := r.rest }
  | none => visible ['&'] t

/-! ## Markup -/

/-- A declaration, read from behind its exclamation mark on. Character data sections are only
known where `sections` allows them; their text is taken as it is. -/
def markup (sections : Bool) (t : Text) : Lexed :=
  match t with
  | '-' :: '-' :: t => comment t
  | t =>
    match dropKeyword? "doctype" t with
    | some t => doctype t
    | none =>
      match if sections then List.isPrefixOf? "[CDATA[".toList t else none with
      | some t =>
        let (body, rest) := sectionBody t
        { tokens := characterRuns body, rest := rest }
      | none => bogusComment t

/-- What an opening angle bracket opens, read from behind it on. An end tag without a name is a
fault that leaves nothing behind. -/
def opened (sections : Bool) (t : Text) : Lexed :=
  match t with
  | '!' :: t => markup sections t
  | '/' :: '>' :: t => { faulty := true, rest := t }
  | ['/'] => visible ['<', '/'] []
  | '/' :: c :: t => if c.isAlpha then endTag (c :: t) else bogusComment (c :: t)
  | '?' :: t => bogusComment ('?' :: t)
  | c :: t => if c.isAlpha then startTag (c :: t) else visible ['<'] (c :: t)
  | [] => visible ['<'] []

/-- Is this the end tag with a name, read from behind its angle bracket on? -/
def isEndTag (name : String) (t : Text) : Bool :=
  match t with
  | '/' :: t =>
    match dropKeyword? name.toList t with
    | some (c :: _) => !isTagNameChar c
    | _ => false
  | _ => false

/-- How far a script has gone into a comment that hides end tags. -/
inductive ScriptState where
  | open
  /-- In a comment, behind a number of hyphens. -/
  | escaped (hyphens : Nat)
  /-- In a script within a comment, behind a number of hyphens. -/
  | nested (hyphens : Nat)

/-- The state behind a further hyphen. -/
def ScriptState.hyphen : ScriptState → ScriptState
  | .open => .open
  | .escaped n => .escaped (n + 1)
  | .nested n => .nested (n + 1)

/-- The state behind an angle bracket that ends a comment, if two hyphens came before it. -/
def ScriptState.close : ScriptState → ScriptState
  | .open => .open
  | .escaped n => if 2 ≤ n then .open else .escaped 0
  | .nested n => if 2 ≤ n then .open else .nested 0

/-- The state behind any other character. -/
def ScriptState.other : ScriptState → ScriptState
  | .open => .open
  | .escaped _ => .escaped 0
  | .nested _ => .nested 0

/-- Does a word that is exactly `script` end here? -/
def isScriptWord (t : Text) : Bool :=
  match dropKeyword? "script" t with
  | some (c :: _) => isSpace c || c == '/' || c == '>'
  | _ => false

/-- Read a script up to its end tag: the text and the rest. -/
def scriptBody : ScriptState → Text → Text × Text
  | _, [] => ([], [])
  | state, c :: t =>
    let hidden :=
      match state with
      | .nested _ => true
      | _ => false
    if c == '<' && !hidden && isEndTag "script" t then ([], c :: t)
    else
      let next :=
        if c == '-' then state.hyphen
        else if c == '>' then state.close
        else if c == '<' then
          match state with
          | .open => if Text.isPrefix "!--" t then .escaped 0 else .open
          | .escaped _ => if isScriptWord t then .nested 0 else .escaped 0
          | .nested _ =>
            match t with
            | '/' :: t => if isScriptWord t then .escaped 0 else .nested 0
            | _ => .nested 0
        else state.other
      let (body, rest) := scriptBody next t
      (c :: body, rest)

/-- Read text up to the end tag with a name: the text and the rest. -/
def rawBody (name : String) : Text → Text × Text
  | [] => ([], [])
  | c :: t =>
    if c == '<' && isEndTag name t then ([], c :: t)
    else
      let (body, rest) := rawBody name t
      (c :: body, rest)

/-- The token for text that was read as it is; if there is none, an end tag follows. -/
def rawText (body rest : Text) : Lexed :=
  match body, rest with
  | [], _ :: rest => endTag (rest.drop 1)
  | [], [] => { rest := [] }
  | body, rest => .one (.characters .visible (replaceNul body)) rest

/-- A text without the byte order mark at its start. -/
def dropMark : Text → Text
  | '\uFEFF' :: t => t
  | t => t

/-- **Read what comes next.** The end tag of a script ends a source, and the next one may start
with a byte order mark. -/
def next (reading : Reading) (sections : Bool) (t : Text) : Lexed :=
  match reading, t with
  | _, [] => { rest := [] }
  | .data, '<' :: t => opened sections t
  | .data, '&' :: t => reference t
  | .data, c :: t => characters (fun d => d != '<' && d != '&') c t
  | .escapable name, '<' :: t => if isEndTag name t then endTag (t.drop 1) else visible ['<'] t
  | .escapable _, '&' :: t => reference t
  | .escapable _, c :: t =>
    let inRun (d : Char) : Bool := d != '<' && d != '&'
    visible (replaceNul (c :: t.takeWhile inRun)) (t.dropWhile inRun)
  | .raw name, t =>
    let (body, rest) := rawBody name t
    rawText body rest
  | .script, t =>
    let (body, rest) := scriptBody .open t
    let read := rawText body rest
    if body.isEmpty then { read with rest := dropMark read.rest } else read
  | .plain, t => .one (.characters .visible (replaceNul t)) []

/-! ## Sources -/

/-- Every line break becomes a single line feed. -/
def normalizeBreaks : Text → Text
  | [] => []
  | '\r' :: '\n' :: t => '\n' :: normalizeBreaks t
  | '\r' :: t => '\n' :: normalizeBreaks t
  | c :: t => c :: normalizeBreaks t

/-- A source as it is read: without byte order mark, and with uniform line breaks. -/
def source (t : Text) : Text := normalizeBreaks (dropMark t)

end HtmlMarkdown.Html
