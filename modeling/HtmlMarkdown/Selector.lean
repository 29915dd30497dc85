import HtmlMarkdown.Document.Node
import HtmlMarkdown.Error

/-!
# Selectors

A selector asks for a tag, for one attribute, or for both: `td`, `*`, `[id]`, `[class*="sig"]`,
`blockquote[type="cite"]`. Tags and attribute names match in any case, values as they are.

* `Selector.parse`: read a selector; what is not one is returned with the error.
* `Selector.accepts`, `Document.query?`, `Document.queryAll`: find elements.
-/

namespace HtmlMarkdown

/-- What a selector asks of an attribute. -/
inductive AttributeTest where
  | present (name : String)
  | equals (name : String) (value : Text)
  | includes (name : String) (value : Text)
  deriving DecidableEq, Repr

namespace AttributeTest

/-- Does the node pass? -/
def passes (n : Node) : AttributeTest → Bool
  | present name => n.hasAttr name
  | equals name value => n.attr? name == some value
  | includes name value => (n.attr? name).any (Text.contains value)

end AttributeTest

/-- A selector. -/
structure Selector where
  tag : Option String
  test : Option AttributeTest
  deriving DecidableEq, Repr

namespace Selector

/-- Select by tag. -/
def ofTag (name : String) : Selector := ⟨some (Text.lowerName name), none⟩

/-- Select by a text within the value of an attribute. -/
def including (name : String) (value : Text) : Selector :=
  ⟨none, some (.includes (Text.lowerName name) value)⟩

/-! ## Reading -/

/-- May the character start the name of an attribute? -/
def startsName (c : Char) : Bool := c.isAlpha || c == '_' || c == ':'

/-- May the character go on with the name of an attribute? -/
def continuesName (c : Char) : Bool := c.isAlphanum || ['-', '_', ':', '.'].contains c

/-- May the character stand in a value without quotes? -/
def isBare (c : Char) : Bool := c != ']' && !Text.isBlank c && c != '"' && c != '\''

/-- Read the tag: an ASCII letter with letters and digits behind it, or a star. -/
def readTag : Text → Option Text × Text
  | '*' :: rest => (some ['*'], rest)
  | c :: rest =>
    if c.isAlpha then (some (c :: rest.takeWhile Char.isAlphanum), rest.dropWhile Char.isAlphanum)
    else (none, c :: rest)
  | [] => (none, [])

/-- Read the value of an attribute, in quotes of either kind or bare. -/
def readValue? : Text → Option (Text × Text)
  | '"' :: t =>
    match t.dropWhile (· != '"') with
    | _ :: rest => some (t.takeWhile (· != '"'), rest)
    | [] => none
  | '\'' :: t =>
    match t.dropWhile (· != '\'') with
    | _ :: rest => some (t.takeWhile (· != '\''), rest)
    | [] => none
  | t =>
    match t.takeWhile isBare with
    | [] => none
    | value => some (value, t.dropWhile isBare)

/-- Read the test for a name, up to and including the closing bracket. -/
def readTest? (name : String) (t : Text) : Option (AttributeTest × Text) :=
  match Text.trimStart t with
  | ']' :: rest => some (.present name, rest)
  | '=' :: t => do
    let (value, t) ← readValue? (Text.trimStart t)
    match Text.trimStart t with
    | ']' :: rest => some (.equals name value, rest)
    | _ => none
  | '*' :: '=' :: t => do
    let (value, t) ← readValue? (Text.trimStart t)
    match Text.trimStart t with
    | ']' :: rest => some (.includes name value, rest)
    | _ => none
  | _ => none

/-- Read a test in brackets, if a bracket opens: what there is and the rest. -/
def readBrackets? : Text → Option (Option AttributeTest × Text)
  | '[' :: t =>
    match Text.trimStart t with
    | c :: t =>
      if startsName c then do
        let name := Text.lowerName (String.ofList (c :: t.takeWhile continuesName))
        let (test, rest) ← readTest? name (t.dropWhile continuesName)
        return (some test, rest)
      else none
    | [] => none
  | t => some (none, t)

/-- Read a selector, if the text is one. -/
def parse? (t : Text) : Option Selector := do
  let (tag, t) := readTag (Text.trimStart t)
  let (test, t) ← readBrackets? t
  if !Text.isBlankText t || (tag.isNone && test.isNone) then none
  else
    let tag := (tag.filter (· != ['*'])).map fun name => Text.lowerName (String.ofList name)
    return ⟨tag, test⟩

/-- **Read a selector.** -/
def parse (t : Text) : Except Error Selector :=
  match parse? t with
  | some s => .ok s
  | none => .error (.unsupportedSelector t)

/-! ## Matching -/

/-- Is the node an element that the selector asks for? -/
def accepts (s : Selector) (n : Node) : Bool :=
  n.isElement && s.tag.all (· == n.tag) && s.test.all (·.passes n)

end Selector

namespace Document

/-- The first element that a selector asks for. -/
def query? (d : Document) (s : Selector) : Option Node := d.elements.find? s.accepts

/-- All elements that a selector asks for, in document order. -/
def queryAll (d : Document) (s : Selector) : List Node := d.elements.filter s.accepts

end Document

end HtmlMarkdown
