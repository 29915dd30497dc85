import HtmlMarkdown.Text.Basic

/-!
# Tokens of HTML

What a source consists of: tags, runs of characters, comments, and the document type.
-/

namespace HtmlMarkdown.Html

/-- The kinds of characters that a parser tells apart. -/
inductive CharKind where
  /-- Blank space between tags. -/
  | blank
  | nul
  | visible
  deriving DecidableEq, Repr

/-- The blank characters of HTML sources. -/
def isSpace (c : Char) : Bool := c == ' ' || c == '\n' || c == '\t' || c == '\x0C' || c == '\r'

/-- The kind of a character. -/
def CharKind.of (c : Char) : CharKind :=
  if isSpace c then .blank else if c == '\x00' then .nul else .visible

/-- A start tag with its name and attribute names in ASCII lower case. -/
structure StartTag where
  name : String
  attributes : List (String × Text) := []
  selfClosing : Bool := false
  deriving DecidableEq, Repr

/-- A document type. -/
structure Doctype where
  name : Option Text := none
  publicId : Option Text := none
  systemId : Option Text := none
  /-- The declaration is malformed. -/
  malformed : Bool := false
  deriving DecidableEq, Repr

/-- A token. -/
inductive Token where
  | doctype (d : Doctype)
  | startTag (t : StartTag)
  | endTag (name : String)
  | comment (t : Text)
  /-- A run of characters of one kind. -/
  | characters (kind : CharKind) (t : Text)
  | endOfFile
  deriving DecidableEq, Repr

/-- How the source is read on. -/
inductive Reading where
  /-- Markup with character references. -/
  | data
  /-- Text with character references, up to the end tag with a name. -/
  | escapable (name : String)
  /-- Text as it is, up to the end tag with a name. -/
  | raw (name : String)
  /-- A script, up to the end tag that no comment hides. -/
  | script
  /-- Text as it is, to the end. -/
  | plain
  deriving DecidableEq, Repr

end HtmlMarkdown.Html
