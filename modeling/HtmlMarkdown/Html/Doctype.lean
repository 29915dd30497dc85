import HtmlMarkdown.Html.Token
import HtmlMarkdown.Text.Basic

/-!
# Old document types

Documents that declare no type, or a type that is older than the standard layout, keep some
habits of their time. `Doctype.isOld` tells them by their identifiers.
-/

namespace HtmlMarkdown.Html

/-- The titles of old types by their owners, in lower case. -/
def oldTitles : List (String × List String) := [
  ("advasoft ltd", ["html 3.0 aswedit + extensions"]),
  ("as", ["html 3.0 aswedit + extensions"]),
  ("ietf", ["html 2.0 level 1", "html 2.0 level 2", "html 2.0 strict level 1",
    "html 2.0 strict level 2", "html 2.0 strict", "html 2.0", "html 2.1e", "html 3.0",
    "html 3.2 final", "html 3.2", "html 3", "html level 0", "html level 1", "html level 2",
    "html level 3", "html strict level 0", "html strict level 1", "html strict level 2",
    "html strict level 3", "html strict", "html"]),
  ("metrius", ["metrius presentational"]),
  ("microsoft", ["internet explorer 2.0 html strict", "internet explorer 2.0 html",
    "internet explorer 2.0 tables", "internet explorer 3.0 html strict",
    "internet explorer 3.0 html", "internet explorer 3.0 tables"]),
  ("netscape comm. corp.", ["html", "strict html"]),
  ("o'reilly and associates", ["html 2.0", "html extended 1.0", "html extended relaxed 1.0"]),
  ("softquad software", ["hotmetal pro 6.0::19990601::extensions to html 4.0"]),
  ("softquad", ["hotmetal pro 4.0::19971010::extensions to html 4.0"]),
  ("spyglass", ["html 2.0 extended"]),
  ("sq", ["html 2.0 hotmetal + extensions"]),
  ("sun microsystems corp.", ["hotjava html", "hotjava strict html"]),
  ("w3c", ["html 3 1995-03-24", "html 3.2 draft", "html 3.2 final", "html 3.2", "html 3.2s draft",
    "html 4.0 frameset", "html 4.0 transitional", "html experimental 19960712",
    "html experimental 970421", "w3 html"]),
  ("w3o", ["w3 html 3.0"]),
  ("webtechs", ["mozilla html 2.0", "mozilla html"])]

/-- The beginning of the public identifiers that an owner gives to a title. -/
def publicIdStart (owner title : String) : String := "-//" ++ owner ++ "//dtd " ++ title ++ "//"

/-- Beginnings of the public identifiers of old types, in lower case. -/
def oldPublicIds : List String :=
  oldTitles.flatMap fun row => row.2.map (publicIdStart row.1)

/-- Public identifiers of old types that count only as a whole, in lower case. -/
def oldWholePublicIds : List String := [
  "-//w3o//dtd w3 html strict 3.0//en//", "-/w3c/dtd html 4.0 transitional/en", "html"]

/-- Beginnings of public identifiers that are old without a system identifier. -/
def incompletePublicIds : List String :=
  ["html 4.01 frameset", "html 4.01 transitional"].map (publicIdStart "w3c")

/-- The scheme and the rest of the system identifier of an old type, in lower case. -/
def oldSystemId : String :=
  "http:" ++ "//www.ibm.com/data/dtd/v11/ibmxhtml1-transitional.dtd"

/-- Is a public identifier one of an old type? -/
def isOldPublicId (id : Text) (hasSystemId : Bool) : Bool :=
  let id := id.map Char.toLower
  let starts (known : String) : Bool := Text.isPrefix known id
  oldWholePublicIds.any (fun known => known.toList == id) || oldPublicIds.any starts ||
    (!hasSystemId && incompletePublicIds.any starts)

/-- **Is the type an old one?** So is one that is malformed or that is not of HTML. -/
def Doctype.isOld (d : Doctype) : Bool :=
  d.malformed || d.name != some "html".toList ||
    d.publicId.any (isOldPublicId · d.systemId.isSome) ||
    d.systemId.any (Text.sameAscii oldSystemId)

end HtmlMarkdown.Html
