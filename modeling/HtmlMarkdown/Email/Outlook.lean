import HtmlMarkdown.Text.Class

/-!
# Outlook markup

Office programs fill the markup of a mail with declarations of their own. `Outlook.clean` takes
them out of the source text, before it is parsed, in eight passes: XML prologues, namespace
attributes, conditional comments, revealed conditions, Office paragraphs, vendor style
declarations, empty styles and Office classes.
-/

namespace HtmlMarkdown.Email.Outlook

open Text

/-! ## Reading pieces of markup -/

/-- What is left behind at least one blank character, as many as there are. -/
def dropBlanks? (t : Text) : Option Text :=
  if startsBlank t then some (trimStart t) else none

/-- What is left behind an equals sign with blank space around it. -/
def dropEquals? (t : Text) : Option Text := (dropChar? '=' (trimStart t)).map trimStart

/-- What stands before and behind the next occurrence of a character. -/
def splitAtChar? (c : Char) (t : Text) : Option (Text × Text) :=
  match t.dropWhile (· != c) with
  | _ :: rest => some (t.takeWhile (· != c), rest)
  | [] => none

/-- A value in quotes of either kind, and what is left behind it. -/
def quoted? : Text → Option (Text × Text)
  | '"' :: t => splitAtChar? '"' t
  | '\'' :: t => splitAtChar? '\'' t
  | _ => none

/-- What is left behind the first place where a word can be read in either case. -/
def dropThrough? (word : Text) : Text → Option Text
  | [] => none
  | c :: cs => (dropWord? word (c :: cs)).or (dropThrough? word cs)

/-! ## The passes -/

/-- An XML prologue. -/
def findPrologue : Finder
  | _, t => do
    let t ← dropWord? "<?xml" t
    let (inside, rest) ← splitAtChar? '>' t
    if inside.getLast? = some '?' then some ([], rest) else none

/-- An XML namespace attribute with the blank space before it. -/
def findNamespace : Finder
  | _, t => do
    let t ← dropWord? "xmlns" (← dropBlanks? t)
    let isNameChar (c : Char) : Bool := isWord c || c == '-'
    let t :=
      match t with
      | ':' :: c :: rest => if isNameChar c then rest.dropWhile isNameChar else t
      | _ => t
    let t ← dropEquals? t
    match quoted? t with
    | some (_, rest) => some ([], rest)
    | none =>
      let isBare (c : Char) : Bool := !isBlank c && c != '>'
      if t.head?.any isBare then some ([], t.dropWhile isBare) else none

/-- What is left behind the condition that `[if` has opened, up to its closing bracket. -/
def dropCondition? (t : Text) : Option Text := do
  let (_, t) ← splitAtChar? ']' t
  dropChar? '>' t

/-- A conditional comment with everything in it. -/
def findConditional : Finder
  | _, t => do
    let t ← dropCondition? (← dropWord? "<!--[if" t)
    return ([], ← dropThrough? "<![endif]-->" t)

/-- The start or the end of a revealed condition. -/
def findRevealed : Finder
  | _, t =>
    ((dropWord? "<![if" t).bind dropCondition?).or (dropWord? "<![endif]>" t) |>.map
      fun rest => ([], rest)

/-- The tag of an Office paragraph. It becomes that of an ordinary one. -/
def findOfficeParagraph : Finder
  | _, t => do
    let t ← dropChar? '<' t
    let (slash, t) := match t with
      | '/' :: rest => ((['/'] : Text), rest)
      | _ => ([], t)
    let t ← dropChar? '>' (trimStart (← dropWord? "o:p" t))
    return ("<" ++ slash ++ "p>", t)

/-- A style declaration that only Office or WebKit knows, with its semicolon. -/
def findVendorDeclaration : Finder
  | _, t => do
    let t ← (dropWord? "mso-" t).or (dropWord? "-webkit-" t)
    let isNameChar (c : Char) : Bool := isWord c || c == '-'
    guard (t.head?.any isNameChar)
    let t ← dropChar? ':' (trimStart (t.dropWhile isNameChar))
    return ([], (t.dropWhile (· != ';')).drop 1)

/-- A quoted style attribute. Its vendor declarations are dropped, and it is written with double
quotes. -/
def findStyle : Finder
  | before, t => do
    guard (atWordEdge before t)
    let (style, rest) ← quoted? (← dropEquals? (← dropWord? "style" t))
    return ("style=\"" ++ trim (replaceAll findVendorDeclaration style) ++ "\"", rest)

/-- A blank style attribute with the blank space before it. -/
def findEmptyStyle : Finder
  | _, t => do
    let t ← dropWord? "style" (← dropBlanks? t)
    let (style, rest) ← quoted? (← dropEquals? t)
    if isBlankText style then some ([], rest) else none

/-- What is left behind the name of an Office class. -/
def dropOfficeClass? (t : Text) : Option Text :=
  (dropWord? "msonormal" t).or ((dropWord? "wordsection" t).map (·.dropWhile isDigit))

/-- A class attribute with nothing but an Office class, and the blank space before it. -/
def findOfficeClass : Finder
  | _, t => do
    let t ← dropEquals? (← dropWord? "class" (← dropBlanks? t))
    match t with
    | '"' :: t => return ([], ← dropChar? '"' (← dropOfficeClass? t))
    | '\'' :: t => return ([], ← dropChar? '\'' (← dropOfficeClass? t))
    | t =>
      let rest ← dropOfficeClass? t
      if rest.head?.any isWord then none else some ([], rest)

/-- **Take the Office declarations out of a source text.** -/
def clean (t : Text) : Text :=
  [findPrologue, findNamespace, findConditional, findRevealed, findOfficeParagraph, findStyle,
    findEmptyStyle, findOfficeClass].foldl (fun t find => replaceAll find t) t

end HtmlMarkdown.Email.Outlook
