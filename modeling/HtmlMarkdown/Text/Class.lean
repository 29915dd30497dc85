import HtmlMarkdown.Text.Case
import HtmlMarkdown.Text.WordTable

/-!
# Character classes and letters in either case

`isDigit` and `isWord` are the Unicode classes of decimal digits and of word characters;
`atWordEdge` compares the characters on both sides of a position.

`dropWord?` reads a fixed word in either case. Case folding joins two characters beyond ASCII
to ASCII letters: long s to s, and the Kelvin sign to k.
-/

namespace HtmlMarkdown.Text

/-- Decimal digits of every script. -/
def isDigit (c : Char) : Bool :=
  if c.toNat < 128 then c.isDigit else inRanges decimalDigits c

/-- Word characters: letters, marks, digits, connectors and joiners. -/
def isWord (c : Char) : Bool :=
  if c.toNat < 128 then c.isAlphanum || c == '_' else inRanges wordRanges c

/-- Is there a word character on exactly one side of a position? -/
def atWordEdge (before : Option Char) (after : Text) : Bool :=
  before.any isWord != after.head?.any isWord

/-- The folded form of a character, as far as it can be an ASCII letter. -/
def foldChar (c : Char) : Char :=
  if c = '\u017F' then 's' else if c = '\u212A' then 'k' else c.toLower

/-- What is left of a text behind a word given in lower case, read in either case. -/
def dropWord? : (word : Text) → Text → Option Text
  | [], t => some t
  | w :: ws, c :: cs => if foldChar c = w then dropWord? ws cs else none
  | _ :: _, [] => none

/-- What is left behind one of several words, the first that is there. -/
def dropAnyWord? (candidates : List Text) (t : Text) : Option (Text × Text) :=
  candidates.findSome? fun w => (dropWord? w t).map fun rest => (w, rest)

/-- What is left behind the given character. -/
def dropChar? (c : Char) : Text → Option Text
  | [] => none
  | d :: rest => if d = c then some rest else none

end HtmlMarkdown.Text
