import HtmlMarkdown.Entity
import HtmlMarkdown.Html.ReferenceTable
import Std.Data.HashMap

/-!
# Character references in HTML

What an ampersand in a source stands for. Unlike the entities of plain text, references may do
without their semicolon, and numbers out of range stand for a character nevertheless.
-/

namespace HtmlMarkdown.Html

/-- The replacement character. -/
def replacement : Char := '\uFFFD'

/-- An entry of the table of names. -/
def readEntry (entry : Text) : String × Text :=
  let codes := Text.splitOn (· == '+') ((entry.dropWhile (· != '=')).drop 1)
  (String.ofList (entry.takeWhile (· != '=')),
    codes.map fun digits => Char.ofNat (Entity.number 16 digits))

/-- The characters of each name. -/
def closedTable : Std.HashMap String Text :=
  .ofList (closedNames.flatMap fun t => (Text.words t.toList).map readEntry)

/-- The characters of the names that need no semicolon. -/
def openTable : Std.HashMap String Text :=
  .ofList (openNames.filterMap fun name => (closedTable[name]?).map fun t => (name, t))

/-- The longest name that needs no semicolon. -/
def maxOpenLength : Nat := 6

/-- The characters that the codes from 0x80 to 0x9F stand for: those of the Windows code page. -/
def windowsTable : List (Nat × Char) := [
  (0x80, '\u20AC'), (0x82, '\u201A'), (0x83, '\u0192'), (0x84, '\u201E'), (0x85, '\u2026'),
  (0x86, '\u2020'), (0x87, '\u2021'), (0x88, '\u02C6'), (0x89, '\u2030'), (0x8A, '\u0160'),
  (0x8B, '\u2039'), (0x8C, '\u0152'), (0x8E, '\u017D'), (0x91, '\u2018'), (0x92, '\u2019'),
  (0x93, '\u201C'), (0x94, '\u201D'), (0x95, '\u2022'), (0x96, '\u2013'), (0x97, '\u2014'),
  (0x98, '\u02DC'), (0x99, '\u2122'), (0x9A, '\u0161'), (0x9B, '\u203A'), (0x9C, '\u0153'),
  (0x9E, '\u017E'), (0x9F, '\u0178')]

/-- The character that a number stands for. -/
def charOfCode (code : Nat) : Char :=
  match windowsTable.lookup code with
  | some c => c
  | none => (Entity.ofCode? code).getD replacement

/-- A reference that was read off a text. -/
structure Reference where
  /-- What it stands for. -/
  meaning : Text
  /-- Does it end with a semicolon? -/
  closed : Bool
  /-- The text behind it. -/
  rest : Text

/-- A numeric reference, read from its digits on. -/
def numeric? (base : Nat) (isDigit : Char → Bool) (t : Text) : Option Reference :=
  match t.takeWhile isDigit with
  | [] => none
  | digits =>
    let meaning := [charOfCode (Entity.number base digits)]
    match t.dropWhile isDigit with
    | ';' :: rest => some ⟨meaning, true, rest⟩
    | rest => some ⟨meaning, false, rest⟩

/-- May the character follow an open name within an attribute value? A name that is part of a
longer word or of an equation is none. -/
def endsName (inAttribute : Bool) (rest : Text) : Bool :=
  !inAttribute || !rest.head?.any fun c => c.isAlphanum || c == '='

/-- The longest open name at the start of a word, of at most `length` characters. -/
def openName? (inAttribute : Bool) (t : Text) : (length : Nat) → Option Reference
  | 0 => none
  | length + 1 =>
    match openTable[String.ofList (t.take (length + 1))]? with
    | some new =>
      if t.length ≤ length then openName? inAttribute t length
      else
        let rest := t.drop (length + 1)
        if endsName inAttribute rest then some ⟨new, false, rest⟩ else none
    | none => openName? inAttribute t length

/-- A named reference: closed if the whole word is a name and a semicolon follows, open
otherwise. -/
def namedReference? (inAttribute : Bool) (t : Text) : Option Reference :=
  let word := t.takeWhile Char.isAlphanum
  let closed : Option Reference :=
    match t.dropWhile Char.isAlphanum with
    | ';' :: rest => (closedTable[String.ofList word]?).map fun new => ⟨new, true, rest⟩
    | _ => none
  closed.or (openName? inAttribute t maxOpenLength)

/-- **Read the reference behind an ampersand.** -/
def reference? (inAttribute : Bool) : Text → Option Reference
  | '#' :: 'x' :: t | '#' :: 'X' :: t => numeric? 16 Entity.isHexDigit t
  | '#' :: t => numeric? 10 Char.isDigit t
  | t => namedReference? inAttribute t

/-- The references of an attribute value. -/
def findReference : Text.Finder
  | _, '&' :: t => (reference? true t).map fun r => (r.meaning, r.rest)
  | _, _ => none

/-- An attribute value with its references replaced. -/
def decodeValue (t : Text) : Text := Text.replaceAll findReference t

end HtmlMarkdown.Html
