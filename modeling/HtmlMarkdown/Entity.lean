import HtmlMarkdown.Text.Basic

/-!
# Character entities

`decode` replaces the closed references `&name;`, `&#digits;` and `&#xdigits;` that it knows and
leaves everything else as written; `encode` writes the five characters that are unsafe in markup
as references.
-/

namespace HtmlMarkdown.Entity

/-- The characters with a name. -/
def named : List (String × Char) := [
  ("amp", '&'), ("lt", '<'), ("gt", '>'), ("quot", '"'), ("apos", '\''), ("nbsp", '\u00A0'),
  ("hellip", '\u2026'), ("mdash", '\u2014'), ("ndash", '\u2013'), ("lsquo", '\u2018'),
  ("rsquo", '\u2019'), ("sbquo", '\u201A'), ("ldquo", '\u201C'), ("rdquo", '\u201D'),
  ("bdquo", '\u201E'), ("laquo", '\u00AB'), ("raquo", '\u00BB'), ("copy", '\u00A9'),
  ("reg", '\u00AE'), ("trade", '\u2122'), ("sect", '\u00A7'), ("para", '\u00B6'),
  ("dagger", '\u2020'), ("Dagger", '\u2021'), ("bull", '\u2022'), ("middot", '\u00B7'),
  ("prime", '\u2032'), ("Prime", '\u2033'), ("deg", '\u00B0'), ("times", '\u00D7'),
  ("divide", '\u00F7'), ("euro", '\u20AC'), ("weierp", '\u2118'), ("image", '\u2111'),
  ("real", '\u211C'), ("alefsym", '\u2135')]

/-- A hexadecimal digit of either case. -/
def isHexDigit (c : Char) : Bool :=
  c.isDigit || ('a' ≤ c && c ≤ 'f') || ('A' ≤ c && c ≤ 'F')

/-- The value of a hexadecimal digit. -/
def hexDigitValue (c : Char) : Nat :=
  if c.isDigit then c.toNat - '0'.toNat else c.toLower.toNat - 'a'.toNat + 10

/-- The number that digits write in a base. -/
def number (base : Nat) (digits : Text) : Nat :=
  digits.foldl (fun n d => base * n + hexDigitValue d) 0

/-- The character with a code, if it is a scalar value other than zero. -/
def ofCode? (code : Nat) : Option Char :=
  if code ≠ 0 ∧ code.isValidChar then some (Char.ofNat code) else none

/-- A run of at least `least` and at most `most` characters of a class, closed by a semicolon:
the run and what follows the semicolon. -/
def closedRun? (p : Char → Bool) (least most : Nat) (t : Text) : Option (Text × Text) :=
  let run := t.takeWhile p
  match t.dropWhile p with
  | ';' :: rest => if least ≤ run.length ∧ run.length ≤ most then some (run, rest) else none
  | _ => none

/-- Read the reference behind an ampersand: the character it stands for and the rest. -/
def reference? : Text → Option (Char × Text)
  | '#' :: 'x' :: t | '#' :: 'X' :: t => do
    let (digits, rest) ← closedRun? isHexDigit 1 8 t
    return (← ofCode? (number 16 digits), rest)
  | '#' :: t => do
    let (digits, rest) ← closedRun? Char.isDigit 1 10 t
    return (← ofCode? (number 10 digits), rest)
  | c :: t => do
    guard c.isAlpha
    let (name, rest) ← closedRun? Char.isAlphanum 1 31 t
    let (_, char) ← named.find? fun entry => entry.1.toList == c :: name
    return (char, rest)
  | [] => none

/-- A reference with its ampersand. -/
def findReference : Text.Finder
  | _, '&' :: t => (reference? t).map fun (c, rest) => ([c], rest)
  | _, _ => none

/-- **Replace the known references by their characters.** The result is not read again. -/
def decode (t : Text) : Text := Text.replaceAll findReference t

/-- The written form of a character that is safe in markup. -/
def encodeChar (c : Char) : Text :=
  match c with
  | '&' => "&amp;"
  | '<' => "&lt;"
  | '>' => "&gt;"
  | '"' => "&quot;"
  | '\'' => "&#x27;"
  | _ => [c]

/-- **Write the five characters that are unsafe in markup as references.** -/
def encode (t : Text) : Text := t.flatMap encodeChar

end HtmlMarkdown.Entity
