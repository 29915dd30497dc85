/-!
# Text

The library works on text as a list of characters. A string literal stands for its list, so
`("\n" : Text)` is `['\n']`; strings proper are kept for names (tags, attributes, keys).

* `isBlank`: Unicode white space, the only notion of blank space for trimming and for words.
* `trim`, `words`, `lines`, `contains`, `replaceAll`: the operations on which all else stands.
-/

namespace HtmlMarkdown

/-- A piece of text. -/
abbrev Text := List Char

instance : Coe String Text := ⟨String.toList⟩

namespace Text

/-! ## Blank space -/

/-- The `White_Space` characters. -/
def isBlank (c : Char) : Bool :=
  let n := c.toNat
  (9 ≤ n && n ≤ 13) || n == 0x20 || n == 0x85 || n == 0xA0 || n == 0x1680 ||
    (0x2000 ≤ n && n ≤ 0x200A) || n == 0x2028 || n == 0x2029 || n == 0x202F || n == 0x205F ||
    n == 0x3000

/-- Drop the longest end of a text on which `p` holds throughout. -/
def dropEndWhile (p : Char → Bool) : Text → Text
  | [] => []
  | c :: cs =>
    match dropEndWhile p cs with
    | [] => if p c then [] else [c]
    | rest => c :: rest

/-- Drop leading blank space. -/
def trimStart (t : Text) : Text := t.dropWhile isBlank

/-- Drop trailing blank space. -/
def trimEnd (t : Text) : Text := dropEndWhile isBlank t

/-- Drop blank space on both sides. -/
def trim (t : Text) : Text := trimEnd (trimStart t)

/-- A text without a visible character. -/
def isBlankText (t : Text) : Bool := t.all isBlank

/-- Does the text end in a blank character? -/
def endsBlank (t : Text) : Bool := t.getLast?.any isBlank

/-- Does the text start with a blank character? -/
def startsBlank (t : Text) : Bool := t.head?.any isBlank

/-! ## Parts of a text -/

/-- The pieces between separators, empty ones included; there is always at least one. -/
def splitOn (sep : Char → Bool) : Text → List Text
  | [] => [[]]
  | c :: cs =>
    if sep c then [] :: splitOn sep cs
    else
      match splitOn sep cs with
      | [] => [[c]]
      | piece :: pieces => (c :: piece) :: pieces

/-- The blank-separated words. -/
def words (t : Text) : List Text := (splitOn isBlank t).filter fun w => !w.isEmpty

/-- A line without the carriage return of its line break. -/
def chopReturn (line : Text) : Text :=
  if line.getLast? = some '\r' then line.dropLast else line

/-- The lines of a text. A line break is a line feed with an optional carriage return before
it; one at the very end closes the last line and opens no further one. -/
def lines (t : Text) : List Text :=
  let pieces := splitOn (· == '\n') t
  pieces.dropLast.map chopReturn ++
    match pieces.getLast? with
    | none | some [] => []
    | some last => [last]

/-- The lines put together again, with a line feed between two of them. -/
def joinLines (ls : List Text) : Text := ['\n'].intercalate ls

/-- Does the text start with `start`? -/
def isPrefix (start t : Text) : Bool := start.isPrefixOf t

/-- Does `needle` occur in the text? -/
def contains (needle : Text) : Text → Bool
  | [] => needle.isEmpty
  | c :: cs => isPrefix needle (c :: cs) || contains needle cs

/-- Replace every occurrence of a character by a text. -/
def replaceChar (c : Char) (by' : Text) (t : Text) : Text :=
  t.flatMap fun d => if d = c then by' else [d]

/-- Equality that ignores the case of ASCII letters. -/
def sameAscii (s t : Text) : Bool := s.map Char.toLower == t.map Char.toLower

/-! ## Replacement -/

/-- What a rule of replacement finds at a position: given the character before the position and the
text from there on, the replacement and what is left behind the match. -/
abbrev Finder := Option Char → Text → Option (Text × Text)

/-- One pass of replacement from left to right. `skip` characters still belong to the last match;
elsewhere the first match found is replaced and no match overlaps an earlier one. -/
def replaceAllFrom (find : Finder) : Option Char → Nat → Text → Text
  | _, _, [] => []
  | _, skip + 1, c :: cs => replaceAllFrom find (some c) skip cs
  | before, 0, c :: cs =>
    match find before (c :: cs) with
    | some (new, rest) => new ++ replaceAllFrom find (some c) (cs.length - rest.length) cs
    | none => c :: replaceAllFrom find (some c) 0 cs

/-- Replace every match of a rule, from left to right. -/
def replaceAll (find : Finder) (t : Text) : Text := replaceAllFrom find none 0 t

/-- Is a rule's match found anywhere in the text? -/
def foundFrom (find : Option Char → Text → Bool) : Option Char → Text → Bool
  | before, [] => find before []
  | before, c :: cs => find before (c :: cs) || foundFrom find (some c) cs

/-- Is a rule's match found anywhere in the text? The rule sees the character before each
position. -/
def found (find : Option Char → Text → Bool) (t : Text) : Bool := foundFrom find none t

/-- Does a line start behind this character? -/
def atLineStart (before : Option Char) : Bool := before == none || before == some '\n'

end Text

end HtmlMarkdown
