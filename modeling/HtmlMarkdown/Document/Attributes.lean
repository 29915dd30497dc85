import HtmlMarkdown.Text.Case

/-!
# Attributes

The attributes of an element are a list of names, each in lower case and there only once, with
their values. Besides, two ways to read values that may be absent: `clean` and `markers`.
-/

namespace HtmlMarkdown

/-- The attributes of an element, in source order, each name once. -/
abbrev Attributes := List (String × Text)

namespace Attributes

/-- Give an attribute a value: a name that is there already keeps its place. -/
def put (name : String) (value : Text) : Attributes → Attributes
  | [] => [(name, value)]
  | (n, v) :: rest => if n = name then (n, value) :: rest else (n, v) :: put name value rest

/-- Attributes from pairs of a name and a value. Names become lower case; a repeated name keeps
its first place and takes the last value. -/
def ofPairs (pairs : List (String × Text)) : Attributes :=
  pairs.foldl (fun attributes p => put (Text.lowerName p.1) p.2 attributes) []

/-- A value without blank space around it; empty if there is none. -/
def clean (value : Option Text) : Text := Text.trim (value.getD [])

/-- A cleaned value that is not empty. -/
def clean? (value : Option Text) : Option Text :=
  let t := clean value
  if t.isEmpty then none else some t

/-- The values of `class` and `id` in lower case with a space between them, to look for markers
in. -/
def markers (classes id : Option Text) : Text :=
  let add (before : Text) (value : Option Text) : Text :=
    match value with
    | none => before
    | some v => before ++ (if before.isEmpty then [] else [' ']) ++ Text.lower v
  add (add [] classes) id

end Attributes

end HtmlMarkdown
