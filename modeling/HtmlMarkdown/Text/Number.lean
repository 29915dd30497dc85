import HtmlMarkdown.Text.Basic

/-!
# Numbers in text

Reading and writing decimal numbers that have an upper bound.
-/

namespace HtmlMarkdown.Text

/-- The value of decimal digits. -/
def digitsValue (digits : Text) : Nat :=
  digits.foldl (fun n d => 10 * n + (d.toNat - '0'.toNat)) 0

/-- Read a number below `bound`: ASCII digits, with a plus sign before them or not. -/
def readNat? (bound : Nat) (t : Text) : Option Nat :=
  let digits :=
    match t with
    | '+' :: rest => rest
    | _ => t
  if digits.isEmpty || !digits.all Char.isDigit then none
  else
    let n := digitsValue digits
    if n < bound then some n else none

/-- A number in decimal digits. -/
def ofNat (n : Nat) : Text := Nat.toDigits 10 n

end HtmlMarkdown.Text
