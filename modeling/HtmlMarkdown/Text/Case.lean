import HtmlMarkdown.Text.Basic
import HtmlMarkdown.Text.CaseTable

/-!
# Letter case

Unicode lower case, with the two characters that are not a matter of one table entry: capital
I with dot, which becomes two characters, and capital sigma, which has a final form.
-/

namespace HtmlMarkdown.Text

/-- Does a character lie in one of the ranges? -/
def inRanges (ranges : List (Nat × Nat)) (c : Char) : Bool :=
  ranges.any fun r => r.1 ≤ c.toNat && c.toNat ≤ r.2

/-- The run that maps a character, if there is one. -/
def CaseRun.maps (r : CaseRun) (n : Nat) : Bool :=
  r.first ≤ n && n ≤ r.last && (n - r.first) % r.step == 0

/-- The lower-case form of a character on its own. -/
def lowerChar (c : Char) : Text :=
  if c.toNat < 128 then [c.toLower]
  else if c = '\u0130' then ['i', '\u0307']
  else
    match lowerRuns.find? (·.maps c.toNat) with
    | some r => [Char.ofNat (r.target + (c.toNat - r.first))]
    | none => [c]

/-- Is the next character, case-ignorable ones passed over, a cased letter? -/
def casedAhead : Text → Bool
  | [] => false
  | c :: cs => if inRanges caseIgnorable c then casedAhead cs else inRanges cased c

/-- The lower-case form of a sigma between the text before it, nearest first, and the text
after it: final at the end of a word. -/
def lowerSigma (before after : Text) : Char :=
  if casedAhead before && !casedAhead after then '\u03C2' else '\u03C3'

/-- Lower case behind the reversed text `before`. -/
def lowerFrom : Text → Text → Text
  | _, [] => []
  | before, c :: cs =>
    (if c = '\u03A3' then [lowerSigma before cs] else lowerChar c) ++ lowerFrom (c :: before) cs

/-- **Lower case** of a text. -/
def lower (t : Text) : Text := lowerFrom [] t

/-- Lower case of a name. -/
def lowerName (name : String) : String := String.ofList (lower name.toList)

/-- The `Uppercase` property. -/
def isUpper (c : Char) : Bool :=
  if c.toNat < 128 then c.isUpper
  else
    c = '\u0130' || inRanges upperOnly c ||
      (lowerRuns.any (·.maps c.toNat) && !inRanges titlecase c)

end HtmlMarkdown.Text
