import HtmlMarkdown.Text.Basic

/-!
# Errors

The causes for which a conversion or one of its steps fails, with their wording.
-/

namespace HtmlMarkdown

/-- Why a step fails. -/
inductive Error where
  /-- The input is unusable. -/
  | invalidInput (reason : Text)
  /-- The conversion fails as a whole. -/
  | conversion (reason : Text)
  /-- The rule for a tag fails. -/
  | rule (tag : String) (reason : Text)
  /-- The text is not a selector. -/
  | unsupportedSelector (selector : Text)
  /-- Elements are nested beyond a number of levels. -/
  | tooDeep (levels : Nat)
  deriving DecidableEq, Repr

namespace Error

/-- The wording of an error. -/
def message : Error → Text
  | invalidInput reason => "Invalid input: " ++ reason
  | conversion reason => "Conversion error: " ++ reason
  | rule tag reason => "Rule for <" ++ tag ++ "> failed: " ++ reason
  | unsupportedSelector selector => "Unsupported selector: " ++ selector
  | tooDeep levels => "Document nesting exceeds " ++ Nat.toDigits 10 levels ++ " levels"

/-- An error as the caller of a conversion sees it: any cause becomes the reason why the
conversion failed. -/
def asConversion : Error → Error
  | conversion reason => conversion reason
  | other => conversion other.message

end Error

end HtmlMarkdown
