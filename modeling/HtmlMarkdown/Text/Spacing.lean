import HtmlMarkdown.Text.Basic

/-!
# Spacing

`collapse` writes every run of blank space as one space.
-/

namespace HtmlMarkdown.Text

/-- Collapse blank space, given whether the character before was blank. -/
def collapseAfter : Bool → Text → Text
  | _, [] => []
  | afterBlank, c :: cs =>
    if isBlank c then
      if afterBlank then collapseAfter true cs else ' ' :: collapseAfter true cs
    else c :: collapseAfter false cs

/-- **Every run of blank space becomes a single space.** -/
def collapse (t : Text) : Text := collapseAfter false t

end HtmlMarkdown.Text
