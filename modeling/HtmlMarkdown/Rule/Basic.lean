import HtmlMarkdown.Document.Node
import HtmlMarkdown.Error
import HtmlMarkdown.Options

/-!
# Rules

A rule says how an element becomes Markdown: a filter tells for which tags, and an action turns
the element and the Markdown of its children into text.
-/

namespace HtmlMarkdown

/-- The tags that a rule is for. -/
inductive Filter where
  | tag (name : String)
  | tags (names : List String)
  | any
  deriving DecidableEq, Repr

namespace Filter

/-- A filter for one tag, in any case. -/
def ofTag (name : String) : Filter := .tag (Text.lowerName name)

/-- A filter for several tags, in any case. -/
def ofTags (names : List String) : Filter := .tags (names.map Text.lowerName)

/-- A filter from a selector: a star is for every tag, anything else is a tag. -/
def ofSelector (selector : Text) : Filter :=
  match Text.trim selector with
  | ['*'] => .any
  | t => .ofTag (String.ofList t)

/-- Does the filter accept a tag? -/
def accepts (f : Filter) (name : String) : Bool :=
  match f with
  | tag t => Text.lowerName name == t
  | tags ts => ts.contains (Text.lowerName name)
  | any => true

end Filter

/-- Turn an element and the Markdown of its children into Markdown. -/
abbrev Action := Node → Text → Options → Except Error Text

/-- A rule. Of two rules for a tag the one with the higher priority is taken. -/
structure Rule where
  filter : Filter
  priority : Int := 0
  action : Action

namespace Rule

/-- A rule for one tag. -/
def forTag (tag : String) (action : Action) : Rule := { filter := .ofTag tag, action := action }

/-- A rule for several tags. -/
def forTags (tags : List String) (action : Action) : Rule :=
  { filter := .ofTags tags, action := action }

end Rule

end HtmlMarkdown
