import HtmlMarkdown.Convert.Pieces
import HtmlMarkdown.Rule.Book

/-!
# Rendering by recursion

The conversion of a node as a plain recursion on the tree: render the children, put them
together, and let the rule for the tag have the result.
-/

namespace HtmlMarkdown.Convert

/-- What a conversion goes by. -/
structure Setup where
  rules : RuleBook
  options : Options
  isEmail : Bool

/-- The result of a rule on an element; the content stays if there is no rule for the tag or if
the rule fails. -/
def Setup.finish (s : Setup) (rule : Option Rule) (n : Node) (content : Text) : Text :=
  match rule with
  | none => content
  | some rule =>
    match rule.action n content s.options with
    | .ok t => t
    | .error _ => content

/-- The rule for a tag. -/
def Setup.ruleFor (s : Setup) (tag : String) : Option Rule :=
  (s.rules.resolve? tag s.isEmail).bind s.rules.rule?

/-- **The Markdown of a node** with `levels` levels of elements left to descend into. -/
def render (s : Setup) : (levels : Nat) → Node → Except Error Text
  | levels, n =>
    match n.data with
    | .text t => .ok (text n t s.options)
    | .comment _ => .ok []
    | .element tag _ =>
      if Tag.isIgnored tag then .ok []
      else
        match levels with
        | 0 => .error (.tooDeep maxLevels)
        | levels + 1 => do
          let joined ← n.children.foldlM
            (fun (j : Joined) child => do
              return j.add s.options (isInline child) (← render s levels child)) {}
          return s.finish (s.ruleFor tag) n joined.out

end HtmlMarkdown.Convert
