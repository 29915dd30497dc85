import HtmlMarkdown.Rule.General
import HtmlMarkdown.Rule.Mail

/-!
# The rule book

Three sets of rules in order of precedence: those of the caller, those for mail, which only hold
in documents that look like mail, and the general ones.
-/

namespace HtmlMarkdown

/-- Which set a rule is in. -/
inductive RuleSource where
  | custom
  | email
  | base
  deriving DecidableEq, Repr

/-- The place of a rule: its set and its position there. -/
structure RulePlace where
  source : RuleSource
  index : Nat
  deriving DecidableEq, Repr

/-- The rules that a conversion goes by. -/
structure RuleBook where
  custom : RuleSet
  email : RuleSet
  base : RuleSet

namespace RuleBook

/-- The book with the built-in rules. -/
def standard : RuleBook where
  custom := .empty
  email := Rule.Mail.rules
  base := Rule.General.rules

/-- Add a rule of the caller's; a key that is in use gets the new rule. -/
def add (b : RuleBook) (key : String) (rule : Rule) : RuleBook :=
  { b with custom := b.custom.insert key rule }

/-- The set for a source. -/
def set (b : RuleBook) : RuleSource → RuleSet
  | .custom => b.custom
  | .email => b.email
  | .base => b.base

/-- The sources that count, in order of precedence. -/
def sources (isEmail : Bool) : List RuleSource :=
  if isEmail then [.custom, .email, .base] else [.custom, .base]

/-- **The place of the rule for a tag**: in the first set that has one. -/
def resolve? (b : RuleBook) (tag : String) (isEmail : Bool) : Option RulePlace :=
  (sources isEmail).findSome? fun source =>
    ((b.set source).lookup? tag).map fun i => ⟨source, i⟩

/-- The rule at a place. -/
def rule? (b : RuleBook) (place : RulePlace) : Option Rule := (b.set place.source).rule? place.index

end RuleBook

end HtmlMarkdown
