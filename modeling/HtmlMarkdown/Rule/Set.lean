import HtmlMarkdown.Rule.Basic
import Std.Data.HashMap

/-!
# Rule sets

Rules under keys, in the order in which the keys were first used. An index by tag finds the rule
for a tag without looking at the others.
-/

namespace HtmlMarkdown

/-- A set of rules. `byTag` and `general` index the rules by position: those for a tag, and
those for every tag. -/
structure RuleSet where
  rules : Array (String × Rule) := #[]
  byTag : Std.HashMap String (List Nat) := {}
  general : List Nat := []

namespace RuleSet

/-- The set without rules. -/
def empty : RuleSet := {}

/-- The number of rules. -/
def size (s : RuleSet) : Nat := s.rules.size

/-- Put a rule under a key: in the place of the rule that has the key, or at the end. -/
def putRule (rules : Array (String × Rule)) (key : String) (rule : Rule) :
    Array (String × Rule) :=
  match rules.findIdx? (·.1 == key) with
  | some i => rules.modify i fun _ => (key, rule)
  | none => rules.push (key, rule)

/-- Put a position at the end of those for a tag. -/
def addPosition (byTag : Std.HashMap String (List Nat)) (tag : String) (i : Nat) :
    Std.HashMap String (List Nat) :=
  byTag.insert tag (byTag.getD tag [] ++ [i])

/-- Enter a rule at a position into the index. -/
def indexRule (s : RuleSet) (i : Nat) (rule : Rule) : RuleSet :=
  match rule.filter with
  | .tag t => { s with byTag := addPosition s.byTag t i }
  | .tags ts => { s with byTag := ts.foldl (fun m t => addPosition m t i) s.byTag }
  | .any => { s with general := s.general ++ [i] }

/-- A set of rules with its index. -/
def ofRules (rules : Array (String × Rule)) : RuleSet :=
  rules.toList.zipIdx.foldl (fun s e => s.indexRule e.2 e.1.2) { rules := rules }

/-- **Put a rule under a key.** A key that is in use keeps its position. -/
def insert (s : RuleSet) (key : String) (rule : Rule) : RuleSet :=
  ofRules (putRule s.rules key rule)

/-- The rule at a position. -/
def rule? (s : RuleSet) (i : Nat) : Option Rule := s.rules[i]?.map (·.2)

/-- The priority of the rule at a position. -/
def priority (s : RuleSet) (i : Nat) : Int := ((s.rule? i).map (·.priority)).getD 0

/-- The better of two positions: by higher priority, then by the earlier position. -/
def better (s : RuleSet) (i j : Nat) : Nat :=
  if s.priority j < s.priority i then i
  else if s.priority i < s.priority j then j
  else min i j

/-- The best of some positions. -/
def best? (s : RuleSet) : List Nat → Option Nat
  | [] => none
  | i :: rest => some (rest.foldl s.better i)

/-- **The position of the rule for a tag**: of the rules that accept it the one with the highest
priority, and of several such the first. -/
def lookup? (s : RuleSet) (tag : String) : Option Nat :=
  s.best? (s.byTag.getD (Text.lowerName tag) [] ++ s.general)

/-- The rule for a tag. -/
def find? (s : RuleSet) (tag : String) : Option Rule := (s.lookup? tag).bind s.rule?

end RuleSet

end HtmlMarkdown
