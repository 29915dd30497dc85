import HtmlMarkdown.Convert.Render
import Std.Data.HashSet

/-!
# Conversion sessions

A session converts the nodes of one document. It renders no node twice, and it looks up the rule
for a tag only once.
-/

namespace HtmlMarkdown.Convert

/-- What a session has come to know. -/
structure Session where
  /-- The nodes that were rendered. -/
  visited : Std.HashSet Nat := {}
  /-- The rules that were looked up. -/
  known : Std.HashMap String (Option RulePlace) := {}

namespace Session

/-- Look up the place of the rule for a tag. -/
def resolve (s : Setup) (tag : String) (σ : Session) : Option RulePlace × Session :=
  match σ.known[tag]? with
  | some place => (place, σ)
  | none =>
    let place := s.rules.resolve? tag s.isEmail
    (place, { σ with known := σ.known.insert tag place })

/-- **Render a node** that was not rendered before, with `levels` levels left. -/
def visit (s : Setup) : (levels : Nat) → Node → Session → Except Error (Text × Session)
  | levels, n, σ =>
    if σ.visited.contains n.id then .ok ([], σ)
    else
      let σ := { σ with visited := σ.visited.insert n.id }
      match n.data with
      | .text t => .ok (text n t s.options, σ)
      | .comment _ => .ok ([], σ)
      | .element tag _ =>
        if Tag.isIgnored tag then .ok ([], σ)
        else
          match levels with
          | 0 => .error (.tooDeep maxLevels)
          | levels + 1 => do
            let (joined, σ) ← n.children.foldlM
              (fun (js : Joined × Session) child => do
                if js.2.visited.contains child.id then return js
                let (rendered, σ) ← visit s levels child js.2
                return (js.1.add s.options (isInline child) rendered, σ)) ({}, σ)
            let (place, σ) := resolve s tag σ
            return (s.finish (place.bind s.rules.rule?) n joined.out, σ)

end Session

/-- Convert a node in a session. -/
def Setup.convertIn (s : Setup) (σ : Session) (n : Node) : Except Error (Text × Session) :=
  Session.visit s maxLevels n σ

/-- **Convert a node** in a session of its own. -/
def Setup.convert (s : Setup) (n : Node) : Except Error Text := (s.convertIn {} n).map (·.1)

end HtmlMarkdown.Convert
