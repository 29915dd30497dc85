import HtmlMarkdown.Proofs.Convert.Mirror
import HtmlMarkdown.Proofs.Rule.Mail

/-!
# Conversions in and outside of mail

In mail a conversion has more rules to go by, but those do something of their own only with
elements that give them a reason. Where no element does, the conversions in and outside of mail go
in step, a node with itself.

* `convert_mail`: **without a reason, being in mail makes no difference to a conversion.**
-/

namespace HtmlMarkdown.Convert

open Document Rule

/-- The two are one node, and no element at or below it gives a mail rule a reason. -/
def Quiet (o : Options) (n n' : Node) : Prop :=
  n = n' ∧ ∀ m, n.doc.Above n.id m → ¬ Mail.Triggered o (n.doc.node m)

theorem Quiet.child {o : Options} {n c : Node} (h : Quiet o n n) (hc : c ∈ n.children) :
    Quiet o c c := by
  obtain ⟨id, hid, rfl⟩ := List.mem_map.1 hc
  exact ⟨rfl, fun m hm => h.2 m (Relation.ReflTransGen.head (mem_children.1 hid) hm)⟩

/-- **Being in mail or not, the conversions go in step** where no element gives a reason. -/
theorem inStep_mail (custom : RuleSet) (o : Options) :
    InStep (Setup.withCustom custom o true) (Setup.withCustom custom o false) (Quiet o) :=
  InStep.self rfl (fun h hc => (Quiet.child ⟨rfl, h⟩ hc).2) fun {n} h content =>
    finish_mail (h n.id Relation.ReflTransGen.refl) content

/-- **Without a reason, being in mail makes no difference.** If no element at or below a node gives
a mail rule a reason to do something of its own, the conversions of the node in and outside of mail
have the same result, the same text or the same error, with whatever rules and options. -/
theorem convert_mail {custom : RuleSet} {o : Options} {n : Node}
    (h : ∀ m, n.doc.Above n.id m → ¬ Mail.Triggered o (n.doc.node m)) :
    (Setup.withCustom custom o true).convert n = (Setup.withCustom custom o false).convert n :=
  (inStep_mail custom o).convert_eq ⟨rfl, h⟩

/-- A division with a link and a block quote. -/
def letter : Document :=
  Document.ofRoot "div" [("class", "note")]
    [.element "a" [("href", "https://a.b")] [.text "c"], .element "blockquote" [] [.text "d"]]

/-- A set with a rule of the caller's for links. -/
def bareLinks : RuleSet := RuleSet.empty.insert "links" (.forTag "a" fun _ content _ => .ok content)

theorem convert_mail_letter :
    (∀ m, letter.Above 0 m → ¬ Mail.Triggered {} (letter.node m)) ∧
      (Setup.withCustom bareLinks {} true).convert letter.root =
        (Setup.withCustom bareLinks {} false).convert letter.root := by
  have hquiet : ∀ m, letter.Above 0 m → ¬ Mail.Triggered {} (letter.node m) := by
    intro m _
    match m with
    | 0 | 1 | 2 | 3 | 4 => decide
    | m + 5 =>
      have htag : (letter.node (m + 5)).tag = "" := rfl
      rintro (⟨hn, _⟩ | ⟨hn, _⟩ | ⟨hn, _⟩ | ⟨hn, _⟩ | ⟨hn, _⟩ | ⟨hn, _⟩ | ⟨hn, _⟩) <;>
        exact absurd hn (by rw [htag]; decide)
  exact ⟨hquiet, convert_mail hquiet⟩

end HtmlMarkdown.Convert
