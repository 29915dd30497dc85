import HtmlMarkdown.Proofs.Convert.OneVisit
import Mathlib.Data.List.Forall2

/-!
# Conversions in step

Two conversions go in step along a relation between the nodes that they are at (`InStep`): what the
one descends into the other does, with related children, and the rules make the same of the same
content. Then related nodes are converted to the same text, or both conversions fail alike
(`InStep.convert_eq`). Setups that are applied to one document go in step from a node with itself
(`InStep.self`).
-/

namespace HtmlMarkdown.Convert

variable {s s' : Setup} {R : Node → Node → Prop} {n n' : Node} {levels : Nat}

/-- The two conversions go in step along the relation. -/
structure InStep (s s' : Setup) (R : Node → Node → Prop) : Prop where
  /-- They put rendered children together alike. -/
  spacing : s.options.preserveWhitespace = s'.options.preserveWhitespace
  isOpen : ∀ {n n' : Node}, R n n' → (n.IsOpen ↔ n'.IsOpen)
  inline : ∀ {n n' : Node}, R n n' → isInline n = isInline n'
  /-- What is not descended into is rendered alike. -/
  leaf : ∀ {n n' : Node}, R n n' → ¬ n.IsOpen → ∀ levels, render s levels n = render s' levels n'
  children : ∀ {n n' : Node}, R n n' → n.IsOpen → List.Forall₂ R n.children n'.children
  /-- The rules make the same of the same content. -/
  finish : ∀ {n n' : Node}, R n n' → n.IsOpen → ∀ content,
    s.finish (s.ruleFor n.tag) n content = s'.finish (s'.ruleFor n'.tag) n' content

/-- Only whether white space is preserved matters to how children are put together. -/
theorem Joined.add_congr {o o' : Options} (h : o.preserveWhitespace = o'.preserveWhitespace)
    (j : Joined) (inline : Bool) (rendered : Text) :
    j.add o inline rendered = j.add o' inline rendered := by
  unfold Joined.add
  rw [h]

/-- It is all that matters to a text, too. -/
theorem text_congr {o o' : Options} (h : o.preserveWhitespace = o'.preserveWhitespace) (n : Node)
    (t : Text) : text n t o = text n t o' := by
  unfold text
  rw [h]

namespace InStep

/-- Rows of related nodes are rendered alike, if their nodes are. -/
theorem renderOnto_eq (h : InStep s s' R)
    (ih : ∀ n n', R n n' → render s levels n = render s' levels n') {cs cs' : List Node}
    (hcs : List.Forall₂ R cs cs') : ∀ j, renderOnto s levels j cs = renderOnto s' levels j cs' := by
  induction hcs with
  | nil => intro j; rfl
  | @cons c c' cs cs' hc _ ihcs =>
    intro j
    cases hr : render s levels c with
    | error e => rw [renderOnto_cons_error hr, renderOnto_cons_error ((ih c c' hc).symm.trans hr)]
    | ok r =>
      rw [renderOnto_cons_ok hr, renderOnto_cons_ok ((ih c c' hc).symm.trans hr),
        Joined.add_congr h.spacing, h.inline hc, ihcs]

/-- **Related nodes are rendered alike.** -/
theorem render_eq (h : InStep s s' R) : ∀ (levels : Nat) (n n' : Node), R n n' →
    render s levels n = render s' levels n' := by
  intro levels
  induction levels with
  | zero =>
    intro n n' hR
    by_cases hopen : n.IsOpen
    · rw [render_bottom hopen, render_bottom ((h.isOpen hR).1 hopen)]
    · exact h.leaf hR hopen 0
  | succ levels ih =>
    intro n n' hR
    by_cases hopen : n.IsOpen
    · rw [render_element hopen, render_element ((h.isOpen hR).1 hopen),
        h.renderOnto_eq ih (h.children hR hopen)]
      congr 1
      funext j
      exact h.finish hR hopen j.out
    · exact h.leaf hR hopen (levels + 1)

/-- **Related nodes are converted alike**, to the same text or with the same error. -/
theorem convert_eq (h : InStep s s' R) (hR : R n n') : s.convert n = s'.convert n' := by
  rw [convert_eq_render, convert_eq_render]
  exact h.render_eq maxLevels n n' hR

/-- **A node with itself**: two setups that treat white space alike go in step from the nodes for
which their rules do the same, if with a node its children are such nodes. -/
theorem self {P : Node → Prop}
    (hspacing : s.options.preserveWhitespace = s'.options.preserveWhitespace)
    (hchild : ∀ {n c : Node}, P n → c ∈ n.children → P c)
    (hfinish : ∀ {n : Node}, P n → ∀ content,
      s.finish (s.ruleFor n.tag) n content = s'.finish (s'.ruleFor n.tag) n content) :
    InStep s s' fun n n' => n = n' ∧ P n where
  spacing := hspacing
  isOpen := by
    rintro n _ ⟨rfl, -⟩
    exact Iff.rfl
  inline := by
    rintro n _ ⟨rfl, -⟩
    rfl
  leaf := by
    rintro n _ ⟨rfl, -⟩ hopen levels
    rcases Node.not_isOpen hopen with ⟨t, hd⟩ | ⟨t, hd⟩ | ⟨tag, attributes, hd, hi⟩
    · rw [render_text hd, render_text hd, text_congr hspacing]
    · rw [render_comment hd, render_comment hd]
    · rw [render_ignored hd hi, render_ignored hd hi]
  children := by
    rintro n _ ⟨rfl, h⟩ -
    exact List.forall₂_same.2 fun c hc => ⟨rfl, hchild h hc⟩
  finish := by
    rintro n _ ⟨rfl, h⟩ - content
    exact hfinish h content

end InStep

end HtmlMarkdown.Convert
