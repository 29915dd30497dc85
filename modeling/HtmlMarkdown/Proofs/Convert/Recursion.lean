import HtmlMarkdown.Convert.Render
import HtmlMarkdown.Proofs.Document.Order
import Mathlib.Data.List.Forall2

/-!
# The equations of the recursion

What `render` does with each kind of node, so that no proof has to unfold it. It descends into
the elements that are not ignored (`Node.IsOpen`), as long as a level is left: see `render_bottom`
and `render_element`, with the children put together by `renderOnto`. Any other node is rendered
at once: see `render_text`, `render_comment` and `render_ignored`.

What holds of every rendering is proved by `render_induction`, and along a row of children by
`renderOnto_keeps`.
-/

namespace HtmlMarkdown

/-- An element that a conversion descends into. -/
def Node.IsOpen (n : Node) : Prop := n.isElement = true ∧ Tag.isIgnored n.tag = false

theorem Node.isElement_of_tag {n : Node} {tag : String} (h : n.tag = tag) (hne : tag ≠ "") :
    n.isElement = true := by
  unfold Node.tag at h
  unfold Node.isElement
  cases hd : n.data with
  | element _ _ => rfl
  | text t =>
    rw [hd] at h
    exact absurd h.symm hne
  | comment t =>
    rw [hd] at h
    exact absurd h.symm hne

theorem Node.IsOpen.data {n : Node} (h : n.IsOpen) :
    ∃ attributes, n.data = .element n.tag attributes := by
  obtain ⟨he, -⟩ := h
  unfold Node.isElement at he
  unfold Node.tag
  cases hd : n.data with
  | element tag attributes => exact ⟨attributes, rfl⟩
  | text t =>
    rw [hd] at he
    cases he
  | comment t =>
    rw [hd] at he
    cases he

/-- **What a conversion does not descend into**: texts, comments and ignored elements. -/
theorem Node.not_isOpen {n : Node} (h : ¬ n.IsOpen) :
    (∃ t, n.data = .text t) ∨ (∃ t, n.data = .comment t) ∨
      ∃ tag attributes, n.data = .element tag attributes ∧ Tag.isIgnored tag = true := by
  cases hd : n.data with
  | text t => exact Or.inl ⟨t, rfl⟩
  | comment t => exact Or.inr (Or.inl ⟨t, rfl⟩)
  | element tag attributes =>
    refine Or.inr (Or.inr ⟨tag, attributes, rfl, ?_⟩)
    by_contra hi
    refine h ⟨?_, ?_⟩
    · unfold Node.isElement
      rw [hd]
    · unfold Node.tag
      rw [hd]
      exact Bool.not_eq_true _ ▸ hi

namespace Convert

variable {s : Setup} {levels : Nat} {n : Node}

/-- Render nodes one after the other and put them behind what is there already. -/
def renderOnto (s : Setup) (levels : Nat) (j : Joined) (nodes : List Node) :
    Except Error Joined :=
  nodes.foldlM (fun (j : Joined) child => do
    return j.add s.options (isInline child) (← render s levels child)) j

/-! ## A row of nodes -/

@[simp] theorem renderOnto_nil (s : Setup) (levels : Nat) (j : Joined) :
    renderOnto s levels j [] = .ok j := rfl

theorem renderOnto_cons_ok {j : Joined} {c : Node} {cs : List Node} {r : Text}
    (h : render s levels c = .ok r) :
    renderOnto s levels j (c :: cs) =
      renderOnto s levels (j.add s.options (isInline c) r) cs := by
  simp only [renderOnto, List.foldlM_cons, h]
  rfl

theorem renderOnto_cons_error {j : Joined} {c : Node} {cs : List Node} {e : Error}
    (h : render s levels c = .error e) : renderOnto s levels j (c :: cs) = .error e := by
  simp only [renderOnto, List.foldlM_cons, h]
  rfl

/-- Where a row of nodes is rendered, its first node is, and the others are behind it. -/
theorem renderOnto_cons_inv {j j' : Joined} {c : Node} {cs : List Node}
    (h : renderOnto s levels j (c :: cs) = .ok j') :
    ∃ r, render s levels c = .ok r ∧
      renderOnto s levels (j.add s.options (isInline c) r) cs = .ok j' := by
  cases hr : render s levels c with
  | error e =>
    rw [renderOnto_cons_error hr] at h
    cases h
  | ok r =>
    rw [renderOnto_cons_ok hr] at h
    exact ⟨r, rfl, h⟩

/-! ## One node -/

theorem render_text {t : Text} (h : n.data = .text t) :
    render s levels n = .ok (text n t s.options) := by
  unfold render
  rw [h]

theorem render_comment {t : Text} (h : n.data = .comment t) : render s levels n = .ok [] := by
  unfold render
  rw [h]

theorem render_ignored {tag : String} {attributes : Attributes}
    (h : n.data = .element tag attributes) (hi : Tag.isIgnored tag = true) :
    render s levels n = .ok [] := by
  unfold render
  rw [h]
  simp only
  rw [if_pos hi]

/-- A node that is not descended into is rendered, whatever the levels left. -/
theorem render_leaf (s : Setup) (levels : Nat) (h : ¬ n.IsOpen) :
    ∃ t, render s levels n = .ok t := by
  rcases Node.not_isOpen h with ⟨t, hd⟩ | ⟨t, hd⟩ | ⟨tag, attributes, hd, hi⟩
  · exact ⟨_, render_text hd⟩
  · exact ⟨_, render_comment hd⟩
  · exact ⟨_, render_ignored hd hi⟩

/-- No level is left for the element. -/
theorem render_bottom (h : n.IsOpen) : render s 0 n = .error (.tooDeep maxLevels) := by
  obtain ⟨attributes, hd⟩ := h.data
  unfold render
  rw [hd]
  simp only [h.2, Bool.false_eq_true, if_false]

/-- **An element is what its rule makes of its children.** -/
theorem render_element (h : n.IsOpen) :
    render s (levels + 1) n =
      (renderOnto s levels {} n.children).map fun j => s.finish (s.ruleFor n.tag) n j.out := by
  obtain ⟨attributes, hd⟩ := h.data
  conv_lhs => unfold render
  rw [hd]
  simp only [h.2, Bool.false_eq_true, if_false]
  unfold renderOnto
  cases List.foldlM (fun (j : Joined) child => do
    return j.add s.options (isInline child) (← render s levels child)) {} n.children <;> rfl

/-- An element that is rendered had a level left, and its children are rendered. -/
theorem render_element_inv {out : Text} (h : n.IsOpen) (hout : render s levels n = .ok out) :
    ∃ k j, levels = k + 1 ∧ renderOnto s k {} n.children = .ok j ∧
      out = s.finish (s.ruleFor n.tag) n j.out := by
  cases levels with
  | zero =>
    rw [render_bottom h] at hout
    cases hout
  | succ k =>
    rw [render_element h] at hout
    cases hj : renderOnto s k {} n.children with
    | error e =>
      rw [hj] at hout
      cases hout
    | ok j =>
      rw [hj] at hout
      exact ⟨k, j, rfl, hj, (Except.ok.inj hout).symm⟩

/-! ## Inductions -/

/-- **What holds along a row of nodes**: a relation that every rendered node of the row keeps, when
`f` follows it, is kept by the whole row. -/
theorem renderOnto_keeps {α : Type} {R : α → Joined → Prop} (f : α → Node → α) :
    ∀ {cs : List Node} {a : α} {j j' : Joined},
      (∀ c ∈ cs, ∀ r, render s levels c = .ok r →
        ∀ a j, R a j → R (f a c) (j.add s.options (isInline c) r)) →
      R a j → renderOnto s levels j cs = .ok j' → R (cs.foldl f a) j' := by
  intro cs
  induction cs with
  | nil =>
    intro a j j' _ h hrow
    cases hrow
    exact h
  | cons c cs ih =>
    intro a j j' hkeep h hrow
    obtain ⟨r, hr, hrest⟩ := renderOnto_cons_inv hrow
    exact ih (fun c' hc' => hkeep c' (List.mem_cons_of_mem _ hc'))
      (hkeep c List.mem_cons_self r hr a j h) hrest

/-- **Induction over a rendering**: over what is not descended into, and over the elements whose
children are rendered. -/
theorem render_induction {P : Nat → Node → Text → Prop}
    (leaf : ∀ levels n out, ¬ n.IsOpen → render s levels n = .ok out → P levels n out)
    (element : ∀ levels n j, n.IsOpen →
      (∀ c ∈ n.children, ∀ r, render s levels c = .ok r → P levels c r) →
      renderOnto s levels {} n.children = .ok j →
      P (levels + 1) n (s.finish (s.ruleFor n.tag) n j.out)) :
    ∀ (levels : Nat) (n : Node) (out : Text), render s levels n = .ok out → P levels n out := by
  intro levels
  induction levels with
  | zero =>
    intro n out h
    by_cases hopen : n.IsOpen
    · rw [render_bottom hopen] at h
      cases h
    · exact leaf 0 n out hopen h
  | succ levels ih =>
    intro n out h
    by_cases hopen : n.IsOpen
    · obtain ⟨k, j, hk, hrow, rfl⟩ := render_element_inv hopen h
      obtain rfl : levels = k := Nat.succ.inj hk
      exact element levels n j hopen (fun c _ r hr => ih c r hr) hrow
    · exact leaf (levels + 1) n out hopen h

/-! ## A row without inline elements -/

section

variable {α β : Type} {R S : α → β → Prop} {as : List α} {bs : List β}

theorem forall₂_imp_mem (himp : ∀ a ∈ as, ∀ b, R a b → S a b) (h : List.Forall₂ R as bs) :
    List.Forall₂ S as bs :=
  ((List.forall₂_and_left as bs).2 ⟨fun _ ha => ha, h⟩).imp fun a b hab => himp a hab.1 b hab.2

theorem forall₂_right {P : β → Prop} (hP : ∀ a b, R a b → P b) (h : List.Forall₂ R as bs) :
    ∀ b ∈ bs, P b := by
  induction h with
  | nil => intro b hb; cases hb
  | cons hab _ ih =>
    intro b hb
    rcases List.mem_cons.1 hb with rfl | hb
    · exact hP _ _ hab
    · exact ih b hb

end

/-- **Where no node is inline the renderings stand one behind the other.** -/
theorem renderOnto_blocks : ∀ {cs : List Node} {j j' : Joined},
    (∀ c ∈ cs, isInline c = false) → renderOnto s levels j cs = .ok j' →
    ∃ rs, List.Forall₂ (fun c r => render s levels c = .ok r) cs rs ∧
      j'.out = j.out ++ rs.flatten := by
  intro cs
  induction cs with
  | nil =>
    intro j j' _ h
    cases h
    exact ⟨[], List.Forall₂.nil, (List.append_nil _).symm⟩
  | cons c cs ih =>
    intro j j' hblock h
    obtain ⟨r, hr, hrest⟩ := renderOnto_cons_inv h
    obtain ⟨rs, hrs, hout⟩ := ih (fun c' hc' => hblock c' (List.mem_cons_of_mem _ hc')) hrest
    have hadd : (j.add s.options (isInline c) r).out = j.out ++ r := by
      rw [hblock c List.mem_cons_self]
      unfold Joined.add
      cases r <;> simp
    refine ⟨r :: rs, List.Forall₂.cons hr hrs, ?_⟩
    rw [hout, hadd, List.flatten_cons, List.append_assoc]

/-! ## A single child -/

/-- What is put first stands alone. -/
theorem Joined.add_first (o : Options) (inline : Bool) (r : Text) :
    (Joined.add {} o inline r).out = r := by
  unfold Joined.add
  cases r with
  | nil => rfl
  | cons c cs => simp

/-- An element with a single child. -/
theorem render_only {c : Node} {r : Text} (h : n.IsOpen) (hc : n.children = [c])
    (hr : render s levels c = .ok r) :
    render s (levels + 1) n = .ok (s.finish (s.ruleFor n.tag) n r) := by
  rw [render_element h, hc, renderOnto_cons_ok hr, renderOnto_nil, Except.map, Joined.add_first]

end Convert

end HtmlMarkdown
