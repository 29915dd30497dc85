import HtmlMarkdown.Convert.Session
import HtmlMarkdown.Document.Tree
import HtmlMarkdown.Proofs.Convert.Recursion
import HtmlMarkdown.Proofs.Rule.Standard

/-!
# A session renders by recursion

A session keeps the nodes that it has rendered and the rules that it has looked up. Neither
shows: the subtrees of siblings are disjoint, so no node below a fresh one was rendered before
its turn, and a rule that was looked up is the rule that the book resolves to.

* `Session.Coherent`, `Session.Fresh`: what a session has to be like for that.
* `visit_agrees`: **a visit of a fresh node renders it by recursion**, and leaves a coherent
  session that has rendered nodes at or below that node only.
* `convert_renders_once`: the whole conversion is the recursion, and converting again in the same
  session gives nothing.
-/

namespace HtmlMarkdown.Convert

open Document

variable {s : Setup} {levels : Nat} {n : Node}

namespace Session

/-- The rules that were looked up are those of the book. -/
def Coherent (s : Setup) (σ : Session) : Prop :=
  ∀ tag place, σ.known[tag]? = some place → place = s.rules.resolve? tag s.isEmail

/-- Neither the node nor one below it was rendered. -/
def Fresh (d : Document) (σ : Session) (id : Nat) : Prop :=
  ∀ m, d.Above id m → σ.visited.contains m = false

/-- The session `σ'` comes out of `σ` by rendering some of the nodes in `S`. -/
structure After (s : Setup) (S : Nat → Prop) (σ σ' : Session) : Prop where
  coherent : Coherent s σ'
  grows : ∀ m, σ.visited.contains m = true → σ'.visited.contains m = true
  only : ∀ m, σ'.visited.contains m = true → σ.visited.contains m = true ∨ S m

/-- A run in a session agrees with a run without one: both fail with one error, or both give the
same and the session has rendered some of the nodes in `S`. -/
def Agrees {α : Type} (s : Setup) (S : Nat → Prop) (σ : Session) (plain : Except Error α)
    (run : Except Error (α × Session)) : Prop :=
  match plain with
  | .error e => run = .error e
  | .ok a => ∃ σ', run = .ok (a, σ') ∧ After s S σ σ'

/-! ## Looking a rule up -/

theorem resolve_fst {σ : Session} (hσ : Coherent s σ) (tag : String) :
    (resolve s tag σ).1 = s.rules.resolve? tag s.isEmail := by
  unfold resolve
  cases h : σ.known[tag]? with
  | none => rfl
  | some place => exact hσ tag place h

theorem resolve_visited (s : Setup) (tag : String) (σ : Session) :
    (resolve s tag σ).2.visited = σ.visited := by
  unfold resolve
  cases σ.known[tag]? <;> rfl

theorem resolve_coherent {σ : Session} (hσ : Coherent s σ) (tag : String) :
    Coherent s (resolve s tag σ).2 := by
  unfold resolve
  cases h : σ.known[tag]? with
  | some place => exact hσ
  | none =>
    -- the entry for the tag is the answer of the book, all others are as before
    intro tag' place' h'
    simp only at h'
    rw [Std.HashMap.getElem?_insert] at h'
    split at h'
    · rename_i htag
      rw [← eq_of_beq htag]
      exact (Option.some.inj h').symm
    · exact hσ tag' place' h'

/-! ## Marking a node -/

/-- The session that has rendered one more node. -/
def mark (σ : Session) (id : Nat) : Session := { σ with visited := σ.visited.insert id }

theorem mark_visited (σ : Session) (id m : Nat) :
    (σ.mark id).visited.contains m = true ↔ m = id ∨ σ.visited.contains m = true := by
  unfold mark
  rw [Std.HashSet.contains_insert, Bool.or_eq_true, beq_iff_eq]
  exact or_congr_left eq_comm

theorem mark_coherent {σ : Session} (hσ : Coherent s σ) (id : Nat) : Coherent s (σ.mark id) := hσ

theorem After.of_mark {σ σ' : Session} {d : Document} {id : Nat}
    (h : After s (d.Above id) (σ.mark id) σ') : After s (d.Above id) σ σ' where
  coherent := h.coherent
  grows m hm := h.grows m ((mark_visited σ id m).2 (Or.inr hm))
  only m hm := by
    rcases h.only m hm with h | h
    · rcases (mark_visited σ id m).1 h with rfl | h
      · exact Or.inr Relation.ReflTransGen.refl
      · exact Or.inl h
    · exact Or.inr h

theorem After.refl {S : Nat → Prop} {σ : Session} (hσ : Coherent s σ) : After s S σ σ :=
  ⟨hσ, fun _ h => h, fun _ h => Or.inl h⟩

/-- The children of a fresh node are fresh when it is rendered itself. -/
theorem Fresh.child {d : Document} {σ : Session} {id c : Nat} (h : Fresh d σ id)
    (hc : d.Parent id c) : Fresh d (σ.mark id) c := by
  intro m hm
  by_contra hv
  rw [Bool.not_eq_false] at hv
  rcases (mark_visited σ id m).1 hv with rfl | hv
  · have h1 := hc.lt
    have h2 := hm.le
    omega
  · rw [h m (Relation.ReflTransGen.head hc hm)] at hv
    cases hv

/-! ## A row of children -/

/-- Visit nodes one after the other and put them behind what is there already. -/
def visitOnto (s : Setup) (levels : Nat) (js : Joined × Session) (nodes : List Node) :
    Except Error (Joined × Session) :=
  nodes.foldlM (fun (js : Joined × Session) child => do
    if js.2.visited.contains child.id then return js
    let (rendered, σ) ← visit s levels child js.2
    return (js.1.add s.options (isInline child) rendered, σ)) js

/-- A node that was rendered gives nothing more. -/
theorem visit_visited {σ : Session} (h : σ.visited.contains n.id = true) :
    visit s levels n σ = .ok ([], σ) := by
  unfold visit
  rw [if_pos h]

theorem visitOnto_cons_ok {j : Joined} {σ σ' : Session} {c : Node} {cs : List Node} {r : Text}
    (h : visit s levels c σ = .ok (r, σ')) :
    visitOnto s levels (j, σ) (c :: cs) =
      visitOnto s levels (j.add s.options (isInline c) r, σ') cs := by
  cases hc : σ.visited.contains c.id with
  | false =>
    simp only [visitOnto, List.foldlM_cons, hc, h]
    rfl
  | true =>
    -- a node that is passed over is one that gives nothing
    rw [visit_visited hc] at h
    cases h
    simp only [visitOnto, List.foldlM_cons, hc]
    rfl

theorem visitOnto_cons_error {j : Joined} {σ : Session} {c : Node} {cs : List Node} {e : Error}
    (h : visit s levels c σ = .error e) : visitOnto s levels (j, σ) (c :: cs) = .error e := by
  cases hc : σ.visited.contains c.id with
  | false =>
    simp only [visitOnto, List.foldlM_cons, hc, h]
    rfl
  | true =>
    rw [visit_visited hc] at h
    cases h

/-- Fresh siblings stay fresh while the first one is rendered. -/
theorem Fresh.others {d : Document} {p c : Nat} {cs : List Nat} {σ σ' : Session}
    (h : ∀ c' ∈ c :: cs, Fresh d σ c') (hpar : ∀ c' ∈ c :: cs, d.Parent p c') (hcs : c ∉ cs)
    (hσ : After s (d.Above c) σ σ') : ∀ c' ∈ cs, Fresh d σ' c' := by
  intro c' hc' m hm
  have hmem := List.mem_cons_of_mem c hc'
  by_contra hv
  rw [Bool.not_eq_false] at hv
  rcases hσ.only m hv with hv | hv
  · rw [h c' hmem m hm] at hv
    cases hv
  · have hsame := eq_of_siblings (hpar c List.mem_cons_self) (hpar c' hmem) hv hm
    exact hcs (hsame ▸ hc')

/-- **A row of fresh siblings** is rendered as without a session, if each of them is. -/
theorem visitOnto_agrees (ih : ∀ (n : Node) (σ : Session), Coherent s σ → Fresh n.doc σ n.id →
      Agrees s (n.doc.Above n.id) (σ.mark n.id) (render s levels n) (visit s levels n σ)) :
    ∀ (cs : List Nat) (j : Joined) (σ : Session), cs.Nodup → (∀ c ∈ cs, n.doc.Parent n.id c) →
      Coherent s σ → (∀ c ∈ cs, Fresh n.doc σ c) →
      Agrees s (n.doc.Above n.id) σ (renderOnto s levels j (cs.map n.at'))
        (visitOnto s levels (j, σ) (cs.map n.at')) := by
  -- rendering the first sibling leaves the others fresh, as their subtrees are disjoint
  intro cs
  induction cs with
  | nil => intro j σ _ _ hσ _; exact ⟨σ, rfl, hσ, fun _ h => h, fun _ h => Or.inl h⟩
  | cons c cs ihc =>
    intro j σ hnd hpar hσ hfresh
    obtain ⟨hcs, hnd'⟩ := List.nodup_cons.1 hnd
    have hc := hpar c List.mem_cons_self
    have hvisit := ih (n.at' c) σ hσ (hfresh c List.mem_cons_self)
    rw [List.map_cons]
    cases hr : render s levels (n.at' c) with
    | error e =>
      rw [hr] at hvisit
      rw [renderOnto_cons_error hr]
      exact visitOnto_cons_error hvisit
    | ok r =>
      rw [hr] at hvisit
      obtain ⟨σ₁, hrun, h₁⟩ := hvisit
      replace h₁ : After s (n.doc.Above c) σ σ₁ := h₁.of_mark
      rw [renderOnto_cons_ok hr, visitOnto_cons_ok hrun]
      have hrest := ihc (j.add s.options (isInline (n.at' c)) r) σ₁ hnd'
        (fun c' h => hpar c' (List.mem_cons_of_mem _ h)) h₁.coherent
        (Fresh.others hfresh hpar hcs h₁)
      unfold Agrees at hrest ⊢
      cases hj : renderOnto s levels (j.add s.options (isInline (n.at' c)) r) (cs.map n.at') with
      | error e =>
        rw [hj] at hrest
        exact hrest
      | ok j' =>
        rw [hj] at hrest
        obtain ⟨σ₂, hrun₂, h₂⟩ := hrest
        refine ⟨σ₂, hrun₂, h₂.coherent, fun m h => h₂.grows m (h₁.grows m h), ?_⟩
        intro m hm
        rcases h₂.only m hm with h | h
        · rcases h₁.only m h with h | h
          · exact Or.inl h
          · exact Or.inr (Relation.ReflTransGen.head hc h)
        · exact Or.inr h

/-! ## One node -/

/-- A node that is not descended into leaves only its mark. -/
theorem agrees_mark {σ : Session} (hσ : Coherent s σ) (id : Nat) (d : Document) (t : Text) :
    Agrees s (d.Above id) (σ.mark id) (.ok t) (.ok (t, σ.mark id)) :=
  ⟨σ.mark id, rfl, After.refl (mark_coherent hσ id)⟩

section

variable {σ : Session} {tag : String} {attributes : Attributes}

theorem visit_text {t : Text} (hv : σ.visited.contains n.id = false) (h : n.data = .text t) :
    visit s levels n σ = .ok (text n t s.options, σ.mark n.id) := by
  unfold visit
  rw [hv, h]
  rfl

theorem visit_comment {t : Text} (hv : σ.visited.contains n.id = false)
    (h : n.data = .comment t) : visit s levels n σ = .ok ([], σ.mark n.id) := by
  unfold visit
  rw [hv, h]
  rfl

theorem visit_ignored (hv : σ.visited.contains n.id = false)
    (h : n.data = .element tag attributes) (hi : Tag.isIgnored tag = true) :
    visit s levels n σ = .ok ([], σ.mark n.id) := by
  unfold visit
  rw [hv, h]
  simp only [Bool.false_eq_true, if_false]
  rw [if_pos hi]
  rfl

theorem visit_bottom (hv : σ.visited.contains n.id = false) (h : n.IsOpen) :
    visit s 0 n σ = .error (.tooDeep maxLevels) := by
  obtain ⟨attributes, hd⟩ := h.data
  unfold visit
  rw [hv, hd]
  simp only [h.2, Bool.false_eq_true, if_false]

theorem visit_element (hv : σ.visited.contains n.id = false) (h : n.IsOpen) :
    visit s (levels + 1) n σ =
      (visitOnto s levels ({}, σ.mark n.id) n.children).map fun js =>
        (s.finish ((resolve s n.tag js.2).1.bind s.rules.rule?) n js.1.out,
          (resolve s n.tag js.2).2) := by
  obtain ⟨attributes, hd⟩ := h.data
  conv_lhs => unfold visit
  rw [hv, hd]
  simp only [h.2, Bool.false_eq_true, if_false]
  unfold visitOnto mark
  cases List.foldlM (fun (js : Joined × Session) child => do
    if js.2.visited.contains child.id then return js
    let (rendered, σ) ← visit s levels child js.2
    return (js.1.add s.options (isInline child) rendered, σ))
      ({}, { σ with visited := σ.visited.insert n.id }) n.children <;> rfl

/-- Looking a rule up at the end of a visit changes nothing but the rules that are known. -/
theorem After.resolve {S : Nat → Prop} {σ' : Session} (h : After s S σ σ') (tag : String) :
    After s S σ (resolve s tag σ').2 where
  coherent := resolve_coherent h.coherent tag
  grows m hm := by
    rw [resolve_visited]
    exact h.grows m hm
  only m hm := by
    rw [resolve_visited] at hm
    exact h.only m hm

/-- A fresh node that is not descended into is rendered as without a session. -/
theorem visit_agrees_leaf (hσ : Coherent s σ) (hv : σ.visited.contains n.id = false)
    (h : ¬ n.IsOpen) :
    Agrees s (n.doc.Above n.id) (σ.mark n.id) (render s levels n) (visit s levels n σ) := by
  rcases Node.not_isOpen h with ⟨t, hd⟩ | ⟨t, hd⟩ | ⟨tag, attributes, hd, hi⟩
  · rw [render_text hd, visit_text hv hd]
    exact agrees_mark hσ _ _ _
  · rw [render_comment hd, visit_comment hv hd]
    exact agrees_mark hσ _ _ _
  · rw [render_ignored hd hi, visit_ignored hv hd hi]
    exact agrees_mark hσ _ _ _

/-- **A visit of a fresh node renders it by recursion.** -/
theorem visit_agrees (s : Setup) : ∀ (levels : Nat) (n : Node) (σ : Session), Coherent s σ →
    Fresh n.doc σ n.id →
    Agrees s (n.doc.Above n.id) (σ.mark n.id) (render s levels n) (visit s levels n σ) := by
  intro levels
  induction levels with
  | zero =>
    intro n σ hσ hfresh
    have hv := hfresh n.id Relation.ReflTransGen.refl
    by_cases hopen : n.IsOpen
    · rw [render_bottom hopen, visit_bottom hv hopen]
      rfl
    · exact visit_agrees_leaf hσ hv hopen
  | succ levels ih =>
    intro n σ hσ hfresh
    have hv := hfresh n.id Relation.ReflTransGen.refl
    by_cases hopen : n.IsOpen
    · -- the children are fresh in the session that has marked their parent
      have hrow := visitOnto_agrees (n := n) ih (n.doc.children n.id) {} (σ.mark n.id)
        (children_nodup _ _) (fun c hc => mem_children.1 hc) (mark_coherent hσ n.id)
        (fun c hc => hfresh.child (mem_children.1 hc))
      rw [render_element hopen, visit_element hv hopen]
      unfold Node.children
      cases hj : renderOnto s levels {} ((n.doc.children n.id).map n.at') with
      | error e =>
        rw [hj] at hrow
        change visitOnto s levels ({}, σ.mark n.id) _ = .error e at hrow
        rw [hrow]
        rfl
      | ok j =>
        rw [hj] at hrow
        obtain ⟨σ₁, hrun, h₁⟩ := hrow
        rw [hrun]
        refine ⟨(resolve s n.tag σ₁).2, ?_, h₁.resolve n.tag⟩
        simp only [Except.map]
        rw [resolve_fst h₁.coherent]
        rfl
    · exact visit_agrees_leaf hσ hv hopen

/-- A node that a visit has rendered is not rendered again. -/
theorem visit_again {σ' : Session} {t : Text} (hσ : Coherent s σ) (hfresh : Fresh n.doc σ n.id)
    (h : visit s levels n σ = .ok (t, σ')) : visit s levels n σ' = .ok ([], σ') := by
  have hagree := visit_agrees s levels n σ hσ hfresh
  rw [h] at hagree
  cases hr : render s levels n with
  | error e =>
    rw [hr] at hagree
    cases hagree
  | ok t' =>
    rw [hr] at hagree
    obtain ⟨σ₁, hrun, h₁⟩ := hagree
    cases hrun
    exact visit_visited (h₁.grows n.id ((mark_visited σ n.id n.id).2 (Or.inl rfl)))

end

/-! ## A session of its own -/

theorem coherent_empty (s : Setup) : Coherent s {} := by
  intro tag place h
  simp at h

theorem fresh_empty (d : Document) (id : Nat) : Fresh d {} id := by
  intro m _
  simp

end Session

/-- A conversion is the recursion. -/
theorem convert_eq_render (s : Setup) (n : Node) : s.convert n = render s maxLevels n := by
  have hagree := Session.visit_agrees s maxLevels n {} (Session.coherent_empty s)
    (Session.fresh_empty n.doc n.id)
  unfold Setup.convert Setup.convertIn
  cases hr : render s maxLevels n with
  | error e =>
    rw [hr] at hagree
    change Session.visit s maxLevels n {} = .error e at hagree
    rw [hagree]
    rfl
  | ok t =>
    rw [hr] at hagree
    obtain ⟨σ, hrun, -⟩ := hagree
    rw [hrun]
    rfl

/-- A document that is one paragraph with one text. -/
theorem convert_paragraph {d : Document} {t : Text} (hd : d = Document.ofRoot "p" [] [.text t])
    (o : Options) :
    (Setup.mk .standard o false).convert d.root =
      .ok (Markdown.separated (text (d.node 1) t o)) := by
  subst hd
  have htag : (Document.ofRoot "p" [] [.text t]).root.tag = "p" := rfl
  have hopen : (Document.ofRoot "p" [] [.text t]).root.IsOpen := ⟨rfl, by rw [htag]; decide⟩
  have htext : ((Document.ofRoot "p" [] [.text t]).node 1).data = .text t := rfl
  have hchildren : (Document.ofRoot "p" [] [.text t]).root.children =
      [(Document.ofRoot "p" [] [.text t]).node 1] := rfl
  rw [convert_eq_render, maxLevels, render_only hopen hchildren (render_text htext), htag,
    Setup.ruleFor_standard, Rule.General.find?_paragraph, Setup.finish_paragraph]

/-- **Visited nodes and known rules never show.** For every node, every book of rules and all
options a conversion is the plain recursion on the tree; and once the node is rendered, its
session renders it as nothing. -/
theorem convert_renders_once (s : Setup) (n : Node) :
    s.convert n = render s maxLevels n ∧
      ∀ t σ, s.convertIn {} n = .ok (t, σ) → s.convertIn σ n = .ok ([], σ) := by
  refine ⟨convert_eq_render s n, fun t σ h => ?_⟩
  exact Session.visit_again (Session.coherent_empty s) (Session.fresh_empty n.doc n.id) h

theorem convert_renders_once_paragraph :
    ∃ σ, (Setup.mk .standard {} false).convertIn {}
        (Document.ofRoot "p" [] [.text "a *b*"]).root = .ok ("\na \\*b\\*\n\n", σ) ∧
      (Setup.mk .standard {} false).convertIn σ
        (Document.ofRoot "p" [] [.text "a *b*"]).root = .ok ([], σ) := by
  have hout : (Setup.mk .standard {} false).convert
      (Document.ofRoot "p" [] [.text "a *b*"]).root = .ok "\na \\*b\\*\n\n" :=
    (convert_paragraph rfl {}).trans rfl
  unfold Setup.convert at hout
  cases hrun : (Setup.mk .standard {} false).convertIn {}
      (Document.ofRoot "p" [] [.text "a *b*"]).root with
  | error e =>
    rw [hrun] at hout
    cases hout
  | ok run =>
    obtain ⟨t, σ⟩ := run
    rw [hrun] at hout
    obtain rfl : t = "\na \\*b\\*\n\n" := Except.ok.inj hout
    exact ⟨σ, rfl, (convert_renders_once _ _).2 _ σ hrun⟩

end HtmlMarkdown.Convert
