import HtmlMarkdown.Proofs.Convert.OneVisit
import HtmlMarkdown.Proofs.Text.Words

/-!
# Between siblings

What the children of an element give stands side by side, in order. Only between two inline elements
is something put in, a single space, and only where no blank space stands there already.

Of the children before, a conversion remembers their text and whether the last one that left a trace
was inline. So children that give nothing, such as comments and nodes rendered before, do not come
between two others, and the row of children goes by the traces alone (`Joined.ofTraces`).

* `Trace`, `Trace.gap`, `sideBySide`: the traces that children leave, and what stands between them.
* `visitOnto_eq`: **a row of children is its traces side by side**, whatever the session has rendered.
* `visit_spaces_children`: so in the content of an element there is blank space between any two inline
  elements that follow each other, and nothing is put in anywhere else.
-/

namespace HtmlMarkdown.Convert

open Document Text

variable {s : Setup} {levels : Nat} {o : Options} {n c : Node} {r : Text} {rs : List Text}

/-! ## Traces side by side -/

/-- The trace of a child that gives something. -/
structure Trace where
  /-- Is the child an inline element? -/
  inline : Bool
  out : Text
  ne_nil : out ≠ []

/-- The trace of a child that gives `r`, if that is something. -/
def Trace.of? (c : Node) (r : Text) : Option Trace :=
  if h : r = [] then none else some { inline := isInline c, out := r, ne_nil := h }

/-- The traces of nodes, given what each of them gives. -/
def traces (cs : List Node) (rs : List Text) : List Trace :=
  (cs.zip rs).filterMap fun cr => Trace.of? cr.1 cr.2

/-- What is put in between two traces: a single space, where inline elements would touch. -/
def Trace.gap (o : Options) (p q : Trace) : Text :=
  if p.inline && q.inline && !o.preserveWhitespace && !endsBlank p.out && !startsBlank q.out then
    [' ']
  else []

/-- The traces one behind the other, each behind its gap. -/
def sideBySide (o : Options) : List Trace → Text
  | [] => []
  | [p] => p.out
  | p :: q :: ps => p.out ++ p.gap o q ++ sideBySide o (q :: ps)

theorem traces_cons (c : Node) (r : Text) (cs : List Node) (rs : List Text) :
    traces (c :: cs) (r :: rs) = (Trace.of? c r).toList ++ traces cs rs := by
  unfold traces
  rw [List.zip_cons_cons, List.filterMap_cons]
  cases Trace.of? c r <;> rfl

/-- **Between any two traces** there is their gap and no more. -/
theorem sideBySide_append (o : Options) (front : List Trace) (p q : Trace) (behind : List Trace) :
    sideBySide o (front ++ p :: q :: behind) =
      sideBySide o (front ++ [p]) ++ p.gap o q ++ sideBySide o (q :: behind) := by
  induction front with
  | nil => rfl
  | cons f front ih =>
    cases front with
    | nil => simp [sideBySide]
    | cons g front =>
      simp only [List.cons_append, sideBySide] at ih ⊢
      rw [ih]
      simp only [List.append_assoc]

/-- A row of traces ends in its last one. -/
theorem sideBySide_concat_suffix (o : Options) (front : List Trace) (p : Trace) :
    p.out <:+ sideBySide o (front ++ [p]) := by
  cases front using List.reverseRecOn with
  | nil => exact List.suffix_rfl
  | append_singleton front f =>
    rw [List.append_assoc, List.singleton_append, sideBySide_append]
    exact List.suffix_append _ _

theorem sideBySide_concat (o : Options) (front : List Trace) (p q : Trace) :
    sideBySide o (front ++ [p] ++ [q]) = sideBySide o (front ++ [p]) ++ p.gap o q ++ q.out := by
  rw [List.append_assoc, List.singleton_append, sideBySide_append]
  rfl

theorem endsBlank_sideBySide (o : Options) (front : List Trace) (p : Trace) :
    endsBlank (sideBySide o (front ++ [p])) = endsBlank p.out := by
  obtain ⟨start, hstart⟩ := sideBySide_concat_suffix o front p
  rw [← hstart, endsBlank_append _ p.ne_nil]

/-- And starts with its first one. -/
theorem startsBlank_sideBySide (o : Options) (q : Trace) (behind : List Trace) :
    startsBlank (sideBySide o (q :: behind)) = startsBlank q.out := by
  cases behind with
  | nil => rfl
  | cons b behind => rw [sideBySide, List.append_assoc, startsBlank_append q.ne_nil]

/-- A place in a row of children, with the text `out`, where two traces follow each other. -/
structure Seam (o : Options) (out : Text) (front : List Trace) (p q : Trace)
    (behind : List Trace) : Prop where
  /-- Before the gap is the text so far, behind it the rest. -/
  out_eq : out = sideBySide o (front ++ [p]) ++ p.gap o q ++ sideBySide o (q :: behind)
  gap_eq : p.gap o q =
    if p.inline = true ∧ q.inline = true ∧ endsBlank (sideBySide o (front ++ [p])) = false ∧
      startsBlank q.out = false then [' '] else []
  /-- Inline elements do not touch. -/
  apart : p.inline = true → q.inline = true →
    endsBlank (sideBySide o (front ++ [p]) ++ p.gap o q) = true ∨
      startsBlank (sideBySide o (q :: behind)) = true

/-- What is put in goes by the text so far, which ends as its last trace. -/
theorem gap_eq_of_spacing (ho : o.preserveWhitespace = false) (front : List Trace) (p q : Trace) :
    p.gap o q =
      if p.inline = true ∧ q.inline = true ∧ endsBlank (sideBySide o (front ++ [p])) = false ∧
        startsBlank q.out = false then [' '] else [] := by
  rw [endsBlank_sideBySide]
  unfold Trace.gap
  simp [ho, and_assoc]

/-- **Where white space is not kept**, a space is put in exactly where inline elements would touch. -/
theorem seam (ho : o.preserveWhitespace = false) (front : List Trace) (p q : Trace)
    (behind : List Trace) :
    Seam o (sideBySide o (front ++ p :: q :: behind)) front p q behind where
  out_eq := sideBySide_append o front p q behind
  gap_eq := gap_eq_of_spacing ho front p q
  apart hp hq := by
    rw [startsBlank_sideBySide]
    cases hends : endsBlank (sideBySide o (front ++ [p])) with
    | true =>
      have hgap : p.gap o q = [] := by
        rw [gap_eq_of_spacing ho front, if_neg]
        simp [hends]
      rw [hgap, List.append_nil, hends]
      exact Or.inl rfl
    | false =>
      cases hstarts : startsBlank q.out with
      | true => exact Or.inr rfl
      | false =>
        have hgap : p.gap o q = [' '] := by
          rw [gap_eq_of_spacing ho front, if_pos ⟨hp, hq, hends, hstarts⟩]
        rw [hgap, endsBlank_append _ (List.cons_ne_nil _ _)]
        exact Or.inl (by decide)

/-- Where white space is kept, nothing is put in. -/
theorem sideBySide_preserved (ho : o.preserveWhitespace = true) (ps : List Trace) :
    sideBySide o ps = ps.flatMap Trace.out := by
  have hgap : ∀ p q : Trace, p.gap o q = [] := by
    intro p q
    simp [Trace.gap, ho]
  induction ps with
  | nil => rfl
  | cons p ps ih =>
    cases ps with
    | nil => simp [sideBySide]
    | cons q ps => rw [sideBySide, hgap, List.append_nil, ih, ← List.flatMap_cons]

/-- Children without a trace give nothing to the row. -/
theorem flatMap_traces : ∀ {cs : List Node} {rs : List Text}, cs.length = rs.length →
    (traces cs rs).flatMap Trace.out = rs.flatten
  | [], [], _ => rfl
  | c :: cs, r :: rs, h => by
    have hrest := flatMap_traces (Nat.succ.inj h)
    rw [traces_cons, List.flatMap_append, hrest, List.flatten_cons]
    by_cases hr : r = []
    · simp [Trace.of?, hr]
    · simp [Trace.of?, hr]

/-! ## A row of children -/

/-- The row that has put the traces together. -/
def Joined.ofTraces (o : Options) (ps : List Trace) : Joined where
  out := sideBySide o ps
  afterInline := ps.getLast?.any Trace.inline

/-- **One more child**: its trace comes last, if it leaves one. -/
theorem ofTraces_add (o : Options) (ps : List Trace) (c : Node) (r : Text) :
    (Joined.ofTraces o ps).add o (isInline c) r =
      Joined.ofTraces o (ps ++ (Trace.of? c r).toList) := by
  by_cases hr : r = []
  · simp [Joined.add, Trace.of?, hr]
  · have hempty : r.isEmpty = false := by simpa using hr
    rw [Joined.add, hempty, if_neg Bool.false_ne_true, Trace.of?, dif_neg hr]
    cases ps using List.reverseRecOn with
    | nil => simp [Joined.ofTraces, sideBySide]
    | append_singleton front p =>
      -- the text of the row and its flag are both those of the last trace
      simp only [Joined.ofTraces, Option.toList_some, sideBySide_concat, endsBlank_sideBySide,
        List.getLast?_concat, Option.any_some]
      rw [Bool.and_comm (isInline c)]
      rfl

namespace Session

/-- Render nodes one after the other in a session. -/
def visitAll (s : Setup) (levels : Nat) : List Node → Session → Except Error (List Text × Session)
  | [], σ => .ok ([], σ)
  | c :: cs, σ => do
    let (r, σ) ← visit s levels c σ
    let (rs, σ) ← visitAll s levels cs σ
    return (r :: rs, σ)

variable {σ σ' : Session}

theorem visitAll_cons_ok (h : visit s levels c σ = .ok (r, σ')) (cs : List Node) :
    visitAll s levels (c :: cs) σ =
      (visitAll s levels cs σ').map fun run => (r :: run.1, run.2) := by
  rw [visitAll, h]
  change (visitAll s levels cs σ').bind _ = _
  cases visitAll s levels cs σ' <;> rfl

theorem visitAll_cons_error {e : Error} (h : visit s levels c σ = .error e) (cs : List Node) :
    visitAll s levels (c :: cs) σ = .error e := by
  rw [visitAll, h]
  rfl

theorem length_visitAll : ∀ {cs : List Node} {rs : List Text} {σ σ' : Session},
    visitAll s levels cs σ = .ok (rs, σ') → cs.length = rs.length := by
  intro cs
  induction cs with
  | nil =>
    intro rs σ σ' h
    cases h
    rfl
  | cons c cs ih =>
    intro rs σ σ' h
    cases hc : visit s levels c σ with
    | error e =>
      rw [visitAll_cons_error hc] at h
      cases h
    | ok run =>
      obtain ⟨r, σ₁⟩ := run
      rw [visitAll_cons_ok hc] at h
      cases hcs : visitAll s levels cs σ₁ with
      | error e =>
        rw [hcs] at h
        cases h
      | ok run =>
        rw [hcs] at h
        cases h
        rw [List.length_cons, List.length_cons, ih hcs]

/-- **A row of children is its traces side by side**: it fails as they do when they are rendered one
after the other, or it puts the traces that they leave behind those that are there already. -/
theorem visitOnto_eq (s : Setup) (levels : Nat) (cs : List Node) (ps : List Trace) (σ : Session) :
    visitOnto s levels (Joined.ofTraces s.options ps, σ) cs =
      (visitAll s levels cs σ).map fun run =>
        (Joined.ofTraces s.options (ps ++ traces cs run.1), run.2) := by
  induction cs generalizing ps σ with
  | nil =>
    rw [visitAll, Except.map, traces, List.zip_nil_left, List.filterMap_nil, List.append_nil]
    rfl
  | cons c cs ih =>
    cases hc : visit s levels c σ with
    | error e =>
      rw [visitOnto_cons_error hc, visitAll_cons_error hc]
      rfl
    | ok run =>
      obtain ⟨r, σ₁⟩ := run
      rw [visitOnto_cons_ok hc, ofTraces_add, ih, visitAll_cons_ok hc]
      cases visitAll s levels cs σ₁ with
      | error e => rfl
      | ok run =>
        simp only [Except.map]
        rw [traces_cons, List.append_assoc]

/-- Fresh siblings give what they are rendered as without a session. -/
theorem visitAll_fresh : ∀ {cs : List Nat} {rs : List Text} {σ : Session}, cs.Nodup →
    (∀ c ∈ cs, n.doc.Parent n.id c) → Coherent s σ → (∀ c ∈ cs, Fresh n.doc σ c) →
    List.Forall₂ (fun c r => render s levels (n.at' c) = .ok r) cs rs →
    ∃ σ', visitAll s levels (cs.map n.at') σ = .ok (rs, σ') := by
  intro cs
  induction cs with
  | nil =>
    intro rs σ _ _ _ _ h
    cases h
    exact ⟨σ, rfl⟩
  | cons c cs ih =>
    intro rs σ hnd hpar hσ hfresh h
    obtain ⟨hcs, hnd'⟩ := List.nodup_cons.1 hnd
    have hvisit := visit_agrees s levels (n.at' c) σ hσ (hfresh c List.mem_cons_self)
    cases h with
    | cons hr hrs =>
      rw [hr] at hvisit
      obtain ⟨σ₁, hrun, h₁⟩ := hvisit
      replace h₁ : After s (n.doc.Above c) σ σ₁ := h₁.of_mark
      obtain ⟨σ₂, hrest⟩ := ih hnd' (fun c' h => hpar c' (List.mem_cons_of_mem _ h)) h₁.coherent
        (Fresh.others hfresh hpar hcs h₁) hrs
      refine ⟨σ₂, ?_⟩
      rw [List.map_cons, visitAll_cons_ok hrun, hrest]
      rfl

theorem visitAll_children (hσ : Coherent s σ) (hfresh : Fresh n.doc σ n.id)
    (h : List.Forall₂ (fun c r => render s levels c = .ok r) n.children rs) :
    ∃ σ', visitAll s levels n.children (σ.mark n.id) = .ok (rs, σ') :=
  visitAll_fresh (children_nodup _ _) (fun _ hc => mem_children.1 hc) (mark_coherent hσ n.id)
    (fun _ hc => hfresh.child (mem_children.1 hc)) (List.forall₂_map_left_iff.1 h)

/-! ## The content of an element -/

/-- **The content of an element**: its children, put together in the session. -/
def content (s : Setup) (levels : Nat) (n : Node) (σ : Session) : Except Error (Text × Session) :=
  (visitOnto s levels ({}, σ) n.children).map fun js => (js.1.out, js.2)

theorem visit_eq_content (hv : σ.visited.contains n.id = false) (h : n.IsOpen) :
    visit s (levels + 1) n σ =
      (content s levels n (σ.mark n.id)).map fun run =>
        (s.finish ((resolve s n.tag run.2).1.bind s.rules.rule?) n run.1,
          (resolve s n.tag run.2).2) := by
  rw [visit_element hv h, content]
  cases visitOnto s levels ({}, σ.mark n.id) n.children <;> rfl

theorem content_eq (s : Setup) (levels : Nat) (n : Node) (σ : Session) :
    content s levels n σ =
      (visitAll s levels n.children σ).map fun run =>
        (sideBySide s.options (traces n.children run.1), run.2) := by
  -- no traces are there to start with
  have hrow : visitOnto s levels ({}, σ) n.children = _ := visitOnto_eq s levels n.children [] σ
  rw [content, hrow]
  cases visitAll s levels n.children σ <;> rfl

/-- **Inline siblings are apart, and nothing else is put in.** An element that a session comes to is
what its rule makes of its content. The content fails as the children do when they are rendered one
after the other. Else it is their traces side by side: where white space is kept, just what the
children give; and where it is not, two traces that follow each other have a single space between
them if both are of inline elements, the text so far does not end in blank space and the next one
does not start with it, and nothing otherwise. So between two inline elements there is blank space,
whatever children without a trace are between them. -/
theorem visit_spaces_children (s : Setup) (levels : Nat) (n : Node) (σ : Session)
    (hv : σ.visited.contains n.id = false) (h : n.IsOpen) :
    visit s (levels + 1) n σ =
        ((content s levels n (σ.mark n.id)).map fun run =>
          (s.finish ((resolve s n.tag run.2).1.bind s.rules.rule?) n run.1,
            (resolve s n.tag run.2).2)) ∧
      content s levels n (σ.mark n.id) =
        ((visitAll s levels n.children (σ.mark n.id)).map fun run =>
          (sideBySide s.options (traces n.children run.1), run.2)) ∧
      ∀ rs σ', visitAll s levels n.children (σ.mark n.id) = .ok (rs, σ') →
        (s.options.preserveWhitespace = true →
          content s levels n (σ.mark n.id) = .ok (rs.flatten, σ')) ∧
        (s.options.preserveWhitespace = false → ∀ front p q behind,
          traces n.children rs = front ++ p :: q :: behind →
            Seam s.options (sideBySide s.options (traces n.children rs)) front p q behind) := by
  refine ⟨visit_eq_content hv h, content_eq s levels n _, fun rs σ' hrs => ⟨fun ho => ?_, ?_⟩⟩
  · rw [content_eq, hrs, Except.map, sideBySide_preserved ho, flatMap_traces (length_visitAll hrs)]
  · intro ho front p q behind hsplit
    rw [hsplit]
    exact seam ho front p q behind

/-- Two inline elements, with a comment between them and a text behind them. -/
def neighbours : Document :=
  Document.ofRoot "div" [] [.element "span" [] [.text "a"], .comment "-",
    .element "span" [] [.text "b"], .text " c"]

theorem visit_spaces_children_neighbours :
    ({} : Session).visited.contains neighbours.root.id = false ∧ neighbours.root.IsOpen ∧
      ∃ σ p q r, visitAll (.mk .standard {} false) 511 neighbours.root.children
          (({} : Session).mark neighbours.root.id) = .ok (["a", [], "b", " c"], σ) ∧
        traces neighbours.root.children ["a", [], "b", " c"] = [] ++ p :: q :: [r] ∧
        Seam {} "a b c" [] p q [r] ∧ p.gap {} q = [' '] ∧
        content (.mk .standard {} false) 511 neighbours.root
          (({} : Session).mark neighbours.root.id) = .ok ("a b c", σ) := by
  have hv : ({} : Session).visited.contains neighbours.root.id = false := by simp
  have hopen : neighbours.root.IsOpen := ⟨rfl, by decide⟩
  have hchildren : neighbours.root.children =
      [neighbours.node 1, neighbours.node 3, neighbours.node 4, neighbours.node 6] := rfl
  have hspan : ∀ {n c : Node} {t : Text}, n.tag = "span" → n.children = [c] → c.data = .text t →
      render (.mk .standard {} false) 511 n = .ok (text c t {}) := by
    intro n c t htag hc hd
    have hn : n.IsOpen := ⟨Node.isElement_of_tag htag (by decide), by rw [htag]; decide⟩
    rw [render_only hn hc (render_text hd), htag, Setup.ruleFor_standard,
      Rule.General.find?_styled (by decide), Setup.finish_none]
  have ha : (neighbours.node 2).data = .text "a" := rfl
  have hb : (neighbours.node 5).data = .text "b" := rfl
  have hc : (neighbours.node 6).data = .text " c" := rfl
  obtain ⟨σ, hrun⟩ : ∃ σ, visitAll (.mk .standard {} false) 511 neighbours.root.children
      (({} : Session).mark neighbours.root.id) = .ok (["a", [], "b", " c"], σ) := by
    refine visitAll_children (coherent_empty _) (fresh_empty _ _) ?_
    rw [hchildren]
    exact .cons (hspan rfl rfl ha) (.cons (render_comment rfl) (.cons (hspan rfl rfl hb)
      (.cons (render_text hc) .nil)))
  obtain ⟨-, hcontent, hseams⟩ := visit_spaces_children (.mk .standard {} false) 511
    neighbours.root {} hv hopen
  refine ⟨hv, hopen, σ, ⟨true, "a", by decide⟩, ⟨true, "b", by decide⟩, ⟨false, " c", by decide⟩,
    hrun, rfl, (hseams _ _ hrun).2 rfl _ _ _ _ rfl, rfl, ?_⟩
  rw [hcontent, hrun]
  rfl

end Session

end HtmlMarkdown.Convert
