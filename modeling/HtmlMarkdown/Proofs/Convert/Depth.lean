import HtmlMarkdown.Proofs.Convert.OneVisit
import HtmlMarkdown.Proofs.Text.Trim
import HtmlMarkdown.Service

/-!
# The errors of a conversion

A conversion fails for one reason only: elements are nested too deep where nothing hides them.
The rules have no say in it, whatever they return.

* `Exposed top k e`: the element `e` lies `k` element levels below `top`, and neither it nor an
  element on the way is ignored.
* `render_error_iff`: **rendering with `levels` levels left fails if and only if an element is
  exposed that many levels below.**
* `Service.convert_classified`: the outcomes of the service, each with its exact condition.
-/

namespace HtmlMarkdown

/-- `Exposed top k e`: the element `e` lies `k` element levels below `top`, and neither it nor an
element on the way from `top` down to it is ignored. -/
inductive Exposed (top : Node) : Nat → Node → Prop where
  | here : top.IsOpen → Exposed top 0 top
  | child {k : Nat} {p c : Node} : Exposed top k p → c ∈ p.children → c.IsOpen →
      Exposed top (k + 1) c

namespace Exposed

variable {top c e : Node} {j k : Nat}

theorem top_isOpen (h : Exposed top k e) : top.IsOpen := by
  induction h with
  | here h => exact h
  | child _ _ _ ih => exact ih

/-- The way down starts at the top. -/
theorem of_child (htop : top.IsOpen) (hc : c ∈ top.children) (h : Exposed c k e) :
    Exposed top (k + 1) e := by
  induction h with
  | here h => exact (Exposed.here htop).child hc h
  | child _ hp ho ih => exact ih.child hp ho

/-- The first step of the way down. -/
theorem succ_inv (h : Exposed top (k + 1) e) : ∃ c ∈ top.children, Exposed c k e := by
  generalize hk : k + 1 = k' at h
  induction h generalizing k with
  | here _ => omega
  | child hp hc ho ih =>
    rename_i k' p c
    obtain rfl : k = k' := by omega
    cases k with
    | zero =>
      cases hp
      exact ⟨c, hc, Exposed.here ho⟩
    | succ k =>
      obtain ⟨q, hq, hqp⟩ := ih rfl
      exact ⟨q, hq, hqp.child hc ho⟩

/-- Above an exposed element there is one at every level. -/
theorem of_le (h : Exposed top k e) (hj : j ≤ k) : ∃ e', Exposed top j e' := by
  induction h with
  | here h =>
    obtain rfl : j = 0 := by omega
    exact ⟨top, Exposed.here h⟩
  | child hp hc ho ih =>
    rename_i k p c
    rcases Nat.lt_or_ge j (k + 1) with hlt | hge
    · exact ih (by omega)
    · obtain rfl : j = k + 1 := by omega
      exact ⟨c, hp.child hc ho⟩

end Exposed

namespace Convert

variable {s : Setup} {levels : Nat} {n : Node}

/-- A row of nodes fails if and only if one of them does, when all fail for one reason. -/
theorem renderOnto_error_iff {cs : List Node} {P : Node → Prop}
    (h : ∀ c ∈ cs, ∀ e, render s levels c = .error e ↔ e = .tooDeep maxLevels ∧ P c) :
    ∀ (j : Joined) (e : Error),
      renderOnto s levels j cs = .error e ↔ e = .tooDeep maxLevels ∧ ∃ c ∈ cs, P c := by
  induction cs with
  | nil => intro j e; simp
  | cons c cs ih =>
    intro j e
    have ih' := ih fun c' hc' => h c' (List.mem_cons_of_mem _ hc')
    have hc := h c List.mem_cons_self
    cases hr : render s levels c with
    | error e' =>
      obtain ⟨rfl, hP⟩ := (hc e').1 hr
      rw [renderOnto_cons_error hr]
      constructor
      · intro he
        cases he
        exact ⟨rfl, c, List.mem_cons_self, hP⟩
      · rintro ⟨rfl, -⟩
        rfl
    | ok r =>
      have hnP : ¬ P c := by
        intro hP
        have := (hc (.tooDeep maxLevels)).2 ⟨rfl, hP⟩
        rw [hr] at this
        cases this
      rw [renderOnto_cons_ok hr, ih']
      simp [hnP]

/-- **Rendering fails if and only if an element is exposed as many levels below as are left.** -/
theorem render_error_iff (s : Setup) : ∀ (levels : Nat) (n : Node) (e : Error),
    render s levels n = .error e ↔ e = .tooDeep maxLevels ∧ ∃ x, Exposed n levels x := by
  intro levels
  induction levels with
  | zero =>
    intro n e
    by_cases hopen : n.IsOpen
    · rw [render_bottom hopen]
      constructor
      · intro he
        cases he
        exact ⟨rfl, n, Exposed.here hopen⟩
      · rintro ⟨rfl, -⟩
        rfl
    · obtain ⟨t, ht⟩ := render_leaf s 0 hopen
      rw [ht]
      constructor
      · intro he
        cases he
      · rintro ⟨-, x, hx⟩
        exact absurd hx.top_isOpen hopen
  | succ levels ih =>
    intro n e
    by_cases hopen : n.IsOpen
    · -- the rule cannot fail the element, so it fails only where one of its children does
      have hrow := renderOnto_error_iff (fun c (_ : c ∈ n.children) e => ih c e) {} e
      have hmap : render s (levels + 1) n = .error e ↔
          renderOnto s levels {} n.children = .error e := by
        rw [render_element hopen]
        cases renderOnto s levels {} n.children <;> simp [Except.map]
      rw [hmap, hrow]
      refine and_congr_right fun _ => ⟨?_, ?_⟩
      · rintro ⟨c, hc, x, hx⟩
        exact ⟨x, hx.of_child hopen hc⟩
      · rintro ⟨x, hx⟩
        obtain ⟨c, hc, hx'⟩ := hx.succ_inv
        exact ⟨c, hc, x, hx'⟩
    · obtain ⟨t, ht⟩ := render_leaf s (levels + 1) hopen
      rw [ht]
      constructor
      · intro he
        cases he
      · rintro ⟨-, x, hx⟩
        exact absurd hx.top_isOpen hopen

end Convert

/-! ## The service -/

/-- An element is exposed 512 levels below the node, or further down. -/
def TooDeep (n : Node) : Prop := ∃ k e, 512 ≤ k ∧ Exposed n k e

theorem tooDeep_iff {n : Node} : TooDeep n ↔ ∃ e, Exposed n Convert.maxLevels e := by
  constructor
  · rintro ⟨k, e, hk, h⟩
    exact h.of_le hk
  · rintro ⟨e, h⟩
    exact ⟨512, e, le_rfl, h⟩

namespace Service

variable {s : Service} {source : Text}

theorem convertDocument_eq (s : Service) (d : Document) :
    s.convertDocument d =
      ((Convert.Setup.mk s.rules s.options (Email.detect d).isEmail).convert d.body).map fun t =>
        { markdown := finish s.options t,
          metadata := Metadata.ofDocument d (Email.detect d) s.options } := by
  unfold convertDocument
  simp only
  cases (Convert.Setup.mk s.rules s.options (Email.detect d).isEmail).convert d.body <;> rfl

/-- Converting a document fails if and only if its body is nested too deep. -/
theorem convertDocument_error_iff (s : Service) (d : Document) (e : Error) :
    s.convertDocument d = .error e ↔ e = .tooDeep Convert.maxLevels ∧ TooDeep d.body := by
  rw [tooDeep_iff, ← Convert.render_error_iff ⟨s.rules, s.options, (Email.detect d).isEmail⟩,
    ← Convert.convert_eq_render, convertDocument_eq]
  cases (Convert.Setup.mk s.rules s.options (Email.detect d).isEmail).convert d.body with
  | error e' =>
    change Except.error e' = Except.error e ↔ _
    simp
  | ok t =>
    constructor
    · intro h
      cases h
    · intro h
      cases h

theorem convert_blank (h : Text.isBlankText source = true) :
    s.convert source = .error (.invalidInput "HTML input is empty") := by
  unfold convert
  rw [if_pos h]

theorem convert_not_blank (h : Text.isBlankText source = false) :
    s.convert source =
      (s.convertDocument (Html.parse (prepare s.options source))).mapError
        Error.asConversion := by
  unfold convert
  rw [if_neg (by rw [h]; exact Bool.false_ne_true)]

theorem asConversion_tooDeep :
    Error.asConversion (.tooDeep Convert.maxLevels) =
      .conversion "Document nesting exceeds 512 levels" := by
  decide

/-- **The outcome of a conversion**, as the source and its document decide it. -/
theorem convert_outcome (s : Service) (source : Text) :
    (Text.trim source = [] ∧ s.convert source = .error (.invalidInput "HTML input is empty")) ∨
    (Text.trim source ≠ [] ∧ TooDeep (Html.parse (prepare s.options source)).body ∧
      s.convert source = .error (.conversion "Document nesting exceeds 512 levels")) ∨
    (Text.trim source ≠ [] ∧ ¬ TooDeep (Html.parse (prepare s.options source)).body ∧
      ∃ c, s.convert source = .ok c) := by
  cases hb : Text.isBlankText source with
  | true => exact Or.inl ⟨Text.trim_eq_nil_iff.2 hb, convert_blank hb⟩
  | false =>
    have hne : Text.trim source ≠ [] := by
      rw [Ne, Text.trim_eq_nil_iff, hb]
      exact Bool.false_ne_true
    have hiff := convertDocument_error_iff s (Html.parse (prepare s.options source))
    refine Or.inr ?_
    rw [convert_not_blank hb]
    by_cases hdeep : TooDeep (Html.parse (prepare s.options source)).body
    · refine Or.inl ⟨hne, hdeep, ?_⟩
      rw [(hiff _).2 ⟨rfl, hdeep⟩, ← asConversion_tooDeep]
      rfl
    · refine Or.inr ⟨hne, hdeep, ?_⟩
      cases hd : s.convertDocument (Html.parse (prepare s.options source)) with
      | error e => exact absurd ((hiff e).1 hd).2 hdeep
      | ok c => exact ⟨c, rfl⟩

/-- **Errors are classified exactly**, whatever the rules of the caller return: a blank source is
invalid input; of the others those fail whose document is nested too deep where nothing hides it,
with that reason; all others are converted. No other error reaches the caller. -/
theorem convert_classified (s : Service) (source : Text) :
    (s.convert source = .error (.invalidInput "HTML input is empty") ↔ Text.trim source = []) ∧
    (s.convert source = .error (.conversion "Document nesting exceeds 512 levels") ↔
      Text.trim source ≠ [] ∧ TooDeep (Html.parse (prepare s.options source)).body) ∧
    ((∃ c, s.convert source = .ok c) ↔
      Text.trim source ≠ [] ∧ ¬ TooDeep (Html.parse (prepare s.options source)).body) ∧
    ∀ e, s.convert source = .error e →
      e = .invalidInput "HTML input is empty" ∨
        e = .conversion "Document nesting exceeds 512 levels" := by
  rcases convert_outcome s source with ⟨h, hc⟩ | ⟨h, hdeep, hc⟩ | ⟨h, hdeep, c, hc⟩
  · rw [hc]
    simp [h]
  · rw [hc]
    simp [h, hdeep]
  · rw [hc]
    simp [h, hdeep]

end Service

end HtmlMarkdown
