import HtmlMarkdown.Proofs.Text.Collapse
import HtmlMarkdown.Table

/-!
# The text of a cell

A cell is to show its text: its texts as they are, bold, italic and code text trimmed and between
delimiters, and the text of any other element as it is (`fullText`). But a table trims the text of
those other elements as well (`plainText`). What can be seen of a cell is the same on both sides,
and so is the blank space within a child. Between two children it may be gone: nothing is put in for
what is trimmed.

* `given`: what a child gives to the text of its cell.
* `RunsOn`: blank space between two children of a cell is trimmed, and words run together.
* `plainText_eq_fullText_iff`: **a cell shows its text exactly if it does not run on.**
-/

namespace HtmlMarkdown.Table

open Text

variable {o : Options} {before : List Node} {c n : Node}

/-! ## What is shown, and what is to be shown -/

/-- The delimiter of an element that keeps its form in a cell. -/
def mark? (o : Options) (tag : String) : Option Text :=
  if tag ∈ ["b", "strong"] then some o.strongDelimiter
  else if tag ∈ ["i", "em"] then some o.emDelimiter
  else if tag = "code" then some ['\x60']
  else none

/-- **What a child gives to the text of its cell**: a text gives itself, a comment nothing, and an
element its text. That is trimmed and put between delimiters if the element keeps its form, and
otherwise `rest` is made of it; a blank one stays as it is. -/
def given (o : Options) (rest : Text → Text) (child : Node) : Text :=
  match child.data with
  | .text t => t
  | .comment _ => []
  | .element tag _ =>
    if isBlankText child.text then child.text
    else
      match mark? o tag with
      | some mark => mark ++ (trim child.text ++ mark)
      | none => rest child.text

/-- **The text of a cell**, on one line: bold, italic and code text has its delimiters, and any
other element gives its text as it is. -/
def fullText (o : Options) (cell : Node) : Text :=
  trim (collapse (cell.children.flatMap (given o id)))

/-- The text that a table shows of a cell: every element is trimmed, unless it is blank. -/
def plainText (o : Options) (cell : Node) : Text :=
  trim (collapse (cell.children.flatMap (given o trim)))

/-- An element that has something to see and does not keep its form. -/
structure IsPlain (o : Options) (n : Node) : Prop where
  isElement : n.isElement = true
  mark_eq : mark? o n.tag = none
  shown : isBlankText n.text = false

/-- **The one child runs into the other**: what the one shows ends visibly and what the other shows
starts visibly, but blank space is trimmed there, from a plain element. -/
structure RunsInto (o : Options) (u c : Node) : Prop where
  left : endsVisible (given o trim u) = true
  right : startsVisible (given o trim c) = true
  trimmed : (IsPlain o u ∧ endsBlank u.text = true) ∨ (IsPlain o c ∧ startsBlank c.text = true)

/-- What stands before a child runs into it: the last one of those that give something. -/
def RunsOnto (o : Options) (before : List Node) (c : Node) : Prop :=
  ∃ front u between, before = front ++ u :: between ∧ (∀ b ∈ between, given o trim b = []) ∧
    RunsInto o u c

/-- **The cell runs on**: a child runs into another, and nothing is given between them. -/
def RunsOn (o : Options) (cell : Node) : Prop :=
  ∃ before c after, cell.children = before ++ c :: after ∧ RunsOnto o before c

theorem delimiter_eq (o : Options) (tag : String) : delimiter o tag = (mark? o tag).getD [] := by
  unfold delimiter mark?
  rw [apply_ite (Option.getD · []), apply_ite (Option.getD · []), apply_ite (Option.getD · [])]
  simp

/-- **What a table takes of a child.** -/
theorem childText_eq_given (o : Options) : childText o = given o trim := by
  funext c
  unfold childText given
  cases hd : c.data with
  | text t => rfl
  | comment t => rfl
  | element tag attributes =>
    have hblank : (trim c.text).isEmpty = isBlankText c.text := by
      rw [Bool.eq_iff_iff, List.isEmpty_iff, trim_eq_nil_iff]
    simp only [hblank, delimiter_eq]
    split
    · rfl
    · cases mark? o tag with
      | none => simp
      | some mark => simp

/-! ## A child -/

theorem IsPlain.given_eq (h : IsPlain o n) (rest : Text → Text) :
    given o rest n = rest n.text := by
  have he := h.isElement
  have hmark := h.mark_eq
  unfold Node.isElement at he
  unfold Node.tag at hmark
  unfold given
  cases hd : n.data with
  | text t => simp [hd] at he
  | comment t => simp [hd] at he
  | element tag attributes =>
    simp only [hd] at hmark
    simp [hmark, h.shown]

/-- Only the text of a plain element is in question. -/
theorem given_of_not_plain (h : ¬ IsPlain o n) (rest rest' : Text → Text) :
    given o rest n = given o rest' n := by
  unfold given
  cases hd : n.data with
  | text t => rfl
  | comment t => rfl
  | element tag attributes =>
    cases hblank : isBlankText n.text with
    | true => rfl
    | false =>
      simp only [Bool.false_eq_true, if_false]
      cases hmark : mark? o tag with
      | some mark => rfl
      | none =>
        refine absurd ⟨?_, ?_, hblank⟩ h
        · rw [Node.isElement, hd]
        · rw [Node.tag, hd]
          exact hmark

theorem words_given (o : Options) (n : Node) : words (given o trim n) = words (given o id n) := by
  by_cases h : IsPlain o n
  · rw [h.given_eq, h.given_eq]
    exact words_trim _
  · rw [given_of_not_plain h trim id]

theorem visible_given (o : Options) (n : Node) :
    visible (given o trim n) = visible (given o id n) := by
  rw [← flatten_words, ← flatten_words, words_given]

/-- What a plain element shows is visible at both ends, and its text may be blank there. -/
theorem IsPlain.edges (h : IsPlain o n) :
    (startsVisible (given o trim n) = true ∧ endsVisible (given o trim n) = true) ∧
      startsVisible (given o id n) = !startsBlank n.text ∧
      endsVisible (given o id n) = !endsBlank n.text := by
  have hne : n.text.isEmpty = false := by
    refine Bool.eq_false_iff.2 fun hempty => ?_
    have hshown := h.shown
    rw [List.isEmpty_iff.1 hempty] at hshown
    cases hshown
  rw [h.given_eq, h.given_eq, id, startsVisible_eq n.text, endsVisible_eq n.text, hne]
  refine ⟨(trim_edges n.text).resolve_left fun hnil => ?_, rfl, rfl⟩
  rw [trim_eq_nil_iff, h.shown] at hnil
  cases hnil

/-- A text ends visibly exactly if what is shown of it does and no blank space is trimmed there. -/
theorem ends_given_iff : endsVisible (given o id n) = true ↔
    endsVisible (given o trim n) = true ∧ ¬ (IsPlain o n ∧ endsBlank n.text = true) := by
  by_cases h : IsPlain o n
  · rw [h.edges.1.2, h.edges.2.2]
    simp [h]
  · rw [given_of_not_plain h id trim]
    simp [h]

theorem starts_given_iff : startsVisible (given o id n) = true ↔
    startsVisible (given o trim n) = true ∧ ¬ (IsPlain o n ∧ startsBlank n.text = true) := by
  by_cases h : IsPlain o n
  · rw [h.edges.1.1, h.edges.2.1]
    simp [h]
  · rw [given_of_not_plain h id trim]
    simp [h]

theorem given_eq_nil_iff : given o id n = [] ↔ given o trim n = [] := by
  by_cases h : IsPlain o n
  · refine iff_of_false (fun hnil => ?_) (fun hnil => ?_)
    · have hshown := h.shown
      rw [h.given_eq, id] at hnil
      rw [hnil] at hshown
      cases hshown
    · have hstarts := h.edges.1.1
      rw [hnil] at hstarts
      cases hstarts
  · rw [given_of_not_plain h id trim]

/-! ## The children in a row -/

/-- The texts of some children meet that of the next one where the last that gives something
ends visibly. -/
theorem meets_given_iff {rest : Text → Text} :
    meets (before.flatMap (given o rest)) (given o rest c) = true ↔
      ∃ front u between, before = front ++ u :: between ∧ (∀ b ∈ between, given o rest b = []) ∧
        endsVisible (given o rest u) = true ∧ startsVisible (given o rest c) = true := by
  rw [meets, Bool.and_eq_true_iff, endsVisible_flatMap_iff]
  constructor
  · rintro ⟨⟨front, u, between, h, hends, hbetween⟩, hstarts⟩
    exact ⟨front, u, between, h, hbetween, hends, hstarts⟩
  · rintro ⟨front, u, between, h, hbetween, hends, hstarts⟩
    exact ⟨⟨front, u, between, h, hends, hbetween⟩, hstarts⟩

/-- Where texts meet they meet in what is shown of them. -/
theorem meets_given (h : meets (before.flatMap (given o id)) (given o id c) = true) :
    meets (before.flatMap (given o trim)) (given o trim c) = true := by
  obtain ⟨front, u, between, hbefore, hbetween, hends, hstarts⟩ := meets_given_iff.1 h
  exact meets_given_iff.2 ⟨front, u, between, hbefore,
    fun b hb => given_eq_nil_iff.1 (hbetween b hb), (ends_given_iff.1 hends).1,
    (starts_given_iff.1 hstarts).1⟩

/-- **At a seam** words run together exactly if what stands before the child runs into it. -/
theorem runsOnto_iff :
    (meets (before.flatMap (given o trim)) (given o trim c) = true ∧
      meets (before.flatMap (given o id)) (given o id c) = false) ↔ RunsOnto o before c := by
  constructor
  · rintro ⟨hmeets, hapart⟩
    obtain ⟨front, u, between, hbefore, hbetween, hends, hstarts⟩ := meets_given_iff.1 hmeets
    refine ⟨front, u, between, hbefore, hbetween, hends, hstarts, ?_⟩
    -- were nothing trimmed on either side, the full texts would meet as well
    by_contra hno
    obtain ⟨hleft, hright⟩ := not_or.1 hno
    rw [Bool.eq_false_iff] at hapart
    exact hapart (meets_given_iff.2 ⟨front, u, between, hbefore,
      fun b hb => given_eq_nil_iff.2 (hbetween b hb), ends_given_iff.2 ⟨hends, hleft⟩,
      starts_given_iff.2 ⟨hstarts, hright⟩⟩)
  · rintro ⟨front, u, between, rfl, hbetween, hruns⟩
    refine ⟨meets_given_iff.2 ⟨front, u, between, rfl, hbetween, hruns.left, hruns.right⟩, ?_⟩
    have hnil : between.flatMap (given o id) = [] :=
      List.flatMap_eq_nil_iff.2 fun b hb => given_eq_nil_iff.2 (hbetween b hb)
    have hne : given o id u ≠ [] := by
      intro h
      have hends := hruns.left
      rw [given_eq_nil_iff.1 h] at hends
      cases hends
    rw [meets, List.flatMap_append, List.flatMap_cons, hnil, List.append_nil,
      endsVisible_append _ hne, Bool.eq_false_iff, Ne, Bool.and_eq_true_iff, ends_given_iff,
      starts_given_iff]
    rintro ⟨⟨-, hleft⟩, -, hright⟩
    exact hruns.trimmed.elim hleft hright

/-- **The words of a cell** run together exactly where it runs on. -/
theorem children_joins (o : Options) (cell : Node) :
    Joins (RunsOn o cell) (cell.children.flatMap (given o trim))
      (cell.children.flatMap (given o id)) := by
  have hrow := Joins.flatMap (P := fun _ => False) (Q := RunsOnto o) (l := cell.children)
    (fun c _ => Or.inl ⟨words_given o c, id⟩) (fun _ _ _ _ => meets_given)
    (fun _ _ _ _ => runsOnto_iff)
  exact hrow.congr rfl rfl (by simp only [false_or, RunsOn])

/-- **When a cell shows its text.** -/
theorem plainText_eq_fullText_iff (o : Options) (cell : Node) :
    plainText o cell = fullText o cell ↔ ¬ RunsOn o cell := by
  rw [plainText, fullText, trim_collapse_eq_iff, (children_joins o cell).words_eq_iff]

/-- Whatever is trimmed, what can be seen of the text is there. -/
theorem visible_plainText (o : Options) (cell : Node) :
    visible (plainText o cell) = visible (fullText o cell) := by
  rw [plainText, fullText, visible_trim, visible_trim, visible_collapse, visible_collapse,
    visible_flatMap, visible_flatMap]
  exact List.flatMap_congr fun c _ => visible_given o c

end HtmlMarkdown.Table
