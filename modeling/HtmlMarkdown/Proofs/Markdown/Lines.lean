import HtmlMarkdown.Proofs.Markdown.LineStart
import HtmlMarkdown.Proofs.Text.Edges
import Mathlib.Data.List.Infix

/-!
# Filled lines

The blank lines of a text come and go while it is put together; the others are its filled lines
(`filled`). They are cut where texts meet at a line break (`filled_append_of_ends`,
`filled_append_of_opens`), and stay as they are where a text is trimmed whose filled lines are
visible at the edges (`filled_trim`, `filled_separated`).
-/

namespace HtmlMarkdown.Markdown

open Text

variable {c : Char} {t u l : Text} {ls : List Text}

/-! ## What stands before -/

/-- The elements of a list, each with the elements before it. -/
def withBefore {α : Type} (l : List α) : List (List α × α) := l.inits.zip l

theorem withBefore_cons {α : Type} (a : α) (l : List α) :
    withBefore (a :: l) = ([], a) :: (withBefore l).map fun p => (a :: p.1, p.2) := by
  unfold withBefore
  rw [List.inits_cons, List.zip_cons_cons, List.zip_map_left]
  rfl

theorem length_withBefore {α : Type} (l : List α) : (withBefore l).length = l.length := by
  unfold withBefore
  rw [List.length_zip, List.length_inits]
  omega

/-! ## Lines -/

theorem linesOf_ne_nil (t : Text) : linesOf t ≠ [] := by
  unfold linesOf
  rw [splitOn_eq]
  exact List.splitOnP_ne_nil _ _

theorem linesOf_append_feed (t u : Text) : linesOf (t ++ '\n' :: u) = linesOf t ++ linesOf u := by
  unfold linesOf
  rw [splitOn_eq, splitOn_eq, splitOn_eq]
  exact List.splitOnP_append_cons _ _ (by decide)

theorem linesOf_feed (t : Text) : linesOf ('\n' :: t) = [] :: linesOf t := by
  rw [linesOf_cons, if_pos rfl]

/-- A text without a line break is a line. -/
theorem linesOf_line (h : '\n' ∉ t) : linesOf t = [t] := by
  unfold linesOf
  rw [splitOn_eq]
  refine List.splitOnP_eq_singleton fun c hc => ?_
  rw [beq_eq_false_iff_ne]
  rintro rfl
  exact h hc

theorem feed_not_mem_of_mem_linesOf (h : l ∈ linesOf t) : '\n' ∉ l := by
  intro hmem
  have hfeed := (mem_of_mem_splitOn h '\n' hmem).2
  cases hfeed

/-- Lines that are put together are the lines of the text. -/
theorem linesOf_joinLines (hne : ls ≠ []) (h : ∀ l ∈ ls, '\n' ∉ l) :
    linesOf (joinLines ls) = ls := by
  unfold linesOf joinLines
  rw [splitOn_eq]
  exact List.splitOn_intercalate '\n' h hne

/-- A text is its lines put together, so the lines tell texts apart. -/
theorem joinLines_linesOf (t : Text) : joinLines (linesOf t) = t := joinLines_splitOn t

theorem eq_of_linesOf (h : linesOf t = linesOf u) : t = u := by
  rw [← joinLines_linesOf t, h, joinLines_linesOf]

/-- A text is cut into lines by a last one and those before it. -/
theorem lines_eq (t : Text) : ∃ before last, linesOf t = before ++ [last] ∧
    lines t = before.map chopReturn ++ if last = [] then [] else [last] := by
  obtain ⟨before, last, hlines⟩ :=
    (List.eq_nil_or_concat (linesOf t)).resolve_left (linesOf_ne_nil t)
  refine ⟨before, last, by simpa using hlines, ?_⟩
  unfold linesOf at hlines
  unfold lines
  rw [hlines]
  cases last <;> simp

/-- There is no line break within a line. -/
theorem feed_not_mem_of_mem_lines (h : l ∈ lines t) : '\n' ∉ l := by
  obtain ⟨before, last, hlines, heq⟩ := lines_eq t
  rw [heq, List.mem_append, List.mem_map] at h
  rcases h with ⟨l', hl', rfl⟩ | h
  · have hfeed : '\n' ∉ l' := feed_not_mem_of_mem_linesOf (t := t) (by rw [hlines]; simp [hl'])
    unfold chopReturn
    split
    · exact fun hmem => hfeed (List.dropLast_subset _ hmem)
    · exact hfeed
  · split at h
    · cases h
    · rw [List.mem_singleton.1 h]
      exact feed_not_mem_of_mem_linesOf (t := t) (by rw [hlines]; simp)

/-- What stands before the first line break belongs to the first line. -/
theorem linesOf_append_line : ∀ {u : Text}, '\n' ∉ u → ∀ t : Text,
    linesOf (u ++ t) = (linesOf t).modifyHead (u ++ ·) := by
  intro u
  induction u with
  | nil =>
    intro _ t
    have hid : (linesOf t).modifyHead (fun l => [] ++ l) = linesOf t := by
      cases linesOf t <;> rfl
    rw [List.nil_append, hid]
  | cons c cs ih =>
    intro h t
    rw [List.mem_cons, not_or] at h
    rw [List.cons_append, linesOf_cons, if_neg fun e => h.1 e.symm, ih h.2,
      List.modifyHead_modifyHead]
    rfl

/-- A text that is empty or ends its last line. -/
def Ends (t : Text) : Prop := t = [] ∨ ∃ u, t = u ++ ['\n']

/-- A text that is empty or starts with a line break. -/
def Opens (t : Text) : Prop := t = [] ∨ ∃ u, t = '\n' :: u

/-- A text is what ends its last line but one, and its last line. -/
theorem exists_last_line (t : Text) : ∃ y l, t = y ++ l ∧ Ends y ∧ '\n' ∉ l := by
  induction t using List.reverseRecOn with
  | nil => exact ⟨[], [], rfl, Or.inl rfl, List.not_mem_nil⟩
  | append_singleton cs c ih =>
    by_cases hc : c = '\n'
    · rw [hc]
      exact ⟨_, [], (List.append_nil _).symm, Or.inr ⟨cs, rfl⟩, List.not_mem_nil⟩
    · obtain ⟨y, l, rfl, hy, hl⟩ := ih
      refine ⟨y, l ++ [c], List.append_assoc .., hy, ?_⟩
      rw [List.mem_append, List.mem_singleton, not_or]
      exact ⟨hl, fun e => hc e.symm⟩

/-! ## Filled lines -/

/-- Can something be seen in the line? -/
def isFilled (line : Text) : Bool := !isBlankText line

/-- **The lines of a text that are not blank.** -/
def filled (t : Text) : List Text := (linesOf t).filter isFilled

theorem isFilled_iff : isFilled l = true ↔ isBlankText l = false := by
  unfold isFilled
  rw [Bool.not_eq_true']

theorem isFilled_of_starts (h : startsVisible l = true) : isFilled l = true := by
  rw [isFilled_iff, ← Bool.not_eq_true]
  intro hblank
  cases l with
  | nil => cases h
  | cons c cs =>
    rw [startsVisible_cons, List.all_eq_true.1 hblank c List.mem_cons_self] at h
    cases h

theorem isFilled_cons_blank (h : isBlank c = true) (l : Text) : isFilled (c :: l) = isFilled l := by
  unfold isFilled isBlankText
  rw [List.all_cons, h, Bool.true_and]

theorem isFilled_append_blank (h : isBlankText u = true) (l : Text) :
    isFilled (u ++ l) = isFilled l := by
  unfold isFilled isBlankText at *
  rw [List.all_append, h, Bool.true_and]

@[simp] theorem filled_nil : filled [] = [] := rfl

theorem filled_eq_nil_iff : filled t = [] ↔ isBlankText t = true := by
  have hlines : (linesOf t).all isBlankText = isBlankText t := by
    induction t with
    | nil => rfl
    | cons c cs ih =>
      unfold isBlankText at ih ⊢
      rw [linesOf_cons, List.all_cons, ← ih]
      split
      · rename_i hc
        rw [hc]
        rfl
      · cases hrest : linesOf cs with
        | nil => exact absurd hrest (linesOf_ne_nil cs)
        | cons l ls => exact Bool.and_assoc _ _ _
  unfold filled
  rw [← hlines, List.filter_eq_nil_iff, List.all_eq_true]
  simp [isFilled]

theorem filled_append_feed (t u : Text) : filled (t ++ '\n' :: u) = filled t ++ filled u := by
  unfold filled
  rw [linesOf_append_feed, List.filter_append]

@[simp] theorem filled_feed (t : Text) : filled ('\n' :: t) = filled t := filled_append_feed [] t

theorem filled_concat_feed (t : Text) : filled (t ++ ['\n']) = filled t := by
  rw [filled_append_feed, filled_nil, List.append_nil]

theorem filled_line (h : '\n' ∉ t) : filled t = if isBlankText t then [] else [t] := by
  unfold filled
  rw [linesOf_line h, List.filter_cons, List.filter_nil]
  unfold isFilled
  cases isBlankText t <;> rfl

/-- **Behind a line that has ended** other lines begin. -/
theorem filled_append_of_ends (h : Ends t) (u : Text) : filled (t ++ u) = filled t ++ filled u := by
  rcases h with rfl | ⟨v, rfl⟩
  · rfl
  · rw [List.append_assoc, List.singleton_append, filled_append_feed, filled_concat_feed]

theorem filled_append_of_opens (h : Opens u) (t : Text) :
    filled (t ++ u) = filled t ++ filled u := by
  rcases h with rfl | ⟨v, rfl⟩
  · rw [List.append_nil, filled_nil, List.append_nil]
  · rw [filled_append_feed, filled_feed]

/-- A text that starts visibly has a filled first line. -/
theorem linesOf_of_starts (h : startsVisible t = true) :
    ∃ first ls, linesOf t = first :: ls ∧ filled t = first :: ls.filter isFilled := by
  cases t with
  | nil => cases h
  | cons c cs =>
    have hc : c ≠ '\n' := by
      rintro rfl
      cases h
    cases hlines : linesOf cs with
    | nil => exact absurd hlines (linesOf_ne_nil cs)
    | cons l ls =>
      have hall : linesOf (c :: cs) = (c :: l) :: ls := by
        rw [linesOf_cons, if_neg hc, hlines]
        rfl
      refine ⟨c :: l, ls, hall, ?_⟩
      unfold filled
      rw [hall, List.filter_cons_of_pos (isFilled_of_starts (by simpa using h))]

/-! ## Trimming -/

theorem filled_trimStart : ∀ {t : Text}, (∀ l, (filled t).head? = some l → startsVisible l = true) →
    filled (trimStart t) = filled t := by
  intro t
  induction t with
  | nil => intro _; rfl
  | cons c cs ih =>
    intro h
    cases hc : isBlank c with
    | false => rw [trimStart_of_starts (by simp [hc])]
    | true =>
      rw [trimStart_cons_blank hc]
      by_cases hfeed : c = '\n'
      · rw [hfeed, filled_feed] at h ⊢
        exact ih h
      · -- the blank character starts a line, which is blank, since no filled one starts so
        cases hlines : linesOf cs with
        | nil => exact absurd hlines (linesOf_ne_nil cs)
        | cons l ls =>
          have hall : filled (c :: cs) =
              if isFilled l then (c :: l) :: ls.filter isFilled else ls.filter isFilled := by
            unfold filled
            rw [linesOf_cons, if_neg hfeed, hlines, List.modifyHead_cons, List.filter_cons,
              isFilled_cons_blank hc]
          cases hl : isFilled l with
          | true =>
            rw [hall, hl, if_pos rfl] at h
            have hstart := h (c :: l) rfl
            rw [startsVisible_cons, hc] at hstart
            cases hstart
          | false =>
            have hrest : filled cs = ls.filter isFilled := by
              unfold filled
              rw [hlines, List.filter_cons, hl, if_neg Bool.false_ne_true]
            rw [hall, hl, if_neg Bool.false_ne_true, ← hrest] at h ⊢
            exact ih h

theorem filled_trimEnd : ∀ {t : Text}, (∀ l ∈ filled t, endsVisible l = true) →
    filled (trimEnd t) = filled t := by
  intro t
  induction t using List.reverseRecOn with
  | nil => intro _; rfl
  | append_singleton cs c ih =>
    intro h
    cases hc : isBlank c with
    | false => rw [trimEnd_append_visible hc]
    | true =>
      rw [trimEnd_append_blank hc]
      by_cases hfeed : c = '\n'
      · rw [hfeed, filled_concat_feed] at h ⊢
        exact ih h
      · obtain ⟨y, l, rfl, hy, hl⟩ := exists_last_line cs
        have hl' : '\n' ∉ l ++ [c] := by
          rw [List.mem_append, List.mem_singleton, not_or]
          exact ⟨hl, fun e => hfeed e.symm⟩
        have hlast : isBlankText (l ++ [c]) = isBlankText l := by
          unfold isBlankText
          rw [List.all_append, List.all_cons, hc, List.all_nil, Bool.and_self, Bool.and_true]
        rw [List.append_assoc, filled_append_of_ends hy, filled_line hl', hlast] at h ⊢
        -- a blank last line is trimmed away, and a filled one ends visibly
        cases hblank : isBlankText l with
        | true =>
          have hsame : filled (y ++ l) = filled y := by
            rw [filled_append_of_ends hy, filled_line hl, hblank, if_pos rfl, List.append_nil]
          rw [hblank, if_pos rfl, List.append_nil, ← hsame] at h
          rw [if_pos rfl, List.append_nil, ← hsame]
          exact ih h
        | false =>
          rw [hblank, if_neg Bool.false_ne_true] at h
          have hend := h (l ++ [c]) (by simp)
          rw [endsVisible_concat, hc] at hend
          cases hend

/-- **Trimming keeps the filled lines** if none of them is trimmed itself. -/
theorem filled_trim (hstart : ∀ l, (filled t).head? = some l → startsVisible l = true)
    (hend : ∀ l ∈ filled t, endsVisible l = true) : filled (trim t) = filled t := by
  have hsame := filled_trimStart hstart
  unfold trim
  rw [filled_trimEnd (by rwa [hsame]), hsame]

/-- **So does a blank line on either side.** -/
theorem filled_separated (hstart : ∀ l, (filled t).head? = some l → startsVisible l = true)
    (hend : ∀ l ∈ filled t, endsVisible l = true) : filled (separated t) = filled t := by
  have htrim := filled_trim hstart hend
  unfold separated wrap
  simp only
  split
  · rename_i hempty
    rw [← htrim, List.isEmpty_iff.1 hempty]
  · rw [List.append_assoc, List.singleton_append, filled_feed, filled_append_feed, filled_feed,
      filled_nil, List.append_nil, htrim]

theorem opens_separated (t : Text) : Opens (separated t) := by
  unfold separated wrap
  simp only
  split
  · exact Or.inl rfl
  · exact Or.inr ⟨_, rfl⟩

theorem ends_separated (t : Text) : Ends (separated t) := by
  unfold separated wrap
  simp only
  split
  · exact Or.inl rfl
  · exact Or.inr ⟨_, (List.append_assoc _ ['\n'] ['\n']).symm⟩

/-- Dropping the line breaks at the start leaves what can be seen. -/
theorem isBlankText_dropFeeds (t : Text) :
    isBlankText (t.dropWhile (· == '\n')) = isBlankText t := by
  induction t with
  | nil => rfl
  | cons c cs ih =>
    rw [List.dropWhile_cons]
    split
    · rename_i hc
      rw [ih, eq_of_beq hc]
      rfl
    · rfl

end HtmlMarkdown.Markdown
