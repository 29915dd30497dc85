import HtmlMarkdown.Proofs.Markdown.Lines
import Mathlib.Data.List.Chain

/-!
# Blank lines in a row

The lines that a line break ends are the `closedLines` of a text; those that stand between two line
breaks are its `innerLines`. Lines stand in a row between line breaks where the text has them in a
row, each with its break (`broken_infix_iff`). So

* three line breaks in a row are two empty inner lines in a row (`feeds_infix_iff`);
* a line break with two lines of spaces and tabs behind it is two such inner lines in a row
  (`hasBlankRow_iff`).
-/

namespace HtmlMarkdown.Markdown

open Text

variable {c : Char} {t u l : Text} {ls : List Text}

/-! ## Lines that have ended -/

/-- **The lines of a text that a line break ends.** -/
def closedLines (t : Text) : List Text := (linesOf t).dropLast

/-- **The lines of a text between two line breaks.** -/
def innerLines (t : Text) : List Text := (closedLines t).tail

@[simp] theorem closedLines_nil : closedLines [] = [] := rfl

theorem closedLines_append_feed (t u : Text) :
    closedLines (t ++ '\n' :: u) = linesOf t ++ closedLines u := by
  unfold closedLines
  rw [linesOf_append_feed, List.dropLast_append_of_ne_nil (linesOf_ne_nil u)]

theorem closedLines_feed (t : Text) : closedLines ('\n' :: t) = [] :: closedLines t :=
  closedLines_append_feed [] t

theorem closedLines_cons (h : c ≠ '\n') (t : Text) :
    closedLines (c :: t) = (closedLines t).modifyHead (c :: ·) := by
  unfold closedLines
  rw [linesOf_cons, if_neg h]
  rcases linesOf t with - | ⟨l, - | ⟨l', ls⟩⟩ <;> rfl

theorem innerLines_append_feed (t u : Text) :
    innerLines (t ++ '\n' :: u) = (linesOf t).tail ++ closedLines u := by
  unfold innerLines
  rw [closedLines_append_feed, List.tail_append_of_ne_nil (linesOf_ne_nil t)]

@[simp] theorem innerLines_feed (t : Text) : innerLines ('\n' :: t) = closedLines t := by
  rw [innerLines, closedLines_feed, List.tail_cons]

theorem innerLines_cons (h : c ≠ '\n') (t : Text) : innerLines (c :: t) = innerLines t := by
  rw [innerLines, closedLines_cons h, innerLines]
  cases closedLines t <;> rfl

/-- The lines that have ended stay what they are, whatever follows. -/
theorem closedLines_append : ∀ t u : Text, closedLines t <+: closedLines (t ++ u) := by
  intro t u
  induction t with
  | nil => exact List.nil_prefix
  | cons c cs ih =>
    rw [List.cons_append]
    by_cases hc : c = '\n'
    · rw [hc, closedLines_feed, closedLines_feed]
      exact (List.prefix_cons_inj []).2 ih
    · rw [closedLines_cons hc, closedLines_cons hc]
      obtain ⟨ls, hls⟩ := ih
      rw [← hls]
      cases closedLines cs with
      | nil => exact List.nil_prefix
      | cons l rest => exact List.prefix_append ((c :: l) :: rest) ls

theorem innerLines_mono (h : u <+: t) : innerLines u <+: innerLines t := by
  obtain ⟨v, rfl⟩ := h
  obtain ⟨ls, hls⟩ := closedLines_append u v
  unfold innerLines
  rw [← hls]
  cases closedLines u with
  | nil => exact List.nil_prefix
  | cons l rest => exact List.prefix_append rest ls

theorem innerLines_dropFeeds (t : Text) :
    innerLines (t.dropWhile (· == '\n')) <:+ innerLines t := by
  induction t with
  | nil => exact List.suffix_rfl
  | cons c cs ih =>
    rw [List.dropWhile_cons]
    split
    · rename_i hc
      rw [eq_of_beq hc, innerLines_feed]
      exact ih.trans (List.tail_suffix _)
    · exact List.suffix_rfl

/-- Lines that have all ended. -/
def ended (ls : List Text) : Text := ls.flatMap (· ++ ['\n'])

theorem closedLines_ended (h : ∀ l ∈ ls, '\n' ∉ l) (t : Text) :
    closedLines (ended ls ++ t) = ls ++ closedLines t := by
  induction ls with
  | nil => rfl
  | cons l ls ih =>
    have hsplit : ended (l :: ls) ++ t = l ++ '\n' :: (ended ls ++ t) := by simp [ended]
    rw [hsplit, closedLines_append_feed, linesOf_line (h l List.mem_cons_self),
      ih fun l' hl' => h l' (List.mem_cons_of_mem _ hl')]
    rfl

theorem ended_closedLines_isPrefix (t : Text) : ended (closedLines t) <+: t := by
  unfold ended
  induction t with
  | nil => exact List.nil_prefix
  | cons c cs ih =>
    by_cases hc : c = '\n'
    · rw [hc, closedLines_feed]
      exact (List.prefix_cons_inj _).2 ih
    · rw [closedLines_cons hc]
      cases hclosed : closedLines cs with
      | nil => exact List.nil_prefix
      | cons l ls =>
        rw [hclosed] at ih
        exact (List.prefix_cons_inj c).2 ih

theorem ended_prefix_iff (h : ∀ l ∈ ls, '\n' ∉ l) (t : Text) :
    ended ls <+: t ↔ ls <+: closedLines t := by
  constructor
  · rintro ⟨u, rfl⟩
    rw [closedLines_ended h]
    exact List.prefix_append ls _
  · rintro ⟨rest, hrest⟩
    have hall := ended_closedLines_isPrefix t
    rw [← hrest, ended, List.flatMap_append] at hall
    exact (List.prefix_append _ _).trans hall

/-- **Lines that have ended, behind a line break**, are lines between line breaks. -/
theorem broken_infix_iff (h : ∀ l ∈ ls, '\n' ∉ l) (hne : ls ≠ []) (t : Text) :
    '\n' :: ended ls <:+: t ↔ ls <:+: innerLines t := by
  induction t with
  | nil => exact iff_of_false (by simp) (by simpa [innerLines] using hne)
  | cons c cs ih =>
    rw [List.infix_cons_iff, ih]
    by_cases hc : c = '\n'
    · rw [hc, innerLines_feed, List.prefix_cons_inj, ended_prefix_iff h, innerLines]
      cases closedLines cs with
      | nil => simp
      | cons l rest => exact List.infix_cons_iff.symm
    · rw [innerLines_cons hc]
      refine or_iff_right ?_
      rintro ⟨u, hu⟩
      exact hc (List.cons.inj hu).1.symm

/-! ## Two lines in a row -/

/-- Is the line made of spaces and tabs? -/
def isSpaces (line : Text) : Bool := line.all isInlineSpace

/-- Not both of two lines are empty. -/
def NotBothEmpty (a b : Text) : Prop := ¬ (a = [] ∧ b = [])

/-- Not both of two lines are made of spaces and tabs. -/
def NotBothSpaces (a b : Text) : Prop := ¬ (isSpaces a = true ∧ isSpaces b = true)

/-- Not both of two lines are blank. -/
def NotBothBlank (a b : Text) : Prop := ¬ (isBlankText a = true ∧ isBlankText b = true)

/-- What is no chain has two neighbours that do not go together. -/
theorem not_isChain_iff {α : Type} {R : α → α → Prop} {l : List α} :
    ¬ l.IsChain R ↔ ∃ a b, ¬ R a b ∧ [a, b] <:+: l := by
  rw [List.isChain_iff_forall_rel_of_append_cons_cons]
  push Not
  constructor
  · rintro ⟨a, b, l₁, l₂, hl, hab⟩
    exact ⟨a, b, hab, l₁, l₂, by simp [hl]⟩
  · rintro ⟨a, b, hab, l₁, l₂, hl⟩
    exact ⟨a, b, l₁, l₂, by simp [← hl], hab⟩

/-- **Three line breaks in a row** are two empty lines in a row between line breaks. -/
theorem feeds_infix_iff (t : Text) :
    ['\n', '\n', '\n'] <:+: t ↔ ¬ (innerLines t).IsChain NotBothEmpty := by
  have hfeeds : ['\n', '\n', '\n'] = '\n' :: ended [[], []] := rfl
  rw [hfeeds, broken_infix_iff (by simp) (by simp), not_isChain_iff]
  simp [NotBothEmpty]

/-- Is there a line break with two or more lines of spaces and tabs behind it, each of them ended
by a line break? -/
def HasBlankRow (t : Text) : Prop :=
  ∃ a b, isSpaces a = true ∧ isSpaces b = true ∧ '\n' :: (a ++ '\n' :: (b ++ ['\n'])) <:+: t

theorem ne_feed_of_inlineSpace (h : isInlineSpace c = true) : c ≠ '\n' := by
  rintro rfl
  cases h

theorem feed_not_mem_of_isSpaces (h : isSpaces l = true) : '\n' ∉ l :=
  fun hmem => ne_feed_of_inlineSpace (List.all_eq_true.1 h _ hmem) rfl

theorem hasBlankRow_iff (t : Text) :
    HasBlankRow t ↔ ¬ (innerLines t).IsChain NotBothSpaces := by
  have hrow : ∀ a b : Text, isSpaces a = true → isSpaces b = true →
      ('\n' :: (a ++ '\n' :: (b ++ ['\n'])) <:+: t ↔ [a, b] <:+: innerLines t) := by
    intro a b ha hb
    have hended : a ++ '\n' :: (b ++ ['\n']) = ended [a, b] := by simp [ended]
    have hfeed : ∀ l ∈ [a, b], '\n' ∉ l := by
      simp [feed_not_mem_of_isSpaces ha, feed_not_mem_of_isSpaces hb]
    rw [hended, broken_infix_iff hfeed (List.cons_ne_nil a [b])]
  rw [not_isChain_iff]
  constructor
  · rintro ⟨a, b, ha, hb, hinfix⟩
    exact ⟨a, b, by simp [NotBothSpaces, ha, hb], (hrow a b ha hb).1 hinfix⟩
  · rintro ⟨a, b, hboth, hinfix⟩
    obtain ⟨ha, hb⟩ := not_not.1 hboth
    exact ⟨a, b, ha, hb, (hrow a b ha hb).2 hinfix⟩

end HtmlMarkdown.Markdown
