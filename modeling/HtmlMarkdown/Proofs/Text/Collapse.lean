import HtmlMarkdown.Proofs.Text.Edges

/-!
# Collapsed texts as a normal form

Collapsing reads a text from left to right and remembers one thing only: whether the last character
was blank. That is all that one part of a text means to the next, so two parts can be collapsed
first and put together afterwards (`collapse_append`).

What comes out is the words of the text with single spaces between them, and a space at either end
where there was blank space (`collapse_eq`). So a collapsed text is told by these alone.

* `collapse_eq_collapse_iff`: texts are collapsed to the same if and only if they have the same words
  and blank space at the same ends.
* `collapse_normal_form`: **collapsing is a normal form that respects concatenation.**
-/

namespace HtmlMarkdown.Text

variable {c : Char} {t u : Text} {ws : List Text}

/-! ## Two texts together -/

/-- Collapsing does not change what the last character was. -/
theorem blankBehind_collapseAfter (t : Text) (b : Bool) :
    blankBehind b (collapseAfter b t) = blankBehind b t := by
  induction t generalizing b with
  | nil => rfl
  | cons c cs ih =>
    have hspace : isBlank ' ' = true := by decide
    rw [collapseAfter, blankBehind_cons]
    cases hc : isBlank c <;> cases b <;> simp [blankBehind_cons, hc, hspace, ih]

/-- It does not matter whether a text was collapsed before, whatever stands in front of it. -/
theorem collapseAfter_collapse (t : Text) (b : Bool) :
    collapseAfter b (collapse t) = collapseAfter b t := by
  cases b with
  | false => exact collapse_collapse t
  | true => rw [← trimStart_collapse, collapse_collapse, trimStart_collapse]

/-- **Texts can be collapsed before they are put together.** -/
theorem collapse_append (t u : Text) : collapse (t ++ u) = collapse (collapse t ++ collapse u) := by
  have hbehind : blankBehind false (collapse t) = blankBehind false t :=
    blankBehind_collapseAfter t false
  calc collapse (t ++ u)
      = collapse t ++ collapseAfter (blankBehind false t) u := collapseAfter_append t u false
    _ = collapse (collapse t) ++ collapseAfter (blankBehind false (collapse t)) (collapse u) := by
      rw [collapse_collapse, hbehind, collapseAfter_collapse]
    _ = collapse (collapse t ++ collapse u) := (collapseAfter_append _ _ false).symm

/-! ## The ends -/

theorem startsBlank_collapse (t : Text) : startsBlank (collapse t) = startsBlank t := by
  cases t with
  | nil => rfl
  | cons c cs =>
    have hspace : isBlank ' ' = true := by decide
    unfold collapse collapseAfter startsBlank
    cases hc : isBlank c <;> simp [hc, hspace]

theorem endsBlank_eq (t : Text) : endsBlank t = (!t.isEmpty && !endsVisible t) := by
  cases t using List.reverseRecOn with
  | nil => rfl
  | append_singleton cs c => simp [endsBlank]

theorem endsBlank_collapse (t : Text) : endsBlank (collapse t) = endsBlank t := by
  have hempty : (collapse t).isEmpty = t.isEmpty := by
    rw [Bool.eq_iff_iff, List.isEmpty_iff, List.isEmpty_iff, collapse_eq_nil_iff]
  rw [endsBlank_eq, endsBlank_eq, endsVisible_collapse, hempty]

/-- **A collapsed text starts with a space if and only if the text starts with blank space.** -/
theorem head?_collapse (t : Text) : (collapse t).head? = some ' ' ↔ startsBlank t = true := by
  rw [← startsBlank_collapse, startsBlank, Option.any_eq_true]
  constructor
  · intro h
    exact ⟨' ', h, by decide⟩
  · rintro ⟨c, hc, hblank⟩
    rwa [← eq_space_of_mem_collapse (List.mem_of_head? hc) hblank]

/-- **And ends in one if and only if the text ends in blank space.** -/
theorem getLast?_collapse (t : Text) : (collapse t).getLast? = some ' ' ↔ endsBlank t = true := by
  rw [← endsBlank_collapse, endsBlank, Option.any_eq_true]
  constructor
  · intro h
    exact ⟨' ', h, by decide⟩
  · rintro ⟨c, hc, hblank⟩
    rwa [← eq_space_of_mem_collapse (List.mem_of_getLast? hc) hblank]

/-! ## The words -/

/-- Words with single spaces between them. -/
def spaced (ws : List Text) : Text := [' '].intercalate ws

theorem spaced_consWord (h : ws ≠ []) (c : Char) : spaced (consWord c ws) = c :: spaced ws := by
  cases ws with
  | nil => exact absurd rfl h
  | cons w ws => cases ws <;> simp [spaced, consWord]

theorem spaced_cons (h : ws ≠ []) (w : Text) : spaced (w :: ws) = w ++ ' ' :: spaced ws := by
  cases ws with
  | nil => exact absurd rfl h
  | cons v vs => simp [spaced, List.intercalate_cons_cons]

/-- A space, if one is due. -/
def spaceIf (b : Bool) : Text := if b then [' '] else []

theorem words_eq_nil_iff : words t = [] ↔ isBlankText t = true := by
  constructor
  · intro h
    rw [← visible_eq_nil_iff, ← flatten_words, h]
    rfl
  · intro h
    rw [← words_trim, trim_eq_nil_iff.2 h]
    rfl

/-- Is there blank space behind the last word? -/
def trails (t : Text) : Bool := endsBlank t && !isBlankText t

theorem trails_of_blank (h : isBlankText t = true) : trails t = false := by
  rw [trails, h, Bool.not_true, Bool.and_false]

theorem trails_cons_blank (h : isBlank c = true) (cs : Text) : trails (c :: cs) = trails cs := by
  have hall : isBlankText (c :: cs) = isBlankText cs := by simp [isBlankText, h]
  by_cases hcs : cs = []
  · rw [trails_of_blank (by rw [hall, hcs]; rfl), hcs]
    rfl
  · rw [trails, trails, hall, ← List.singleton_append, endsBlank_append _ hcs]

theorem trails_cons_visible (h : isBlank c = false) (cs : Text) :
    trails (c :: cs) = endsBlank cs := by
  have hall : isBlankText (c :: cs) = false := by simp [isBlankText, h]
  rw [trails, hall, Bool.not_false, Bool.and_true]
  by_cases hcs : cs = []
  · rw [hcs]
    exact h
  · exact endsBlank_append [c] hcs

/-- Behind a visible character the words of the rest follow at once, or behind a space. -/
theorem spaced_words_cons (h : isBlank c = false) (cs : Text) :
    spaced (words (c :: cs)) ++ spaceIf (endsBlank cs) =
      c :: (spaceIf (startsBlank cs) ++ spaced (words cs) ++ spaceIf (trails cs)) := by
  rw [words_cons_visible h]
  cases hstart : startsVisible cs with
  | true =>
    have hblank : startsBlank cs = false ∧ isBlankText cs = false := by
      cases cs with
      | nil => cases hstart
      | cons d ds =>
        have hd : isBlank d = false := by simpa using hstart
        exact ⟨hd, by simp [isBlankText, hd]⟩
    rw [if_pos rfl, spaced_consWord (words_ne_nil_of_starts hstart), trails, hblank.1, hblank.2]
    simp [spaceIf]
  | false =>
    rw [if_neg Bool.false_ne_true]
    by_cases hcs : cs = []
    · rw [hcs]
      rfl
    · have hblank : startsBlank cs = true := by
        rw [startsVisible_eq] at hstart
        simpa [hcs] using hstart
      by_cases hw : words cs = []
      · -- nothing but blank space is left, and it makes one space
        have hall := words_eq_nil_iff.1 hw
        have hends : endsBlank cs = true := by
          rw [endsBlank_eq, endsVisible_of_blank hall]
          simpa using hcs
        rw [hw, trails_of_blank hall, hblank, hends]
        simp [spaced, spaceIf]
      · have hall : isBlankText cs = false := by
          rw [← Bool.not_eq_true, ← words_eq_nil_iff]
          exact hw
        rw [spaced_cons hw, trails, hblank, hall]
        simp [spaceIf]

/-- **What collapsing makes of a text**, behind blank space or not: its words with single spaces
between them, and a space at either end where there is blank space. -/
theorem collapseAfter_eq (t : Text) (b : Bool) :
    collapseAfter b t =
      spaceIf (startsBlank t && !b) ++ spaced (words t) ++ spaceIf (trails t) := by
  induction t generalizing b with
  | nil => rfl
  | cons c cs ih =>
    unfold collapseAfter
    cases hc : isBlank c with
    | true =>
      have hstart : startsBlank (c :: cs) = true := hc
      have hrest : collapseAfter true cs = spaced (words cs) ++ spaceIf (trails cs) := by
        rw [ih, Bool.not_true, Bool.and_false]
        rfl
      rw [hrest, words_cons_blank hc, trails_cons_blank hc, hstart]
      cases b <;> rfl
    | false =>
      have hstart : startsBlank (c :: cs) = false := hc
      rw [if_neg Bool.false_ne_true, ih, trails_cons_visible hc, hstart, Bool.not_false,
        Bool.and_true, ← spaced_words_cons hc]
      rfl

theorem collapse_eq (t : Text) :
    collapse t = spaceIf (startsBlank t) ++ spaced (words t) ++ spaceIf (trails t) := by
  rw [collapse, collapseAfter_eq, Bool.not_false, Bool.and_true]

/-- **A collapsed text is told by its words and its ends.** -/
theorem collapse_eq_collapse_iff : collapse t = collapse u ↔
    words t = words u ∧ startsBlank t = startsBlank u ∧ endsBlank t = endsBlank u := by
  constructor
  · intro h
    rw [← words_collapse t, ← startsBlank_collapse t, ← endsBlank_collapse t, h, words_collapse,
      startsBlank_collapse, endsBlank_collapse]
    exact ⟨rfl, rfl, rfl⟩
  · rintro ⟨hw, hstart, hend⟩
    have hall : isBlankText t = isBlankText u := by
      rw [Bool.eq_iff_iff, ← words_eq_nil_iff, ← words_eq_nil_iff, hw]
    rw [collapse_eq, collapse_eq, trails, trails, hw, hstart, hend, hall]

/-- **A text that is collapsed and trimmed is told by its words alone.** -/
theorem trim_collapse_eq_iff : trim (collapse t) = trim (collapse u) ↔ words t = words u := by
  have hedges : ∀ t : Text, startsBlank (trim t) = false ∧ endsBlank (trim t) = false :=
    fun t => trim_eq_self_iff.1 (trim_trim t)
  rw [← collapse_trim, ← collapse_trim, collapse_eq_collapse_iff, words_trim, words_trim]
  simp [hedges]

/-- **Collapsing is a normal form that respects concatenation.** No blank character is left but
spaces, and no two of them stand side by side; collapsing again changes nothing. The words stay, in
order; there is a space at the start or at the end if and only if there was blank space; and texts
that agree in all this are collapsed to the same. Two texts can be collapsed one by one before they
are collapsed together. -/
theorem collapse_normal_form (t u : Text) :
    ((∀ c ∈ collapse t, isBlank c = true → c = ' ') ∧ SingleSpaced (collapse t)) ∧
      collapse (collapse t) = collapse t ∧
      words (collapse t) = words t ∧
      ((collapse t).head? = some ' ' ↔ startsBlank t = true) ∧
      ((collapse t).getLast? = some ' ' ↔ endsBlank t = true) ∧
      (collapse t = collapse u ↔
        words t = words u ∧ startsBlank t = startsBlank u ∧ endsBlank t = endsBlank u) ∧
      collapse (t ++ u) = collapse (collapse t ++ collapse u) :=
  ⟨⟨fun _ h hc => eq_space_of_mem_collapse h hc, (isChain_collapseAfter t false).1⟩,
    collapse_collapse t, words_collapse t, head?_collapse t, getLast?_collapse t,
    collapse_eq_collapse_iff, collapse_append t u⟩

end HtmlMarkdown.Text
