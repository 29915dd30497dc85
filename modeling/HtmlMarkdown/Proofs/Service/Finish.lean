import HtmlMarkdown.Proofs.Convert.Content
import HtmlMarkdown.Proofs.Convert.PlainLayout
import HtmlMarkdown.Proofs.Markdown.Gaps
import HtmlMarkdown.Proofs.Markdown.Layout
import HtmlMarkdown.Service

/-!
# The final form of a rendering

A rendering is shortened first (`shortened`: blank lines are collapsed, and the text is trimmed if
asked for) and laid out then. Both stages look for blank space, and not in the same way: blank
lines are collapsed if they are made of spaces and tabs, and the start is trimmed of line breaks
alone, while a layout empties every blank line. So

* a trimmed text starts on a line with something to see, unless a blank line with characters of
  its own comes first (`finish_trimmed_iff`); its end is always as it should be;
* no two empty lines are left in a row, unless two blank lines in a row were not both made of
  spaces and tabs (`finish_feeds_iff`).
-/

namespace HtmlMarkdown

open Markdown Text
open HtmlMarkdown.Convert

namespace Service

variable {o : Options} {t : Text}

/-- What of a rendering is laid out. -/
def shortened (o : Options) (rendered : Text) : Text :=
  let t := collapseBlankLines rendered
  if o.trimOutput then trimEnd (t.dropWhile (· == '\n')) else t

theorem finish_eq (o : Options) (t : Text) :
    finish o t = if o.trimOutput && !(layout (shortened o t)).isEmpty then
      layout (shortened o t) ++ ['\n'] else layout (shortened o t) := rfl

/-! ## The end -/

theorem shortened_trimmed (h : o.trimOutput = true) (t : Text) :
    shortened o t = trimEnd ((collapseBlankLines t).dropWhile (· == '\n')) := if_pos h

/-- A trimmed text is blank or ends visibly. -/
theorem shortened_cases (h : o.trimOutput = true) (t : Text) :
    (isBlankText t = true ∧ shortened o t = []) ∨
      (isBlankText t = false ∧ endsVisible (shortened o t) = true) := by
  rw [shortened_trimmed h]
  have hiff : trimEnd ((collapseBlankLines t).dropWhile (· == '\n')) = [] ↔
      isBlankText t = true := by
    rw [trimEnd_eq_nil_iff, isBlankText_dropFeeds, isBlankText_collapseBlankLines]
  cases hblank : isBlankText t with
  | true => exact Or.inl ⟨rfl, hiff.2 hblank⟩
  | false =>
    refine Or.inr ⟨rfl, (trimEnd_edge _).resolve_left fun hnil => ?_⟩
    rw [hiff.1 hnil] at hblank
    cases hblank

theorem finish_blank (h : o.trimOutput = true) (hblank : isBlankText t = true) :
    finish o t = [] := by
  obtain ⟨-, hnil⟩ | ⟨hfalse, -⟩ := shortened_cases h t
  · have hlayout : layout [] = [] := rfl
    rw [finish_eq, hnil, hlayout, List.isEmpty_nil, Bool.not_true, Bool.and_false]
    rfl
  · rw [hblank] at hfalse
    cases hfalse

/-- A trimmed text that is not blank ends in one line break. -/
theorem finish_filled (h : o.trimOutput = true) (hfilled : isBlankText t = false) :
    finish o t = layout (shortened o t) ++ ['\n'] ∧
      endsVisible (layout (shortened o t)) = true := by
  obtain ⟨hblank, -⟩ | ⟨-, hend⟩ := shortened_cases h t
  · rw [hfilled] at hblank
    cases hblank
  · have hlayout := endsVisible_layout hend
    have hne : (layout (shortened o t)).isEmpty = false := by
      rw [List.isEmpty_eq_false_iff]
      exact ne_nil_of_ends hlayout
    rw [finish_eq, h, hne]
    exact ⟨rfl, hlayout⟩

/-! ## Both edges -/

/-- Does the text end in one line break, behind something to see? -/
def EndsOnce (t : Text) : Prop := ∃ u, t = u ++ ['\n'] ∧ endsVisible u = true

/-- **A text without a blank edge**: it is empty, or something is to see on its first line and
before the one line break at its end. -/
def Trimmed (t : Text) : Prop := t = [] ∨ (startsFilled t = true ∧ EndsOnce t)

/-- **When the output has no blank edge**: a rendering with something to see starts, once its
blank lines are collapsed and its first line breaks dropped, on a line with something to see. The
end is trimmed in any case. -/
theorem finish_trimmed_iff (h : o.trimOutput = true) (t : Text) :
    (Trimmed (finish o t) ↔ isBlankText t = true ∨
        startsFilled ((collapseBlankLines t).dropWhile (· == '\n')) = true) ∧
      (finish o t = [] ∨ EndsOnce (finish o t)) := by
  cases hblank : isBlankText t with
  | true =>
    have hnil := finish_blank h hblank
    exact ⟨iff_of_true (Or.inl hnil) (Or.inl rfl), Or.inl hnil⟩
  | false =>
    obtain ⟨hfinish, hend⟩ := finish_filled h hblank
    have honce : EndsOnce (finish o t) := ⟨_, hfinish, hend⟩
    have hstart : startsFilled (finish o t) =
        startsFilled ((collapseBlankLines t).dropWhile (· == '\n')) := by
      rw [hfinish, startsFilled_append_feed, startsFilled_layout, shortened_trimmed h,
        startsFilled_trimEnd]
    refine ⟨?_, Or.inr honce⟩
    rw [← hstart]
    constructor
    · rintro (hnil | ⟨hfilled, -⟩)
      · rw [hfinish] at hnil
        simp at hnil
      · exact Or.inr hfilled
    · rintro (hfalse | hfilled)
      · cases hfalse
      · exact Or.inr ⟨hfilled, honce⟩

/-- Blank lines around a line are trimmed away. -/
theorem finish_trimmed_iff_around :
    ({} : Options).trimOutput = true ∧ finish {} "\n\na \n\n" = "a\n" ∧
      (Trimmed (finish {} "\n\na \n\n") ↔ isBlankText "\n\na \n\n" = true ∨
        startsFilled ((collapseBlankLines "\n\na \n\n").dropWhile (· == '\n')) = true) ∧
      (finish {} "\n\na \n\n" = [] ∨ EndsOnce (finish {} "\n\na \n\n")) :=
  ⟨rfl, by decide, finish_trimmed_iff rfl _⟩

/-- A body with a blank text, in an element of its own, and a paragraph. -/
def spaceFirst : Document :=
  Document.ofRoot "body" [] [.element "span" [] [.text " "], .element "p" [] [.text "x"]]

/-- The space stands on a line of its own, which is emptied and not dropped. -/
theorem finish_blank_edge :
    Setup.plain.convert spaceFirst.root = .ok " \nx\n\n" ∧ finish {} " \nx\n\n" = "\nx\n" ∧
      ¬ Trimmed (finish {} " \nx\n\n") := by
  have htag : spaceFirst.root.tag = "body" := rfl
  have hchildren : spaceFirst.root.children = [spaceFirst.node 1, spaceFirst.node 3] := rfl
  have htag₁ : (spaceFirst.node 1).tag = "span" := rfl
  have htag₂ : (spaceFirst.node 3).tag = "p" := rfl
  have hspan : render Setup.plain 511 (spaceFirst.node 1) = .ok " " := by
    rw [render_only (c := spaceFirst.node 2) ⟨rfl, by rw [htag₁]; decide⟩ rfl (render_text rfl),
      htag₁, Setup.ruleFor_plain, Rule.General.find?_eq]
    rfl
  have hparagraph : render Setup.plain 511 (spaceFirst.node 3) = .ok "\nx\n\n" := by
    rw [render_only (c := spaceFirst.node 4) ⟨rfl, by rw [htag₂]; decide⟩ rfl (render_text rfl),
      htag₂, Setup.ruleFor_plain, Rule.General.find?_paragraph, Setup.finish_paragraph]
    rfl
  refine ⟨?_, by decide, ?_⟩
  · rw [convert_eq_render, maxLevels, render_element ⟨rfl, by rw [htag]; decide⟩, hchildren,
      renderOnto_cons_ok hspan, renderOnto_cons_ok hparagraph, renderOnto_nil, htag, Except.map,
      Setup.ruleFor_plain, Rule.General.find?_eq]
    rfl
  · rintro (hnil | ⟨hstart, -⟩)
    · exact absurd hnil (by decide)
    · exact absurd hstart (by decide)

/-! ## Blank lines in a row -/

/-- No two lines of spaces and tabs in a row are laid out. -/
theorem innerLines_shortened (o : Options) (t : Text) :
    (innerLines (shortened o t)).IsChain NotBothSpaces := by
  have hcollapsed := innerLines_collapseBlankLines t
  unfold shortened
  simp only
  split
  · exact hcollapsed.infix ((innerLines_mono (trimEnd_isPrefix _)).isInfix.trans
      (innerLines_dropFeeds _).isInfix)
  · exact hcollapsed

/-- The line break at the end makes no row. -/
theorem feeds_infix_finish (o : Options) (t : Text) :
    ['\n', '\n', '\n'] <:+: finish o t ↔ ['\n', '\n', '\n'] <:+: layout (shortened o t) := by
  rw [finish_eq]
  split
  · rename_i hcond
    obtain ⟨htrim, hne⟩ := Bool.and_eq_true_iff.1 hcond
    have hend : endsVisible (layout (shortened o t)) = true := by
      obtain ⟨-, hnil⟩ | ⟨-, hend⟩ := shortened_cases htrim t
      · rw [hnil] at hne
        cases hne
      · exact endsVisible_layout hend
    rw [List.infix_concat_iff]
    refine or_iff_right ?_
    rintro ⟨u, hu⟩
    have hlayout : u ++ ['\n', '\n'] = layout (shortened o t) :=
      List.append_cancel_right (by rw [← hu, List.append_assoc]; rfl)
    rw [← hlayout, endsVisible_append u (List.cons_ne_nil _ _)] at hend
    cases hend
  · rfl

/-- **When the output has no two empty lines in a row**: of any two blank lines in a row that are
laid out, both are made of spaces and tabs. -/
theorem finish_feeds_iff (o : Options) (t : Text) :
    ¬ ['\n', '\n', '\n'] <:+: finish o t ↔
      (innerLines (shortened o t)).IsChain fun a b => isBlankText a = true → isBlankText b = true →
        isSpaces a = true ∧ isSpaces b = true := by
  rw [feeds_infix_finish, feeds_infix_iff, not_not, innerLines_layout]
  constructor
  · intro h
    exact h.imp fun a b hab ha hb => absurd ⟨ha, hb⟩ hab
  · intro h
    have hspaces := innerLines_shortened o t
    rw [List.isChain_iff_getElem] at h hspaces ⊢
    exact fun i hi hboth => hspaces i hi (h i hi hboth.1 hboth.2)

/-- A paragraph with lines of a single character, which is blank and no space. -/
def unbroken : Document := Document.ofRoot "p" [] [.text "a\n\u00a0\n\u00a0\nb"]

/-- They are no blank lines when those are collapsed, and empty ones afterwards. -/
theorem finish_unbroken :
    (Setup.mk .standard { preserveWhitespace := true } false).convert unbroken.root =
        .ok "\na\n\u00a0\n\u00a0\nb\n\n" ∧
      finish { preserveWhitespace := true } "\na\n\u00a0\n\u00a0\nb\n\n" = "a\n\n\nb\n" ∧
      ['\n', '\n', '\n'] <:+: ("a\n\n\nb\n" : Text) := by
  have htag : unbroken.root.tag = "p" := rfl
  refine ⟨?_, by decide, by decide⟩
  rw [convert_eq_render, maxLevels,
    render_only (c := unbroken.node 1) ⟨rfl, by rw [htag]; decide⟩ rfl (render_text rfl), htag,
    Setup.ruleFor_standard, Rule.General.find?_paragraph, Setup.finish_paragraph]
  rfl

end Service

end HtmlMarkdown
