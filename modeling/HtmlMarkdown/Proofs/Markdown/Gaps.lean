import HtmlMarkdown.Proofs.Markdown.BlankRows
import HtmlMarkdown.Proofs.Text.Replacement

/-!
# Gaps between lines

Between two lines that have something but spaces and tabs stand lines that have not: a gap, which
may be empty. Collapsing blank lines looks for the gaps (`findBlankLines_gap`) and writes those with
two or more lines as one empty line (`narrowed`). The first line is not in a gap, since no line
break is before it, and neither is the last one; the lines in between are related by `Narrows`.

* `narrowsBelow_collapseBlankLines`: **collapsing narrows the gaps behind the first line.**
* `innerLines_collapseBlankLines`: no two lines of spaces and tabs are left in a row.
* `collapseBlankLines_of_isChain`: where there are none, nothing is collapsed.
* `itemBody_lines`: the content of a list item keeps its first line and has the others indented.
-/

namespace HtmlMarkdown.Markdown

open Text

variable {c : Char} {t u l first : Text} {gap ls ls' rest : List Text} {before : Option Char}

/-! ## Narrower gaps -/

/-- A gap of two or more lines is narrowed to one empty line. -/
def narrowed (gap : List Text) : List Text := if 2 ≤ gap.length then [[]] else gap

/-- **Lines whose gaps are narrowed.** A gap is made of spaces and tabs, and ends before a line that
is not, or before the last line. -/
inductive Narrows : List Text → List Text → Prop where
  | nil : Narrows [] []
  | line {gap ls ls' : List Text} {l : Text} : (∀ g ∈ gap, isSpaces g = true) →
    (ls = [] ∨ isSpaces l = false) → Narrows ls ls' →
    Narrows (gap ++ l :: ls) (narrowed gap ++ l :: ls')

theorem narrowed_of_short (h : gap.length < 2) : narrowed gap = gap := if_neg (by omega)

theorem narrowed_of_long (h : 2 ≤ gap.length) : narrowed gap = [[]] := if_pos h

/-- A line that ends a gap has none before it. -/
theorem Narrows.behind_line (h : Narrows (l :: ls) ls') (hl : ls = [] ∨ isSpaces l = false) :
    ∃ rest, ls' = l :: rest ∧ Narrows ls rest := by
  generalize hlines : l :: ls = lines at h
  cases h with
  | nil => cases hlines
  | @line gap ks ks' k hgap hk hrest =>
    cases gap with
    | nil =>
      cases hlines
      exact ⟨ks', rfl, hrest⟩
    | cons g gs =>
      obtain ⟨rfl, rfl⟩ := List.cons.inj hlines
      have hspaces := hgap l List.mem_cons_self
      simp [hspaces] at hl

/-! ## Finding a gap -/

/-- **The lines that are passed over are a gap**, and they are counted. -/
theorem blankLines_gap : ∀ line pre : Text, isSpaces pre = true →
    ∃ gap l ls, (∀ g ∈ gap, isSpaces g = true) ∧ (ls = [] ∨ isSpaces l = false) ∧
      linesOf (pre ++ line) = gap ++ l :: ls ∧
      (blankLines (pre ++ line) line).1 = gap.length ∧
      linesOf (blankLines (pre ++ line) line).2 = l :: ls := by
  intro line
  induction line with
  | nil =>
    intro pre hpre
    have hline : linesOf (pre ++ []) = [pre] := by
      rw [List.append_nil]
      exact linesOf_line (feed_not_mem_of_isSpaces hpre)
    exact ⟨[], pre, [], by simp, Or.inl rfl, hline, rfl, hline⟩
  | cons c cs ih =>
    intro pre hpre
    rw [blankLines]
    by_cases hc : c = '\n'
    · -- the line ends here, and is the first one of the gap
      obtain ⟨gap, l, ls, hgap, hl, hlines, hcount, hleft⟩ := ih [] rfl
      subst hc
      refine ⟨pre :: gap, l, ls, ?_, hl, ?_, ?_, ?_⟩
      · simpa [hpre] using hgap
      · rw [linesOf_append_feed, linesOf_line (feed_not_mem_of_isSpaces hpre)]
        exact congrArg (pre :: ·) hlines
      · exact congrArg (· + 1) hcount
      · exact hleft
    · rw [if_neg (by simpa using hc)]
      by_cases hspace : isInlineSpace c = true
      · have hpre' : isSpaces (pre ++ [c]) = true := by
          unfold isSpaces at hpre ⊢
          simp [hpre, hspace]
        have hrest := ih (pre ++ [c]) hpre'
        rw [List.append_assoc, List.singleton_append] at hrest
        rwa [if_pos hspace]
      · -- the line has something else, so the gap has ended before it
        obtain ⟨l, ls, hcs⟩ := List.exists_cons_of_ne_nil (linesOf_ne_nil cs)
        have hline : linesOf (pre ++ c :: cs) = (pre ++ c :: l) :: ls := by
          rw [linesOf_append_line (feed_not_mem_of_isSpaces hpre), linesOf_cons, if_neg hc, hcs]
          rfl
        have hother : isSpaces (pre ++ c :: l) = false := by
          unfold isSpaces
          simp [hspace]
        rw [if_neg hspace]
        exact ⟨[], _, ls, by simp, Or.inr hother, hline, rfl, hline⟩

/-- **A gap is found if it has two or more lines**, to its end. -/
theorem findBlankLines_gap (before : Option Char) (t : Text) :
    ∃ gap l ls, (∀ g ∈ gap, isSpaces g = true) ∧ (ls = [] ∨ isSpaces l = false) ∧
      linesOf t = gap ++ l :: ls ∧
      (gap.length < 2 ∧ findBlankLines before ('\n' :: t) = none ∨
        2 ≤ gap.length ∧ ∃ left, findBlankLines before ('\n' :: t) = some (['\n', '\n'], left) ∧
          linesOf left = l :: ls) := by
  obtain ⟨gap, l, ls, hgap, hl, hlines, hcount, hleft⟩ := blankLines_gap t [] rfl
  rw [List.nil_append] at hlines hcount hleft
  refine ⟨gap, l, ls, hgap, hl, hlines, ?_⟩
  rw [findBlankLines]
  simp only [hcount]
  by_cases htwo : 2 ≤ gap.length
  · exact Or.inr ⟨htwo, _, if_pos htwo, hleft⟩
  · exact Or.inl ⟨by omega, if_neg htwo⟩

/-- What is left is an end of the text. -/
theorem blankLines_suffix :
    ∀ line pre : Text, (blankLines (pre ++ line) line).2 <:+ pre ++ line := by
  intro line
  induction line with
  | nil => exact fun pre => List.suffix_rfl
  | cons c cs ih =>
    intro pre
    have hpre := ih (pre ++ [c])
    rw [List.append_assoc, List.singleton_append] at hpre
    rw [blankLines]
    split
    · exact (ih []).trans ((List.suffix_cons c cs).trans (List.suffix_append pre (c :: cs)))
    · split
      · exact hpre
      · exact List.suffix_rfl

/-- Blank lines are found behind a line break, and what is left is an end of the text. -/
theorem findBlankLines_some {found : Text × Text}
    (h : findBlankLines before (c :: t) = some found) :
    c = '\n' ∧ found.2 <:+ t := by
  unfold findBlankLines at h
  split at h
  · rename_i u heq
    cases heq
    simp only at h
    split at h
    · cases h
      exact ⟨rfl, blankLines_suffix t []⟩
    · cases h
  · cases h

theorem findBlankLines_suffix {new left : Text}
    (h : findBlankLines before (c :: t) = some (new, left)) : left <:+ t :=
  (findBlankLines_some h).2

/-! ## Collapsing -/

/-- Lines behind a first one that stays, with narrowed gaps. -/
def NarrowsBelow (ls ls' : List Text) : Prop :=
  ∃ first rest rest', ls = first :: rest ∧ ls' = first :: rest' ∧ Narrows rest rest'

/-- **Collapsing blank lines narrows the gaps behind the first line.** -/
theorem narrowsBelow_collapseBlankLines (t : Text) :
    NarrowsBelow (linesOf t) (linesOf (collapseBlankLines t)) := by
  refine replaceAllFrom_induction (motive := fun t u => NarrowsBelow (linesOf t) (linesOf u))
    findBlankLines_suffix ⟨[], [], [], rfl, rfl, .nil⟩ ?keep ?replace none t
  case keep =>
    rintro before c t u hfind ⟨first, rest, rest', hfirst, hfirst', hrest⟩
    by_cases hc : c = '\n'
    · subst hc
      obtain ⟨gap, l, ls, hgap, hl, hlines, ⟨hshort, -⟩ | ⟨-, left, hfound, -⟩⟩ :=
        findBlankLines_gap before t
      · refine ⟨[], _, _, linesOf_feed t, linesOf_feed u, ?_⟩
        rw [hfirst, hfirst']
        rw [hlines] at hfirst
        -- the gap is the first line, or there is none
        match gap, hgap, hshort with
        | [], hgap, _ =>
          obtain ⟨rfl, rfl⟩ := List.cons.inj hfirst
          exact .line hgap hl hrest
        | [g], hgap, hshort =>
          obtain ⟨rfl, rfl⟩ := List.cons.inj hfirst
          obtain ⟨rest'', rfl, hbehind⟩ := hrest.behind_line hl
          have hkept := Narrows.line hgap hl hbehind
          rwa [narrowed_of_short hshort] at hkept
      · rw [hfound] at hfind
        cases hfind
    · refine ⟨c :: first, rest, rest', ?_, ?_, hrest⟩
      · rw [linesOf_cons, if_neg hc, hfirst]
        rfl
      · rw [linesOf_cons, if_neg hc, hfirst']
        rfl
  case replace =>
    rintro before c skipped new left u hfind ⟨first, rest, rest', hfirst, hfirst', hrest⟩
    obtain ⟨rfl, -⟩ := findBlankLines_some hfind
    obtain ⟨gap, l, ls, hgap, hl, hlines, ⟨-, hnone⟩ | ⟨hlong, left', hfound, hleft⟩⟩ :=
      findBlankLines_gap before (skipped ++ left)
    · rw [hnone] at hfind
      cases hfind
    · rw [hfound] at hfind
      cases hfind
      rw [hfirst] at hleft
      obtain ⟨rfl, rfl⟩ := List.cons.inj hleft
      refine ⟨[], _, [] :: first :: rest', linesOf_feed _, ?_, ?_⟩
      · rw [← hfirst', ← linesOf_feed, ← linesOf_feed]
        rfl
      · have hkept := Narrows.line hgap hl hrest
        rwa [narrowed_of_long hlong, ← hlines] at hkept

/-! ## What stays -/

theorem narrowed_cases (gap : List Text) : narrowed gap = [] ∨ ∃ g, narrowed gap = [g] := by
  match gap with
  | [] => exact Or.inl rfl
  | [g] => exact Or.inr ⟨g, rfl⟩
  | g :: g' :: gap => exact Or.inr ⟨[], narrowed_of_long (by simp)⟩

theorem isSpaces_of_mem_narrowed (h : ∀ g ∈ gap, isSpaces g = true) :
    ∀ g ∈ narrowed gap, isSpaces g = true := by
  unfold narrowed
  split
  · intro g hg
    rw [List.mem_singleton.1 hg]
    rfl
  · exact h

theorem Narrows.eq_nil_iff (h : Narrows ls ls') : ls' = [] ↔ ls = [] := by
  cases h with
  | nil => exact Iff.rfl
  | line => simp

/-- **The other lines stay**, in order. -/
theorem Narrows.filter (h : Narrows ls ls') {p : Text → Bool}
    (hp : ∀ l, isSpaces l = true → p l = false) : ls'.filter p = ls.filter p := by
  induction h with
  | nil => rfl
  | @line gap ls ls' l hgap _ _ ih =>
    have hnone : ∀ {gap : List Text}, (∀ g ∈ gap, isSpaces g = true) → gap.filter p = [] :=
      fun hgap => List.filter_eq_nil_iff.2 fun g hg => by simp [hp g (hgap g hg)]
    rw [List.filter_append, List.filter_append, hnone hgap, hnone (isSpaces_of_mem_narrowed hgap),
      List.filter_cons, List.filter_cons, ih]

/-- No two lines of spaces and tabs are left in a row, but for the last line. -/
theorem Narrows.isChain (h : Narrows ls ls') : ls'.dropLast.IsChain NotBothSpaces := by
  induction h with
  | nil => exact List.isChain_nil
  | @line gap ls ls' l hgap hl hrest ih =>
    have hgapChain : (narrowed gap).IsChain NotBothSpaces := by
      rcases narrowed_cases gap with hnil | ⟨g, hg⟩
      · rw [hnil]
        exact List.isChain_nil
      · rw [hg]
        exact List.isChain_singleton g
    rw [List.dropLast_append_of_ne_nil (List.cons_ne_nil l ls')]
    by_cases hlast : ls' = []
    · rw [hlast]
      simpa using hgapChain
    · -- the line behind the gap is no such line, so it makes a row with none of its neighbours
      have hother : isSpaces l = false :=
        hl.resolve_left fun hnil => hlast (hrest.eq_nil_iff.2 hnil)
      rw [List.dropLast_cons_of_ne_nil hlast]
      refine List.isChain_append.2 ⟨hgapChain, List.isChain_cons.2 ⟨?_, ih⟩, ?_⟩
      · intro b _ hboth
        rw [hother] at hboth
        cases hboth.1
      · intro a _ b hb hboth
        rw [List.head?_cons, Option.mem_some_iff] at hb
        rw [← hb, hother] at hboth
        cases hboth.2

theorem filter_collapseBlankLines (t : Text) {p : Text → Bool}
    (hp : ∀ l, isSpaces l = true → p l = false) :
    (linesOf (collapseBlankLines t)).filter p = (linesOf t).filter p := by
  obtain ⟨first, rest, rest', hlines, hlines', hrest⟩ := narrowsBelow_collapseBlankLines t
  rw [hlines, hlines', List.filter_cons, List.filter_cons, hrest.filter hp]

/-- **No two lines of spaces and tabs are left in a row.** -/
theorem innerLines_collapseBlankLines (t : Text) :
    (innerLines (collapseBlankLines t)).IsChain NotBothSpaces := by
  obtain ⟨first, rest, rest', -, hlines', hrest⟩ := narrowsBelow_collapseBlankLines t
  rw [innerLines, closedLines, hlines', List.tail_dropLast, List.tail_cons]
  exact hrest.isChain

theorem isFilled_of_isSpaces (h : isSpaces l = true) : isFilled l = false := by
  have hblank : ∀ c, isInlineSpace c = true → isBlank c = true := by
    intro c hc
    unfold isInlineSpace at hc
    rw [Bool.or_eq_true, beq_iff_eq, beq_iff_eq] at hc
    rcases hc with rfl | rfl <;> decide
  have hline : isBlankText l = true :=
    List.all_eq_true.2 fun c hc => hblank c (List.all_eq_true.1 h c hc)
  unfold isFilled
  rw [hline]
  rfl

theorem isBlankText_collapseBlankLines (t : Text) :
    isBlankText (collapseBlankLines t) = isBlankText t := by
  have hsame : filled (collapseBlankLines t) = filled t :=
    filter_collapseBlankLines t fun l hl => isFilled_of_isSpaces hl
  rw [Bool.eq_iff_iff, ← filled_eq_nil_iff, ← filled_eq_nil_iff, hsame]

/-! ## The normal form -/

/-- **Where no two lines of spaces and tabs are in a row, nothing is collapsed.** -/
theorem collapseBlankLines_of_isChain (h : (innerLines t).IsChain NotBothSpaces) :
    collapseBlankLines t = t := by
  refine replaceAll_eq_of_none fun before u hu => ?_
  cases hfind : findBlankLines before u with
  | none => rfl
  | some found =>
    cases u with
    | nil => cases hfind
    | cons c v =>
      obtain ⟨rfl, -⟩ := findBlankLines_some hfind
      obtain ⟨gap, l, ls, hgap, -, hlines, ⟨-, hnone⟩ | ⟨hlong, -⟩⟩ := findBlankLines_gap before v
      · rw [hnone] at hfind
        cases hfind
      · -- the gap that is found would be a row
        obtain ⟨w, rfl⟩ := hu
        obtain ⟨a, b, rest, rfl⟩ : ∃ a b rest, gap = a :: b :: rest := by
          rcases gap with - | ⟨a, - | ⟨b, rest⟩⟩
          · simp at hlong
          · simp at hlong
          · exact ⟨a, b, rest, rfl⟩
        rw [innerLines_append_feed, closedLines, hlines,
          List.dropLast_append_of_ne_nil (List.cons_ne_nil l ls)] at h
        have hrow := (List.isChain_append.1 h).2.1
        rw [List.cons_append, List.cons_append, List.isChain_cons_cons] at hrow
        exact absurd ⟨hgap a (by simp), hgap b (by simp)⟩ hrow.1

/-- Has the line something but spaces and tabs? -/
def hasText (line : Text) : Bool := !isSpaces line

/-- **The gaps of a text**: the lines of spaces and tabs between each two neighbours of its other
lines. -/
def innerGaps (t : Text) : List (List Text) := ((linesOf t).splitOnP hasText).tail.dropLast

theorem splitOnP_gap (hgap : ∀ g ∈ gap, isSpaces g = true) : gap.splitOnP hasText = [gap] :=
  List.splitOnP_eq_singleton fun g hg => by simp [hasText, hgap g hg]

/-- The gaps are narrowed, all but the last one. -/
theorem Narrows.splitOnP (h : Narrows ls ls') :
    (ls'.splitOnP hasText).dropLast = (ls.splitOnP hasText).dropLast.map narrowed := by
  induction h with
  | nil => rfl
  | @line gap ls ls' l hgap hl hrest ih =>
    have hgap' := isSpaces_of_mem_narrowed hgap
    by_cases hother : hasText l = true
    · rw [List.splitOnP_append_cons _ _ hother, List.splitOnP_append_cons _ _ hother,
        splitOnP_gap hgap, splitOnP_gap hgap', List.singleton_append, List.singleton_append,
        List.dropLast_cons_of_ne_nil (List.splitOnP_ne_nil _ _),
        List.dropLast_cons_of_ne_nil (List.splitOnP_ne_nil _ _), ih, List.map_cons]
    · -- the last line is one of the gap behind the last other line
      have hspaces : isSpaces l = true := by simpa [hasText] using hother
      have hnil : ls = [] := hl.resolve_right (by simp [hspaces])
      have hall : ∀ {gap : List Text}, (∀ g ∈ gap, isSpaces g = true) →
          ∀ g ∈ gap ++ [l], isSpaces g = true := by
        intro gap hgap g hg
        rcases List.mem_append.1 hg with hg | hg
        · exact hgap g hg
        · rw [List.mem_singleton.1 hg, hspaces]
      rw [hnil, hrest.eq_nil_iff.2 hnil, splitOnP_gap (hall hgap), splitOnP_gap (hall hgap')]
      rfl

theorem innerGaps_collapseBlankLines (t : Text) :
    innerGaps (collapseBlankLines t) = (innerGaps t).map narrowed := by
  obtain ⟨first, rest, rest', hlines, hlines', hrest⟩ := narrowsBelow_collapseBlankLines t
  have hgaps := hrest.splitOnP
  unfold innerGaps
  rw [hlines, hlines', List.splitOnP_cons_eq_if_modifyHead, List.splitOnP_cons_eq_if_modifyHead]
  by_cases hfirst : hasText first = true
  · rw [if_pos hfirst, if_pos hfirst, List.tail_cons, List.tail_cons, hgaps]
  · -- the first line is one of the gap before the first other line
    rw [if_neg hfirst, if_neg hfirst, List.tail_modifyHead, List.tail_modifyHead,
      ← List.tail_dropLast, hgaps, ← List.map_tail, List.tail_dropLast]

/-- **Collapsing blank lines reaches a normal form, and touches blank lines only.** No line break is
left with two lines of spaces and tabs behind it, so a second pass changes nothing. The other lines
stay, and between each two of them several lines become one empty line, where a single line or none
stays as it is. -/
theorem collapseBlankLines_narrows_gaps (t : Text) :
    ¬ HasBlankRow (collapseBlankLines t) ∧
    collapseBlankLines (collapseBlankLines t) = collapseBlankLines t ∧
    (linesOf (collapseBlankLines t)).filter hasText = (linesOf t).filter hasText ∧
    innerGaps (collapseBlankLines t) = (innerGaps t).map narrowed := by
  have hchain := innerLines_collapseBlankLines t
  refine ⟨?_, collapseBlankLines_of_isChain hchain, ?_, innerGaps_collapseBlankLines t⟩
  · rw [hasBlankRow_iff, not_not]
    exact hchain
  · exact filter_collapseBlankLines t fun l hl => by simp [hasText, hl]

/-- Two lines between `a` and `b`, and one between `b` and `c`. -/
example : collapseBlankLines "a\n \n\t\nb\n \nc" = "a\n\nb\n \nc" ∧
    innerGaps "a\n \n\t\nb\n \nc" = [[[' '], ['\t']], [[' ']]] := by decide

/-! ## The content of a list item -/

/-- The space by which a line is indented below a marker. -/
def indent : Text := [' ', ' ', ' ', ' ']

/-- Every line but the first is indented. -/
theorem linesOf_indent (t : Text) :
    ∃ l ls, linesOf t = l :: ls ∧
      linesOf (replaceChar '\n' "\n    " t) = l :: ls.map (indent ++ ·) := by
  induction t with
  | nil => exact ⟨[], [], rfl, rfl⟩
  | cons c cs ih =>
    obtain ⟨l, ls, hl, hindent⟩ := ih
    have hcons : replaceChar '\n' "\n    " (c :: cs) =
        (if c = '\n' then '\n' :: indent else [c]) ++ replaceChar '\n' "\n    " cs := rfl
    rw [hcons]
    by_cases hc : c = '\n'
    · refine ⟨[], l :: ls, by rw [hc, linesOf_feed, hl], ?_⟩
      rw [if_pos hc, List.cons_append, linesOf_feed, linesOf_append_line (by decide), hindent]
      rfl
    · refine ⟨c :: l, ls, by rw [linesOf_cons, if_neg hc, hl]; rfl, ?_⟩
      rw [if_neg hc, List.singleton_append, linesOf_cons, if_neg hc, hindent]
      rfl

/-- **The content of an item has its first line as it is, and the other filled lines indented.** -/
theorem itemBody_lines (hfilled : filled t = first :: rest) (hstart : startsVisible first = true)
    (hend : ∀ l ∈ first :: rest, endsVisible l = true) :
    ∃ ls, linesOf (itemBody t) = first :: ls ∧ ls.filter isFilled = rest.map (indent ++ ·) := by
  have htrim : filled (trim t) = first :: rest := by
    rw [filled_trim _ (by rwa [hfilled]), hfilled]
    intro l hl
    rw [hfilled] at hl
    cases hl
    exact hstart
  have hvisible : startsVisible (trim t) = true := by
    rcases trim_edges t with hnil | ⟨hs, -⟩
    · rw [hnil] at htrim
      cases htrim
    · exact hs
  obtain ⟨l, ls, hlines, hl⟩ := linesOf_of_starts hvisible
  rw [htrim] at hl
  obtain ⟨rfl, rfl⟩ := List.cons.inj hl
  -- collapsing and indenting keep the first line; the others are alike but for blank lines
  obtain ⟨l', r, r', hlines', hcollapsed, hnarrows⟩ := narrowsBelow_collapseBlankLines (trim t)
  rw [hlines] at hlines'
  obtain ⟨rfl, rfl⟩ := List.cons.inj hlines'
  have hsame := hnarrows.filter fun l hl => isFilled_of_isSpaces hl
  obtain ⟨l', r', hcollapsed', hindent⟩ := linesOf_indent (collapseBlankLines (trim t))
  rw [hcollapsed] at hcollapsed'
  obtain ⟨rfl, rfl⟩ := List.cons.inj hcollapsed'
  refine ⟨_, hindent, ?_⟩
  rw [List.filter_map, ← hsame]
  have hsame' : isFilled ∘ (indent ++ ·) = isFilled := by
    funext l
    exact isFilled_append_blank (by decide) l
  rw [hsame']

end HtmlMarkdown.Markdown
