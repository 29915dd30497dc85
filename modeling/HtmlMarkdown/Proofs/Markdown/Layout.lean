import HtmlMarkdown.Proofs.Markdown.BlankRows

/-!
# The lines of a layout

Each line of a text is laid out by itself: its trailing blank space is dropped, and if it is a
heading (`IsHeading`), one space is put behind its marker (`LaidOut`). The lines are then stacked,
with an empty line in between where headings are set apart (`stackLines`, `layout_cases`).

A line with something to see stays one, and a blank line becomes empty. So a layout keeps the
edges of a text (`startsFilled_layout`, `endsVisible_layout`), and its empty lines in a row are
the blank ones in a row of the text (`innerLines_layout`): an empty line is only put between two
lines that are not empty.
-/

namespace HtmlMarkdown.Markdown

open Text

variable {line above : Line} {rest : List Line} {t u l h : Text} {ls : List Text}

/-! ## The parts of a heading -/

/-- **A heading line in its parts**: one to six number signs, blank space or none, and a title. -/
structure IsHeading (line marker space title : Text) : Prop where
  line_eq : line = marker ++ (space ++ title)
  signs : ∀ c ∈ marker, c = '#'
  marker_ne_nil : marker ≠ []
  marker_le : marker.length ≤ 6
  blank : isBlankText space = true
  starts : startsVisible title = true
  ended : (space ++ title).head? ≠ some '#'

/-- A heading is laid out with one space behind its marker. -/
theorem heading?_eq_some_iff :
    heading? l = some h ↔
      ∃ marker space title, IsHeading l marker space title ∧ h = marker ++ ' ' :: title := by
  constructor
  · intro heq
    unfold heading? at heq
    simp only at heq
    split at heq
    · cases heq
    · rename_i hcond
      cases heq
      simp only [Bool.or_eq_true, List.isEmpty_iff, decide_eq_true_eq, not_or, not_lt] at hcond
      obtain ⟨⟨hmarker, hle⟩, htitle⟩ := hcond
      refine ⟨_, (l.dropWhile (· == '#')).takeWhile isBlank, _, ⟨?_, ?_, hmarker, hle, ?_, ?_, ?_⟩,
        rfl⟩
      · unfold trimStart
        rw [List.takeWhile_append_dropWhile, List.takeWhile_append_dropWhile]
      · intro c hc
        have hsign := List.mem_takeWhile_imp hc
        exact eq_of_beq hsign
      · exact List.all_takeWhile
      · exact (trimStart_edge _).resolve_left htitle
      · unfold trimStart
        rw [List.takeWhile_append_dropWhile]
        intro hhead
        have hno := List.head?_dropWhile_not (· == '#') l
        rw [hhead] at hno
        cases hno
  · rintro ⟨marker, space, title, hl, rfl⟩
    have hrest : ∀ c, (space ++ title).head? = some c → (c == '#') = false := by
      intro c hc
      rw [beq_eq_false_iff_ne]
      rintro rfl
      exact hl.ended hc
    have hsigns : marker.all (· == '#') = true :=
      List.all_eq_true.2 fun c hc => beq_iff_eq.2 (hl.signs c hc)
    have htake : l.takeWhile (· == '#') = marker := by
      rw [hl.line_eq, takeWhile_run hsigns hrest]
    have hdrop : trimStart (l.dropWhile (· == '#')) = title := by
      rw [hl.line_eq, dropWhile_run hsigns hrest, trimStart_append_blank hl.blank,
        trimStart_of_starts hl.starts]
    have hle := hl.marker_le
    unfold heading?
    simp only
    rw [htake, hdrop, if_neg]
    simp only [Bool.or_eq_true, List.isEmpty_iff, decide_eq_true_eq, not_or, not_lt]
    exact ⟨⟨hl.marker_ne_nil, hle⟩, ne_nil_of_starts hl.starts⟩

theorem heading?_eq_none_iff :
    heading? l = none ↔ ∀ marker space title, ¬ IsHeading l marker space title := by
  constructor
  · intro hnone marker space title hl
    have hsome := heading?_eq_some_iff.2 ⟨marker, space, title, hl, rfl⟩
    rw [hnone] at hsome
    cases hsome
  · intro hno
    cases hheading : heading? l with
    | none => rfl
    | some h =>
      obtain ⟨marker, space, title, hl, -⟩ := heading?_eq_some_iff.1 hheading
      exact absurd hl (hno marker space title)

/-! ## One line -/

/-- **A line as it is laid out.** -/
def LaidOut (l : Text) (line : Line) : Prop :=
  line.text = trimEnd l ∨ heading? (trimEnd l) = some line.text

theorem classify_laidOut : ∀ (ls : List Text) (fenced : Bool),
    List.Forall₂ LaidOut ls (classify fenced ls) := by
  intro ls
  induction ls with
  | nil => intro fenced; exact .nil
  | cons l ls ih =>
    intro fenced
    rw [classify]
    split
    · exact .cons (.inl rfl) (ih _)
    · split
      · rename_i h heq
        refine .cons (.inr ?_) (ih _)
        cases fenced with
        | true => cases heq
        | false => exact heq
      · exact .cons (.inl rfl) (ih _)

/-- What can be seen of a line stays. -/
theorem LaidOut.visible (hl : LaidOut l line) : visible line.text = visible l := by
  rcases hl with htext | htext
  · rw [htext, visible_trimEnd]
  · obtain ⟨marker, space, title, hl, hline⟩ := heading?_eq_some_iff.1 htext
    have hspace : Text.visible (' ' :: title) = Text.visible title := rfl
    rw [← visible_trimEnd l, hl.line_eq, hline, visible_append, visible_append, visible_append,
      visible_eq_nil_iff.2 hl.blank, List.nil_append, hspace]

theorem LaidOut.isFilled (hl : LaidOut l line) : isFilled line.text = isFilled l := by
  rw [Bool.eq_iff_iff, isFilled_iff, isFilled_iff, ← Bool.not_eq_true, ← Bool.not_eq_true,
    ← visible_eq_nil_iff, ← visible_eq_nil_iff, hl.visible]

theorem LaidOut.eq_nil_iff (hl : LaidOut l line) : line.text = [] ↔ isBlankText l = true := by
  refine ⟨fun hnil => ?_, fun hblank => ?_⟩
  · rw [← visible_eq_nil_iff, ← hl.visible, hnil]
    rfl
  · have htrim := trimEnd_eq_nil_iff.2 hblank
    rcases hl with htext | htext
    · rw [htext, htrim]
    · rw [htrim] at htext
      cases htext

theorem LaidOut.endsVisible (hl : LaidOut l line) (hfilled : Markdown.isFilled l = true) :
    endsVisible line.text = true := by
  have hend : Text.endsVisible (trimEnd l) = true := by
    refine (trimEnd_edge l).resolve_left fun hnil => ?_
    rw [isFilled_iff, trimEnd_eq_nil_iff.1 hnil] at hfilled
    cases hfilled
  rcases hl with htext | htext
  · rw [htext, hend]
  · obtain ⟨marker, space, title, hl, hline⟩ := heading?_eq_some_iff.1 htext
    have hne : title ≠ [] := ne_nil_of_starts hl.starts
    rw [hl.line_eq, ← List.append_assoc, endsVisible_append _ hne] at hend
    rw [hline, endsVisible_append _ (List.cons_ne_nil _ _), endsVisible_cons_blank (by decide), hend]

theorem LaidOut.feed_not_mem (hl : LaidOut l line) (hfeed : '\n' ∉ l) : '\n' ∉ line.text := by
  have htrim : '\n' ∉ trimEnd l := fun hmem => hfeed ((trimEnd_isPrefix l).mem hmem)
  rcases hl with htext | htext
  · rwa [htext]
  · obtain ⟨marker, space, title, hl, hline⟩ := heading?_eq_some_iff.1 htext
    rw [hl.line_eq, List.mem_append, List.mem_append, not_or, not_or] at htrim
    rw [hline, List.mem_append, List.mem_cons, not_or, not_or]
    exact ⟨htrim.1, by decide, htrim.2.2⟩

/-! ## All lines -/

/-- Is an empty line put between the two? -/
def isGap (above line : Line) : Bool :=
  (above.isHeading || line.isHeading) && !above.text.isEmpty && !line.text.isEmpty

/-- What is put between the two. -/
def gap (above line : Line) : List Text := if isGap above line then [[]] else []

/-- **The lines of a stack.** -/
def stackLines : Line → List Line → List Text
  | above, [] => [above.text]
  | above, line :: rest => above.text :: (gap above line ++ stackLines line rest)

theorem stackLines_ne_nil (above : Line) (rest : List Line) : stackLines above rest ≠ [] := by
  cases rest <;> exact List.cons_ne_nil _ _

theorem linesOf_stack (hls : List.Forall₂ LaidOut ls rest) : ∀ {l : Text} {above : Line},
    LaidOut l above → (∀ l' ∈ l :: ls, '\n' ∉ l') →
      linesOf (stack above rest) = stackLines above rest := by
  induction hls with
  | nil =>
    intro l above hl hfeed
    exact linesOf_line (hl.feed_not_mem (hfeed l List.mem_cons_self))
  | cons hl' _ ih =>
    intro l above hl hfeed
    have hrest := ih hl' fun l' hmem => hfeed l' (List.mem_cons_of_mem l hmem)
    have habove := linesOf_line (hl.feed_not_mem (hfeed l List.mem_cons_self))
    rw [stackLines, ← hrest, gap, isGap, stack]
    split
    · rw [List.append_assoc, List.cons_append, List.cons_append, linesOf_append_feed, habove,
        List.nil_append, linesOf_feed]
      rfl
    · rw [List.append_assoc, List.cons_append, linesOf_append_feed, habove]
      rfl

theorem layout_of_classify (h : classify false (linesOf t) = above :: rest) :
    layout t = stack above rest := by
  unfold linesOf at h
  unfold layout
  rw [h]

/-- A layout stacks the lines of a text by their roles. -/
theorem layout_lines (t : Text) : ∃ above rest, classify false (linesOf t) = above :: rest ∧
    layout t = stack above rest ∧ linesOf (layout t) = stackLines above rest := by
  have hlaid := classify_laidOut (linesOf t) false
  have hfeed : ∀ l ∈ linesOf t, '\n' ∉ l := fun l hl => feed_not_mem_of_mem_linesOf hl
  cases hlines : linesOf t with
  | nil => exact absurd hlines (linesOf_ne_nil t)
  | cons l ls =>
    rw [hlines] at hlaid hfeed
    obtain ⟨above, rest, hl, hls, hclass⟩ := List.forall₂_cons_left_iff.1 hlaid
    have hlayout := layout_of_classify (hlines ▸ hclass)
    exact ⟨above, rest, hclass, hlayout, by
      rw [hlayout]
      exact linesOf_stack hls hl hfeed⟩

/-- **A layout stacks the lines of a text**, each of them laid out. -/
theorem layout_cases (t : Text) : ∃ l ls above rest, linesOf t = l :: ls ∧ LaidOut l above ∧
    List.Forall₂ LaidOut ls rest ∧ layout t = stack above rest ∧
      linesOf (layout t) = stackLines above rest := by
  obtain ⟨above, rest, hclass, hlayout⟩ := layout_lines t
  have hlaid := classify_laidOut (linesOf t) false
  rw [hclass] at hlaid
  obtain ⟨l, ls, hl, hls, hlines⟩ := List.forall₂_cons_right_iff.1 hlaid
  exact ⟨l, ls, above, rest, hlines, hl, hls, hlayout⟩

/-! ## The edges -/

/-- Is there something to see on the first line? -/
def startsFilled (t : Text) : Bool := (linesOf t).head?.any isFilled

theorem startsFilled_cons (c : Char) (cs : Text) :
    startsFilled (c :: cs) = if c = '\n' then false else !isBlank c || startsFilled cs := by
  unfold startsFilled
  rw [linesOf_cons]
  split
  · rfl
  · cases hlines : linesOf cs with
    | nil => exact absurd hlines (linesOf_ne_nil cs)
    | cons l ls =>
      unfold isFilled isBlankText
      exact Bool.not_and _ _

theorem startsFilled_trimEnd (t : Text) : startsFilled (trimEnd t) = startsFilled t := by
  unfold trimEnd
  induction t with
  | nil => rfl
  | cons c cs ih =>
    rw [dropEndWhile]
    split
    · rename_i hnil
      rw [hnil] at ih
      rw [startsFilled_cons, ← ih]
      split
      · rename_i hc
        rw [hc]
        exact (ite_self false).symm
      · rw [startsFilled_cons]
    · rw [startsFilled_cons, startsFilled_cons, ih]

theorem startsFilled_append_feed (t : Text) : startsFilled (t ++ ['\n']) = startsFilled t := by
  unfold startsFilled
  rw [linesOf_append_feed]
  cases hlines : linesOf t with
  | nil => exact absurd hlines (linesOf_ne_nil t)
  | cons l ls => rfl

/-- **A layout starts with something to see** where the text does. -/
theorem startsFilled_layout (t : Text) : startsFilled (layout t) = startsFilled t := by
  obtain ⟨l, ls, above, rest, hlines, hl, -, -, hlayout⟩ := layout_cases t
  have hhead : (stackLines above rest).head? = some above.text := by cases rest <;> rfl
  unfold startsFilled
  rw [hlayout, hlines, hhead]
  exact hl.isFilled

/-- **A layout ends visibly** where the text does. -/
theorem endsVisible_layout (hend : endsVisible t = true) : endsVisible (layout t) = true := by
  have key : ∀ {ls : List Text} {rest : List Line}, List.Forall₂ LaidOut ls rest →
      ∀ {l : Text} {above : Line}, LaidOut l above → endsVisible (joinLines (l :: ls)) = true →
        endsVisible (stack above rest) = true := by
    intro ls rest hrest
    induction hrest with
    | nil =>
      intro l above hl hend
      refine hl.endsVisible (isFilled_iff.2 ?_)
      rw [← Bool.not_eq_true]
      intro hblank
      have hl : joinLines [l] = l := List.intercalate_singleton
      rw [hl, endsVisible_of_blank hblank] at hend
      cases hend
    | @cons l' line ls rest hl' hrest ih =>
      intro l above hl hend
      have hjoin : joinLines (l :: l' :: ls) = (l ++ ['\n']) ++ joinLines (l' :: ls) :=
        List.append_cons l '\n' _
      have hlast : endsVisible (joinLines (l' :: ls)) = true := by
        rw [hjoin] at hend
        by_cases hnil : joinLines (l' :: ls) = []
        · rw [hnil, List.append_nil, endsVisible_concat] at hend
          cases hend
        · rwa [endsVisible_append _ hnil] at hend
      have hstack := ih hl' hlast
      rw [stack, endsVisible_append _ (ne_nil_of_ends hstack), hstack]
  obtain ⟨l, ls, above, rest, hlines, hl, hls, hlayout, -⟩ := layout_cases t
  have hjoin : joinLines (l :: ls) = t := by
    rw [← hlines]
    exact joinLines_splitOn t
  rw [hlayout]
  exact key hls hl (by rwa [hjoin])

/-! ## Blank lines in a row -/

/-- An empty line is put between two lines that are not empty. -/
theorem gap_cases (above line : Line) :
    gap above line = [] ∨ (gap above line = [[]] ∧ above.text ≠ [] ∧ line.text ≠ []) := by
  unfold gap
  split
  · rename_i hgap
    unfold isGap at hgap
    simp only [Bool.and_eq_true, Bool.not_eq_true', List.isEmpty_eq_false_iff] at hgap
    exact Or.inr ⟨rfl, hgap.1.2, hgap.2⟩
  · exact Or.inl rfl

/-- So it makes no row of empty lines. -/
theorem isChain_gap (hhead : ∀ y ∈ ls.head?, y = line.text) :
    (gap above line ++ ls).IsChain NotBothEmpty ↔ ls.IsChain NotBothEmpty := by
  rcases gap_cases above line with hgap | ⟨hgap, -, hline⟩
  · rw [hgap, List.nil_append]
  · rw [hgap, List.singleton_append, List.isChain_cons]
    refine and_iff_right fun y hy hboth => hline ?_
    rw [← hhead y hy, hboth.2]

/-- Nor does it part one. -/
theorem isChain_above_gap (hhead : ∀ y ∈ ls.head?, y = line.text) :
    (above.text :: (gap above line ++ ls)).IsChain NotBothEmpty ↔
      (∀ y ∈ ls.head?, NotBothEmpty above.text y) ∧ ls.IsChain NotBothEmpty := by
  rw [List.isChain_cons, isChain_gap hhead]
  refine and_congr_left fun _ => ?_
  rcases gap_cases above line with hgap | ⟨hgap, habove, -⟩
  · rw [hgap, List.nil_append]
  · exact iff_of_true (fun y _ hboth => habove hboth.1) (fun y _ hboth => habove hboth.1)

theorem dropLast_stackLines (above line : Line) (rest : List Line) :
    (stackLines above (line :: rest)).dropLast =
      above.text :: (gap above line ++ (stackLines line rest).dropLast) := by
  rw [stackLines, List.dropLast_cons_of_ne_nil (by simp [stackLines_ne_nil]),
    List.dropLast_append_of_ne_nil (stackLines_ne_nil line rest)]

theorem head?_dropLast_stackLines :
    ∀ y ∈ (stackLines line rest).dropLast.head?, y = line.text := by
  intro y hy
  cases rest with
  | nil => cases hy
  | cons line' rest =>
    rw [dropLast_stackLines] at hy
    cases hy
    rfl

theorem LaidOut.notBothEmpty_iff (hl : LaidOut l above) (hu : LaidOut u line) :
    NotBothEmpty above.text line.text ↔ NotBothBlank l u := by
  unfold NotBothEmpty NotBothBlank
  rw [hl.eq_nil_iff, hu.eq_nil_iff]

/-- The rows of empty lines in a stack, but for its last line. -/
theorem isChain_stackLines (hls : List.Forall₂ LaidOut ls rest) :
    ∀ {l : Text} {above : Line}, LaidOut l above →
      ((stackLines above rest).dropLast.IsChain NotBothEmpty ↔
        (l :: ls).dropLast.IsChain NotBothBlank) := by
  induction hls with
  | nil => intro l above _; exact iff_of_true List.isChain_nil List.isChain_nil
  | @cons l' line ls rest hl' hls ih =>
    intro l above hl
    have hdrop : (l :: l' :: ls).dropLast = l :: (l' :: ls).dropLast := rfl
    rw [dropLast_stackLines, isChain_above_gap head?_dropLast_stackLines, ih hl', hdrop,
      List.isChain_cons]
    refine and_congr_left fun _ => ?_
    cases hls with
    | nil => exact iff_of_true nofun nofun
    | cons _ _ =>
      rw [dropLast_stackLines]
      have hiff := hl.notBothEmpty_iff hl'
      exact ⟨fun h y hy => by cases hy; exact hiff.1 (h _ rfl),
        fun h y hy => by cases hy; exact hiff.2 (h _ rfl)⟩

/-- **The empty lines in a row of a layout** are the blank lines in a row of the text. -/
theorem innerLines_layout (t : Text) :
    (innerLines (layout t)).IsChain NotBothEmpty ↔ (innerLines t).IsChain NotBothBlank := by
  obtain ⟨l, ls, above, rest, hlines, hl, hls, -, hlayout⟩ := layout_cases t
  unfold innerLines closedLines
  rw [hlines, hlayout]
  cases hls with
  | nil => exact iff_of_true List.isChain_nil List.isChain_nil
  | cons hl' hls =>
    rw [dropLast_stackLines, List.tail_cons, isChain_gap head?_dropLast_stackLines,
      isChain_stackLines hls hl']
    rfl

end HtmlMarkdown.Markdown
