import HtmlMarkdown.Markdown.Shape
import HtmlMarkdown.Proofs.Markdown.Lines

/-!
# The lines of a quote

A quote marks its lines, and the blank ones too, so a line of a quote may be made of markers only.
What the others say (`contents`) is kept: a line that starts as a quote comes from a deeper one and
stays as it is, any other one gets a marker.

* `Neat`: no filled line has blank space at an edge, so that trimming changes none of them.
* `filled_lines`: where the lines are neat the two ways to cut them agree on the filled ones.
* `contents_quote`: **a quote says what is in it**, line by line.
* `Merges`: the lines that were expected, or fewer because some have run together.
-/

namespace HtmlMarkdown.Markdown

open Text

variable {d : Nat} {l t u : Text} {ls ls' es es' : List Text}

/-! ## What lines say -/

/-- Does the line say something? One that is blank or made of quote markers does not. -/
def isContent (line : Text) : Bool := !isBlankText line && !line.all (· == '>')

/-- **The lines of a text that say something.** -/
def contents (t : Text) : List Text := (linesOf t).filter isContent

theorem isFilled_of_isContent (h : isContent l = true) : isFilled l = true := by
  unfold isContent at h
  rw [Bool.and_eq_true] at h
  exact h.1

/-- A line that says something is filled. -/
theorem filter_isFilled (ls : List Text) :
    (ls.filter isFilled).filter isContent = ls.filter isContent := by
  rw [List.filter_filter]
  refine List.filter_congr fun l _ => ?_
  cases hl : isContent l with
  | false => rfl
  | true => rw [isFilled_of_isContent hl, Bool.and_self]

theorem contents_eq (t : Text) : contents t = (filled t).filter isContent :=
  (filter_isFilled (linesOf t)).symm

@[simp] theorem contents_nil : contents [] = [] := rfl

/-- The text starts visibly, and not as a quote. -/
def StartsUnquoted (t : Text) : Prop := ∃ c cs, t = c :: cs ∧ isBlank c = false ∧ c ≠ '>'

theorem StartsUnquoted.append (h : StartsUnquoted t) (u : Text) : StartsUnquoted (t ++ u) := by
  obtain ⟨c, cs, rfl, hc, hquote⟩ := h
  exact ⟨c, cs ++ u, rfl, hc, hquote⟩

theorem StartsUnquoted.visible (h : StartsUnquoted t) : startsVisible t = true := by
  obtain ⟨c, cs, rfl, hc, -⟩ := h
  simp [hc]

/-- A line that starts like this says something. -/
theorem StartsUnquoted.isContent (h : StartsUnquoted l) : isContent l = true := by
  obtain ⟨c, cs, rfl, hc, hquote⟩ := h
  simp [Markdown.isContent, isBlankText, hc, hquote]

theorem contents_append_of_ends (h : Ends t) (u : Text) :
    contents (t ++ u) = contents t ++ contents u := by
  rw [contents_eq, contents_eq, contents_eq, filled_append_of_ends h, List.filter_append]

theorem contents_append_of_opens (h : Opens u) (t : Text) :
    contents (t ++ u) = contents t ++ contents u := by
  rw [contents_eq, contents_eq, contents_eq, filled_append_of_opens h, List.filter_append]

/-- **Where a text goes on in the line before it** the two lines become one. -/
theorem linesOf_run (hl : '\n' ∉ l) (hu : StartsUnquoted u) :
    ∃ first rest, linesOf u = first :: rest ∧ StartsUnquoted first ∧
      linesOf (l ++ u) = (l ++ first) :: rest := by
  obtain ⟨c, cs, rfl, hc, hquote⟩ := hu
  have hfeed : c ≠ '\n' := by
    rintro rfl
    revert hc
    decide
  cases hlines : linesOf cs with
  | nil => exact absurd hlines (linesOf_ne_nil cs)
  | cons first rest =>
    have hu : linesOf (c :: cs) = (c :: first) :: rest := by
      rw [linesOf_cons, if_neg hfeed, hlines, List.modifyHead_cons]
    refine ⟨c :: first, rest, hu, ⟨c, first, rfl, hc, hquote⟩, ?_⟩
    rw [linesOf_append_line hl, hu, List.modifyHead_cons]

/-- What the text says is not more for the line before it. -/
theorem contents_run (hl : '\n' ∉ l) (hs : StartsUnquoted l) (hu : StartsUnquoted u) :
    0 < (contents u).length ∧ (contents (l ++ u)).length = (contents u).length := by
  obtain ⟨first, rest, hlines, hfirst, hrun⟩ := linesOf_run hl hu
  have hbehind : contents u = first :: rest.filter isContent := by
    unfold contents
    rw [hlines, List.filter_cons_of_pos hfirst.isContent]
  have hall : contents (l ++ u) = (l ++ first) :: rest.filter isContent := by
    unfold contents
    rw [hrun, List.filter_cons_of_pos (hs.append first).isContent]
  rw [hbehind, hall]
  exact ⟨Nat.succ_pos _, rfl⟩

/-! ## Neat lines -/

/-- No filled line starts or ends with blank space. -/
def Neat (t : Text) : Prop :=
  ∀ l ∈ filled t, startsVisible l = true ∧ endsVisible l = true

theorem Neat.nil : Neat [] := by
  intro l hl
  cases hl

theorem Neat.line (h : '\n' ∉ t) (hs : startsVisible t = true) (he : endsVisible t = true) :
    Neat t := by
  intro l hl
  rw [filled_line h] at hl
  split at hl
  · cases hl
  · rw [List.mem_singleton.1 hl]
    exact ⟨hs, he⟩

theorem Neat.append_of_filled (hfilled : filled (t ++ u) = filled t ++ filled u) (ht : Neat t)
    (hu : Neat u) : Neat (t ++ u) := by
  intro l hl
  rw [hfilled, List.mem_append] at hl
  rcases hl with hl | hl
  · exact ht l hl
  · exact hu l hl

/-- A neat text may go on in the line before it. -/
theorem Neat.run (hl : '\n' ∉ l) (hs : StartsUnquoted l) (hu : StartsUnquoted u) (h : Neat u) :
    Neat (l ++ u) := by
  obtain ⟨first, rest, hlines, hfirst, hrun⟩ := linesOf_run hl hu
  have hstart := (hs.append first).visible
  have hbehind : filled u = first :: rest.filter isFilled := by
    unfold filled
    rw [hlines, List.filter_cons_of_pos (isFilled_of_starts hfirst.visible)]
  have hall : filled (l ++ u) = (l ++ first) :: rest.filter isFilled := by
    unfold filled
    rw [hrun, List.filter_cons_of_pos (isFilled_of_starts hstart)]
  intro line hline
  rw [hall] at hline
  rcases List.mem_cons.1 hline with rfl | hline
  · -- the joined line ends as the first one behind it did
    refine ⟨hstart, ?_⟩
    rw [endsVisible_append _ (ne_nil_of_starts hfirst.visible)]
    exact (h first (by rw [hbehind]; exact List.mem_cons_self)).2
  · exact h line (by rw [hbehind]; exact List.mem_cons_of_mem _ hline)

theorem Neat.filled_trim (h : Neat t) : filled (trim t) = filled t :=
  Markdown.filled_trim (fun l hl => (h l (List.mem_of_head? hl)).1) fun l hl => (h l hl).2

theorem Neat.filled_separated (h : Neat t) : filled (separated t) = filled t :=
  Markdown.filled_separated (fun l hl => (h l (List.mem_of_head? hl)).1) fun l hl => (h l hl).2

/-- **Content on lines of its own** says what it said. -/
theorem contents_separated (h : Neat t) :
    contents (separated t) = contents t ∧ Neat (separated t) := by
  unfold Neat
  rw [contents_eq, contents_eq, h.filled_separated]
  exact ⟨rfl, h⟩

theorem separated_nil : separated [] = [] := rfl

/-! ## Lines that may end with a carriage return -/

theorem isFilled_chopReturn (l : Text) : isFilled (chopReturn l) = isFilled l := by
  have hblank : isBlank '\r' = true := by decide
  unfold chopReturn
  split
  · rename_i h
    obtain ⟨start, rfl⟩ := List.getLast?_eq_some_iff.1 h
    rw [List.dropLast_concat]
    unfold isFilled isBlankText
    rw [List.all_append, List.all_cons, hblank, List.all_nil, Bool.and_self, Bool.and_true]
  · rfl

theorem chopReturn_of_ends (h : endsVisible l = true) : chopReturn l = l := by
  unfold chopReturn
  rw [if_neg]
  intro hlast
  obtain ⟨start, rfl⟩ := List.getLast?_eq_some_iff.1 hlast
  rw [endsVisible_concat] at h
  revert h
  decide

/-- **Neat lines end without a carriage return**, so the filled ones are the same either way. -/
theorem filled_lines (h : Neat t) : (lines t).filter isFilled = filled t := by
  obtain ⟨before, last, hlines, heq⟩ := lines_eq t
  have hfilled : filled t = before.filter isFilled ++ [last].filter isFilled := by
    unfold filled
    rw [hlines, List.filter_append]
  have hbefore : (before.map chopReturn).filter isFilled = before.filter isFilled := by
    have hsame : isFilled ∘ chopReturn = isFilled := funext isFilled_chopReturn
    rw [List.filter_map, hsame]
    refine (List.map_congr_left fun l hl => ?_).trans (List.map_id _)
    exact chopReturn_of_ends (h l (by rw [hfilled]; exact List.mem_append_left _ hl)).2
  -- an empty last line is none, but it is not filled either
  have hlast : (if last = [] then [] else [last]).filter isFilled = [last].filter isFilled := by
    split
    · rename_i hnil
      rw [hnil]
      rfl
    · rfl
  rw [heq, List.filter_append, hbefore, hlast, hfilled]

/-! ## Quotes -/

/-- A line that is not quoted gets a marker. -/
theorem quoteLine_unquoted (h : StartsUnquoted l) :
    quoteLine d l = List.replicate d '>' ++ ' ' :: l := by
  obtain ⟨c, cs, rfl, hc, hquote⟩ := h
  simp [quoteLine, isBlankText, isPrefix, hc, Ne.symm hquote]

/-- A line of a deeper quote stays as it is. -/
theorem quoteLine_quoted (l : Text) : quoteLine d ('>' :: l) = '>' :: l := by
  have hblank : isBlank '>' = false := by decide
  simp [quoteLine, isBlankText, isPrefix, hblank]

theorem quoteLine_cases (l : Text) :
    (isBlankText l = true ∧ quoteLine d l = List.replicate d '>') ∨
      (isBlankText l = false ∧ quoteLine d l = l) ∨
      (isBlankText l = false ∧ l.head? ≠ some '>' ∧
        quoteLine d l = List.replicate d '>' ++ ' ' :: l) := by
  unfold quoteLine
  simp only
  split
  · rename_i hblank
    exact Or.inl ⟨hblank, rfl⟩
  · rename_i hblank
    rw [Bool.not_eq_true] at hblank
    split
    · exact Or.inr (Or.inl ⟨hblank, rfl⟩)
    · rename_i hquote
      refine Or.inr (Or.inr ⟨hblank, fun hhead => hquote ?_, rfl⟩)
      obtain ⟨rest, rfl⟩ := List.head?_eq_some_iff.1 hhead
      rfl

/-- **Marking a line changes nothing about whether it says something.** -/
theorem isContent_quoteLine (d : Nat) (l : Text) : isContent (quoteLine d l) = isContent l := by
  have hmarker : (List.replicate d '>').all (· == '>') = true := by simp
  rcases quoteLine_cases (d := d) l with ⟨hblank, heq⟩ | ⟨-, heq⟩ | ⟨hblank, hhead, heq⟩
  · rw [heq]
    unfold isContent
    rw [hmarker, hblank, Bool.not_true, Bool.and_false, Bool.false_and]
  · rw [heq]
  · -- behind the marker stands a space, and behind that what was there before
    have hspace : (List.replicate d '>' ++ ' ' :: l).all (· == '>') = false := by simp
    have hall : l.all (· == '>') = false := by
      cases l with
      | nil => cases hblank
      | cons c cs =>
        have hc : c ≠ '>' := fun hc => hhead (by rw [hc]; rfl)
        simp [hc]
    have hfilled : isBlankText (List.replicate d '>' ++ ' ' :: l) = false := by
      unfold isBlankText at hblank ⊢
      rw [List.all_append, List.all_cons, hblank, Bool.and_false, Bool.and_false]
    rw [heq]
    unfold isContent
    rw [hspace, hfilled, hall, hblank]

/-- A marked line is neat if the line was. -/
theorem quoteLine_edges (hd : 0 < d)
    (hl : isFilled l = true → startsVisible l = true ∧ endsVisible l = true) :
    startsVisible (quoteLine d l) = true ∧ endsVisible (quoteLine d l) = true := by
  obtain ⟨k, rfl⟩ : ∃ k, d = k + 1 := ⟨d - 1, by omega⟩
  have hstarts : ∀ u, startsVisible (List.replicate (k + 1) '>' ++ u) = true := fun u => rfl
  rcases quoteLine_cases (d := k + 1) l with ⟨-, heq⟩ | ⟨hblank, heq⟩ | ⟨hblank, -, heq⟩
  · rw [heq]
    refine ⟨rfl, ?_⟩
    rw [List.replicate_succ', endsVisible_concat]
    decide
  · rw [heq]
    exact hl (isFilled_iff.2 hblank)
  · obtain ⟨-, hend⟩ := hl (isFilled_iff.2 hblank)
    rw [heq]
    refine ⟨hstarts _, ?_⟩
    rw [List.append_cons, endsVisible_append _ (ne_nil_of_ends hend), hend]

theorem feed_not_mem_quoteLine (h : '\n' ∉ l) : '\n' ∉ quoteLine d l := by
  have hmarker : '\n' ∉ List.replicate d '>' := by
    rw [List.mem_replicate]
    rintro ⟨-, h⟩
    cases h
  rcases quoteLine_cases (d := d) l with ⟨-, heq⟩ | ⟨-, heq⟩ | ⟨-, -, heq⟩ <;> rw [heq]
  · exact hmarker
  · exact h
  · rw [List.mem_append, List.mem_cons, not_or, not_or]
    exact ⟨hmarker, by decide, h⟩

theorem quote_of_trim_nil (h : trim t = []) : quote d t = [] := by
  unfold quote mapLines
  simp [h]

/-- A quote that is not empty has the marked lines of its content, between line breaks. -/
theorem quote_eq (h : trim t ≠ []) :
    quote d t = '\n' :: (joinLines ((lines (trim t)).map (quoteLine d)) ++ ['\n', '\n']) := by
  unfold quote mapLines
  simp [h]

theorem opens_quote (d : Nat) (t : Text) : Opens (quote d t) := by
  by_cases h : trim t = []
  · exact Or.inl (quote_of_trim_nil h)
  · exact Or.inr ⟨_, quote_eq h⟩

theorem ends_quote (d : Nat) (t : Text) : Ends (quote d t) := by
  by_cases h : trim t = []
  · exact Or.inl (quote_of_trim_nil h)
  · refine Or.inr ⟨'\n' :: (joinLines ((lines (trim t)).map (quoteLine d)) ++ ['\n']), ?_⟩
    rw [quote_eq h]
    simp

/-- The filled lines of a quote. -/
theorem filled_quote (hneat : Neat t) (h : trim t ≠ []) :
    filled (quote d t) = ((lines (trim t)).map (quoteLine d)).filter isFilled := by
  have hne : lines (trim t) ≠ [] := by
    intro hnil
    obtain ⟨first, ls, -, hfirst⟩ := linesOf_of_starts ((trim_edges t).resolve_left h).1
    have hlines := filled_lines (t := trim t) (by unfold Neat; rwa [hneat.filled_trim])
    rw [hfirst, hnil] at hlines
    cases hlines
  have hfeed : ∀ l ∈ (lines (trim t)).map (quoteLine d), '\n' ∉ l := by
    intro l hl
    obtain ⟨l', hl', rfl⟩ := List.mem_map.1 hl
    exact feed_not_mem_quoteLine (feed_not_mem_of_mem_lines hl')
  rw [quote_eq h, filled_feed, filled_append_feed, filled_feed, filled_nil, List.append_nil]
  unfold filled
  rw [linesOf_joinLines (by simpa using hne) hfeed]

/-- **A quote says what is in it**, with a marker on each line that has none. -/
theorem contents_quote (hd : 0 < d) (hneat : Neat t) :
    contents (quote d t) = (contents t).map (quoteLine d) ∧ Neat (quote d t) := by
  by_cases h : trim t = []
  · have hnone : contents t = [] := by
      rw [contents_eq, ← hneat.filled_trim, h]
      rfl
    rw [quote_of_trim_nil h, hnone]
    exact ⟨rfl, Neat.nil⟩
  · have hlines : (lines (trim t)).filter isFilled = filled t := by
      rw [filled_lines (by unfold Neat; rwa [hneat.filled_trim]), hneat.filled_trim]
    constructor
    · have hsame : isContent ∘ quoteLine d = isContent := funext (isContent_quoteLine d)
      rw [contents_eq, filled_quote hneat h, filter_isFilled, List.filter_map, hsame,
        contents_eq t, ← hlines, filter_isFilled]
    · intro l hl
      rw [filled_quote hneat h] at hl
      obtain ⟨l', hl', rfl⟩ := List.mem_map.1 (List.mem_of_mem_filter hl)
      refine quoteLine_edges hd fun hfilled => hneat l' ?_
      rw [← hlines]
      exact List.mem_filter.2 ⟨hl', hfilled⟩

/-! ## Lines that run together -/

/-- **What is expected of lines**: they are as they should be, or some of them have run together and
there are fewer. -/
def Merges (run : Prop) (ls es : List Text) : Prop :=
  (ls = es ∧ ¬ run) ∨ (0 < ls.length ∧ ls.length < es.length ∧ run)

namespace Merges

variable {run run' : Prop}

/-- **The lines are as expected if and only if none have run together.** -/
theorem eq_iff (h : Merges run ls es) : ls = es ↔ ¬ run := by
  rcases h with ⟨heq, hno⟩ | ⟨-, hlt, hrun⟩
  · exact iff_of_true heq hno
  · refine iff_of_false (fun heq => ?_) fun hno => hno hrun
    rw [heq] at hlt
    omega

theorem nil : Merges False [] [] := Or.inl ⟨rfl, not_false⟩

theorem congr (h : Merges run ls es) (hrun : run ↔ run') : Merges run' ls es := by
  unfold Merges
  rwa [← hrun]

theorem length_le (h : Merges run ls es) : ls.length ≤ es.length := by
  rcases h with ⟨rfl, -⟩ | ⟨-, hlt, -⟩
  · exact Nat.le_refl _
  · omega

/-- Lines are expected where there are some, and nowhere else. -/
theorem eq_nil_iff (h : Merges run ls es) : ls = [] ↔ es = [] := by
  rcases h with ⟨rfl, -⟩ | ⟨hpos, hlt, -⟩
  · rfl
  · rw [← List.length_eq_zero_iff, ← List.length_eq_zero_iff]
    omega

theorem append (h : Merges run ls es) (h' : Merges run' ls' es') :
    Merges (run ∨ run') (ls ++ ls') (es ++ es') := by
  have hle := h.length_le
  have hle' := h'.length_le
  rcases h with ⟨rfl, hno⟩ | ⟨hpos, hlt, hrun⟩
  · rcases h' with ⟨rfl, hno'⟩ | ⟨hpos, hlt, hrun⟩
    · exact Or.inl ⟨rfl, not_or.2 ⟨hno, hno'⟩⟩
    · refine Or.inr ⟨?_, ?_, Or.inr hrun⟩ <;> simp only [List.length_append] <;> omega
  · refine Or.inr ⟨?_, ?_, Or.inl hrun⟩ <;> simp only [List.length_append] <;> omega

/-- **A line that is lost to the next one** is missing. -/
theorem lost (h : Merges run ls es) (hpos : 0 < ls'.length) (hlength : ls'.length = ls.length)
    (e : Text) (hrun' : run') : Merges run' ls' (e :: es) := by
  have hle := h.length_le
  refine Or.inr ⟨hpos, ?_, hrun'⟩
  rw [List.length_cons]
  omega

theorem map (h : Merges run ls es) (f : Text → Text) : Merges run (ls.map f) (es.map f) := by
  rcases h with ⟨rfl, hno⟩ | ⟨hpos, hlt, hrun⟩
  · exact Or.inl ⟨rfl, hno⟩
  · refine Or.inr ⟨?_, ?_, hrun⟩ <;> simpa only [List.length_map]

end Merges

end HtmlMarkdown.Markdown
