import HtmlMarkdown.Proofs.Markdown.Quoted

/-!
# The level of a quoted line

A line is quoted as often as quote markers stand at its start, whatever blank space is between
them. `leveledLines` reads the lines of a text in this way, each with its level and what is behind
the markers.

A quote reads its content line by line, and trims it first. What is read of a text does not depend
on blank space at the edges of its lines (`Shaved`, `leveledLines_lines`). So

* a quote around content adds one level to every line (`leveledLines_quoteAround`),
* a quote at a depth adds that depth to lines that are not quoted (`leveledLines_quote`), and
* **it adds nothing to lines that are** (`leveledLines_quote_marked`).
-/

namespace HtmlMarkdown.Markdown

open Text

variable {d : Nat} {c : Char} {l l' t u : Text} {ls ls' : List Text} {P : Text → Prop}

/-! ## Lines without blank space at the edges -/

/-- A line without some of the blank space at its ends. -/
def Shaved (l l' : Text) : Prop :=
  ∃ b b' : Text, isBlankText b = true ∧ isBlankText b' = true ∧ l = b ++ l' ++ b'

theorem Shaved.refl (l : Text) : Shaved l l := ⟨[], [], rfl, rfl, (List.append_nil l).symm⟩

theorem Shaved.trans (h : Shaved l l') (h' : Shaved l' u) : Shaved l u := by
  obtain ⟨b₁, b₁', hb₁, hb₁', rfl⟩ := h
  obtain ⟨b₂, b₂', hb₂, hb₂', rfl⟩ := h'
  refine ⟨b₁ ++ b₂, b₂' ++ b₁', ?_, ?_, by simp only [List.append_assoc]⟩
  · unfold isBlankText at *
    rw [List.all_append, hb₁, hb₂, Bool.and_self]
  · unfold isBlankText at *
    rw [List.all_append, hb₁', hb₂', Bool.and_self]

theorem Shaved.isFilled (h : Shaved l l') : isFilled l = isFilled l' := by
  obtain ⟨b, b', hb, hb', rfl⟩ := h
  unfold Markdown.isFilled
  unfold isBlankText at *
  rw [List.all_append, List.all_append, hb, hb', Bool.true_and, Bool.and_true]

theorem shaved_cons (h : isBlank c = true) (l : Text) : Shaved (c :: l) l :=
  ⟨[c], [], by simp [isBlankText, h], rfl, by simp⟩

theorem shaved_concat (h : isBlank c = true) (l : Text) : Shaved (l ++ [c]) l :=
  ⟨[], [c], rfl, by simp [isBlankText, h], by simp⟩

/-- **Lines with some of their blank space left out**: at the ends of a line, and lines that are
blank. -/
inductive ShavedLines : List Text → List Text → Prop where
  | nil : ShavedLines [] []
  | drop {l : Text} {ls ls' : List Text} : isFilled l = false → ShavedLines ls ls' →
      ShavedLines (l :: ls) ls'
  | keep {l l' : Text} {ls ls' : List Text} : Shaved l l' → ShavedLines ls ls' →
      ShavedLines (l :: ls) (l' :: ls')

namespace ShavedLines

theorem refl : ∀ ls : List Text, ShavedLines ls ls := by
  intro ls
  induction ls with
  | nil => exact .nil
  | cons l ls ih => exact .keep (Shaved.refl l) ih

theorem append (h : ShavedLines ls ls') {ms ms' : List Text} (h' : ShavedLines ms ms') :
    ShavedLines (ls ++ ms) (ls' ++ ms') := by
  induction h with
  | nil => exact h'
  | drop hl _ ih => exact .drop hl ih
  | keep hl _ ih => exact .keep hl ih

theorem trans (h : ShavedLines ls ls') : ∀ {ls'' : List Text}, ShavedLines ls' ls'' →
    ShavedLines ls ls'' := by
  induction h with
  | nil => intro ls'' h'; exact h'
  | drop hl _ ih => intro ls'' h'; exact .drop hl (ih h')
  | keep hl _ ih =>
    intro ls'' h'
    cases h' with
    | drop hl' h' => exact .drop (hl.isFilled.trans hl') (ih h')
    | keep hl' h' => exact .keep (hl.trans hl') (ih h')

/-- What is read of every line that is not blank, and does not depend on blank space at its ends,
stays the same. -/
theorem filterMap_eq {α : Type} {f : Text → Option α}
    (hblank : ∀ l, isFilled l = false → f l = none) (hshaved : ∀ l l', Shaved l l' → f l = f l')
    (h : ShavedLines ls ls') : ls.filterMap f = ls'.filterMap f := by
  induction h with
  | nil => rfl
  | drop hl _ ih => rw [List.filterMap_cons_none (hblank _ hl), ih]
  | keep hl _ ih => rw [List.filterMap_cons, List.filterMap_cons, hshaved _ _ hl, ih]

/-- What holds of the lines holds of what is left of them. -/
theorem forall_mem (hshaved : ∀ l l', Shaved l l' → P l → P l') (h : ShavedLines ls ls')
    (hall : ∀ l ∈ ls, P l) : ∀ l ∈ ls', P l := by
  induction h with
  | nil => exact hall
  | drop _ _ ih => exact ih fun l hl => hall l (List.mem_cons_of_mem _ hl)
  | keep hl _ ih =>
    intro l hmem
    rcases List.mem_cons.1 hmem with rfl | hmem
    · exact hshaved _ _ hl (hall _ List.mem_cons_self)
    · exact ih (fun l hl => hall l (List.mem_cons_of_mem _ hl)) l hmem

end ShavedLines

theorem shavedLines_trimStart (t : Text) : ShavedLines (linesOf t) (linesOf (trimStart t)) := by
  induction t with
  | nil => exact ShavedLines.refl _
  | cons c cs ih =>
    cases hc : isBlank c with
    | false =>
      rw [trimStart_of_starts (by simp [hc])]
      exact ShavedLines.refl _
    | true =>
      rw [trimStart_cons_blank hc, linesOf_cons]
      split
      · exact .drop rfl ih
      · refine ShavedLines.trans ?_ ih
        cases linesOf cs with
        | nil => exact .nil
        | cons l ls => exact .keep (shaved_cons hc l) (ShavedLines.refl ls)

theorem shavedLines_trimEnd (t : Text) : ShavedLines (linesOf t) (linesOf (trimEnd t)) := by
  induction t using List.reverseRecOn with
  | nil => exact ShavedLines.refl _
  | append_singleton cs c ih =>
    cases hc : isBlank c with
    | false =>
      rw [trimEnd_append_visible hc]
      exact ShavedLines.refl _
    | true =>
      rw [trimEnd_append_blank hc]
      refine ShavedLines.trans ?_ ih
      by_cases hfeed : c = '\n'
      · have hlast : ShavedLines [[]] [] := .drop rfl .nil
        have hall := (ShavedLines.refl (linesOf cs)).append hlast
        rw [List.append_nil] at hall
        rw [hfeed, linesOf_append_feed]
        exact hall
      · obtain ⟨y, l, rfl, hy, hl⟩ := exists_last_line cs
        have hl' : '\n' ∉ l ++ [c] := by
          rw [List.mem_append, List.mem_singleton, not_or]
          exact ⟨hl, fun e => hfeed e.symm⟩
        have hlast : ShavedLines [l ++ [c]] [l] := .keep (shaved_concat hc l) .nil
        rw [List.append_assoc]
        rcases hy with rfl | ⟨v, rfl⟩
        · rw [List.nil_append, List.nil_append, linesOf_line hl, linesOf_line hl']
          exact hlast
        · rw [List.append_assoc, List.append_assoc, List.singleton_append, List.singleton_append,
            linesOf_append_feed, linesOf_append_feed, linesOf_line hl, linesOf_line hl']
          exact (ShavedLines.refl (linesOf v)).append hlast

theorem shavedLines_lines (t : Text) : ShavedLines (linesOf t) (lines t) := by
  obtain ⟨before, last, hlines, heq⟩ := lines_eq t
  have hchop : ∀ l, Shaved l (chopReturn l) := by
    intro l
    unfold chopReturn
    split
    · rename_i h
      obtain ⟨start, rfl⟩ := List.getLast?_eq_some_iff.1 h
      rw [List.dropLast_concat]
      exact shaved_concat (by decide) start
    · exact Shaved.refl l
  have hbefore : ∀ ls : List Text, ShavedLines ls (ls.map chopReturn) := by
    intro ls
    induction ls with
    | nil => exact .nil
    | cons l ls ih => exact .keep (hchop l) ih
  rw [hlines, heq]
  refine (hbefore before).append ?_
  split
  · rename_i hlast
    rw [hlast]
    exact .drop rfl .nil
  · exact ShavedLines.refl _

/-- **The lines of trimmed content** are those of the content, less blank space. -/
theorem shavedLines_trim (t : Text) : ShavedLines (linesOf t) (lines (trim t)) :=
  (shavedLines_trimStart t).trans ((shavedLines_trimEnd _).trans (shavedLines_lines _))

/-! ## Reading the markers -/

/-- Read the quote markers at the start of a line, with the blank space between them: their number
and what is behind. -/
def readMarkers : Text → Nat × Text
  | [] => (0, [])
  | c :: cs =>
    if c = '>' then ((readMarkers cs).1 + 1, (readMarkers cs).2)
    else if isBlank c then readMarkers cs
    else (0, c :: cs)

/-- **The level of a line, and what it says** behind its markers; a line that says nothing has no
level. -/
def level? (line : Text) : Option (Nat × Text) :=
  if isBlankText (readMarkers line).2 then none
  else some ((readMarkers line).1, trimEnd (readMarkers line).2)

/-- **The lines of a text that say something**, with their levels. -/
def leveledLines (t : Text) : List (Nat × Text) := (linesOf t).filterMap level?

/-- Add levels to a line. -/
def deepen (k : Nat) (line : Nat × Text) : Nat × Text := (line.1 + k, line.2)

theorem readMarkers_marker (l : Text) :
    readMarkers ('>' :: l) = ((readMarkers l).1 + 1, (readMarkers l).2) := by
  rw [readMarkers, if_pos rfl]

theorem readMarkers_blank (h : isBlank c = true) (l : Text) :
    readMarkers (c :: l) = readMarkers l := by
  have hc : c ≠ '>' := by
    rintro rfl
    cases h
  rw [readMarkers, if_neg hc, if_pos h]

theorem level?_marker (l : Text) : level? ('>' :: l) = (level? l).map (deepen 1) := by
  unfold level?
  rw [readMarkers_marker]
  split <;> rfl

theorem level?_markers (k : Nat) (l : Text) :
    level? (List.replicate k '>' ++ l) = (level? l).map (deepen k) := by
  induction k with
  | zero =>
    cases h : level? l <;> simp [h, deepen]
  | succ k ih =>
    rw [List.replicate_succ, List.cons_append, level?_marker, ih, Option.map_map]
    rfl

/-- Blank space behind a line is blank space behind what the line says. -/
theorem readMarkers_concat (h : isBlank c = true) (l : Text) :
    (readMarkers (l ++ [c])).1 = (readMarkers l).1 ∧
      isBlankText (readMarkers (l ++ [c])).2 = isBlankText (readMarkers l).2 ∧
      trimEnd (readMarkers (l ++ [c])).2 = trimEnd (readMarkers l).2 := by
  induction l with
  | nil =>
    rw [List.nil_append, readMarkers_blank h]
    exact ⟨rfl, rfl, rfl⟩
  | cons e es ih =>
    rw [List.cons_append, readMarkers, readMarkers]
    split
    · exact ⟨congrArg (· + 1) ih.1, ih.2⟩
    · split
      · exact ih
      · refine ⟨rfl, ?_, ?_⟩
        · unfold isBlankText
          simp only [← List.cons_append, List.all_append, List.all_cons, h, List.all_nil,
            Bool.and_true]
        · simp only [← List.cons_append, trimEnd_append_blank h]

/-- **Blank space at the ends of a line** changes neither its level nor what it says. -/
theorem readMarkers_shaved (h : Shaved l l') :
    (readMarkers l).1 = (readMarkers l').1 ∧ level? l = level? l' := by
  obtain ⟨b, b', hb, hb', rfl⟩ := h
  have hfront : ∀ u, readMarkers (b ++ u) = readMarkers u := by
    intro u
    induction b with
    | nil => rfl
    | cons c cs ih =>
      have hall := List.all_eq_true.1 hb
      rw [List.cons_append, readMarkers_blank (hall c List.mem_cons_self),
        ih (List.all_eq_true.2 fun d hd => hall d (List.mem_cons_of_mem _ hd))]
  have hback : (readMarkers (l' ++ b')).1 = (readMarkers l').1 ∧ level? (l' ++ b') = level? l' := by
    induction b' using List.reverseRecOn with
    | nil => rw [List.append_nil]; exact ⟨rfl, rfl⟩
    | append_singleton cs c ih =>
      have hall := List.all_eq_true.1 hb'
      obtain ⟨hlevel, hread⟩ := ih (List.all_eq_true.2 fun d hd => hall d (by simp [hd]))
      obtain ⟨hcount, hblank, htrim⟩ :=
        readMarkers_concat (hall c (by simp)) (l' ++ cs)
      rw [← List.append_assoc, ← hread, hcount, hlevel]
      refine ⟨rfl, ?_⟩
      unfold level?
      rw [hcount, hblank, htrim]
  unfold level? at hback ⊢
  rw [List.append_assoc, hfront]
  exact hback

/-- A blank line has no level, and no markers. -/
theorem readMarkers_of_blank (h : isFilled l = false) :
    (readMarkers l).1 = 0 ∧ level? l = none := by
  have hblank : isBlankText l = true := by
    unfold isFilled at h
    rwa [Bool.not_eq_false'] at h
  have hshaved : Shaved l [] := ⟨l, [], hblank, rfl, by simp⟩
  exact readMarkers_shaved hshaved

/-- Blank space at the edges of content, and of its lines, does not matter. -/
theorem leveledLines_lines (t : Text) : leveledLines t = (lines (trim t)).filterMap level? :=
  (shavedLines_trim t).filterMap_eq (fun _ h => (readMarkers_of_blank h).2) fun _ _ h =>
    (readMarkers_shaved h).2

/-- What a line says does not start with a marker. -/
theorem head?_of_mem_leveledLines {line : Nat × Text} (h : line ∈ leveledLines t) :
    line.2.head? ≠ some '>' := by
  have hread : ∀ l, (readMarkers l).2.head? ≠ some '>' := by
    intro l
    induction l with
    | nil => exact nofun
    | cons c cs ih =>
      rw [readMarkers]
      split
      · exact ih
      · rename_i hc
        split
        · exact ih
        · rw [List.head?_cons, Option.some_inj.ne]
          exact hc
  obtain ⟨l, -, hl⟩ := List.mem_filterMap.1 h
  unfold level? at hl
  split at hl
  · cases hl
  · cases hl
    intro hhead
    obtain ⟨v, hv⟩ := trimEnd_isPrefix (readMarkers l).2
    refine hread l ?_
    rw [← hv, List.head?_append, hhead]
    rfl

/-! ## Quoting -/

theorem lines_ne_nil (h : t ≠ []) : lines t ≠ [] := by
  obtain ⟨before, last, hlines, heq⟩ := lines_eq t
  intro hnil
  rw [heq, List.append_eq_nil_iff, List.map_eq_nil_iff] at hnil
  obtain ⟨rfl, hlast⟩ := hnil
  split at hlast
  · rename_i hempty
    rw [hempty] at hlines
    refine h ?_
    rw [← joinLines_splitOn t]
    exact congrArg joinLines hlines
  · cases hlast

/-- Content that is not blank has its changed lines between line breaks. -/
theorem linesOf_mapLines {f : Text → Text} (hf : ∀ l, '\n' ∉ l → '\n' ∉ f l) (h : trim t ≠ []) :
    linesOf (mapLines f t) = [] :: ((lines (trim t)).map f ++ [[], []]) := by
  have hmap : mapLines f t =
      '\n' :: (joinLines ((lines (trim t)).map f) ++ '\n' :: ['\n']) := by
    unfold mapLines
    simp [h]
  have hfeed : ∀ l ∈ (lines (trim t)).map f, '\n' ∉ l := by
    intro l hl
    obtain ⟨l', hl', rfl⟩ := List.mem_map.1 hl
    exact hf l' (feed_not_mem_of_mem_lines hl')
  rw [hmap, linesOf_feed, linesOf_append_feed,
    linesOf_joinLines (by simpa using lines_ne_nil h) hfeed]
  rfl

theorem mapLines_of_trim_nil (f : Text → Text) (h : trim t = []) : mapLines f t = [] := by
  unfold mapLines
  simp [h]

theorem leveledLines_mapLines {f : Text → Text} (hf : ∀ l, '\n' ∉ l → '\n' ∉ f l) (t : Text) :
    leveledLines (mapLines f t) = (lines (trim t)).filterMap fun l => level? (f l) := by
  by_cases h : trim t = []
  · rw [mapLines_of_trim_nil f h, h]
    rfl
  · have hempty : level? [] = none := rfl
    unfold leveledLines
    rw [linesOf_mapLines hf h, List.filterMap_cons_none hempty, List.filterMap_append,
      List.filterMap_map, List.filterMap_cons_none hempty, List.filterMap_cons_none hempty,
      List.filterMap_nil, List.append_nil]
    rfl

/-- Every line of the text that is not blank starts with a marker. -/
def AllMarked (t : Text) : Prop := ∀ l ∈ linesOf t, isFilled l = true → l.head? = some '>'

theorem allMarked_mapLines {f : Text → Text} (hf : ∀ l, '\n' ∉ l → '\n' ∉ f l)
    (hmarker : ∀ l, (f l).head? = some '>') (t : Text) : AllMarked (mapLines f t) := by
  intro l hl hfilled
  by_cases h : trim t = []
  · rw [mapLines_of_trim_nil f h, List.mem_singleton.1 hl] at *
    cases hfilled
  · rw [linesOf_mapLines hf h, List.mem_cons, List.mem_append] at hl
    have hempty : isFilled [] = false := rfl
    rcases hl with rfl | hl | hl
    · cases hfilled
    · obtain ⟨l', -, rfl⟩ := List.mem_map.1 hl
      exact hmarker l'
    · simp only [List.mem_cons, List.not_mem_nil, or_false, or_self] at hl
      rw [hl] at hfilled
      cases hfilled

/-! ## Quotes around content -/

/-- A line of content that a quote is put around. -/
def quoteLineAround (line : Text) : Text := if isBlankText line then ['>'] else "> " ++ line

theorem quoteAround_eq (t : Text) : quoteAround t = mapLines quoteLineAround t := rfl

theorem feed_not_mem_quoteLineAround (l : Text) (h : '\n' ∉ l) : '\n' ∉ quoteLineAround l := by
  unfold quoteLineAround
  split
  · decide
  · rw [List.mem_append, not_or]
    exact ⟨by decide, h⟩

theorem level?_quoteLineAround (l : Text) :
    level? (quoteLineAround l) = (level? l).map (deepen 1) := by
  unfold quoteLineAround
  split
  · rename_i hblank
    rw [(readMarkers_of_blank (l := l) (by rw [isFilled, hblank]; rfl)).2]
    rfl
  · have hspace : level? (' ' :: l) = level? l := (readMarkers_shaved (shaved_cons rfl l)).2
    rw [← hspace]
    exact level?_marker (' ' :: l)

/-- **A quote around content adds a level.** -/
theorem leveledLines_quoteAround (t : Text) :
    leveledLines (quoteAround t) = (leveledLines t).map (deepen 1) := by
  rw [quoteAround_eq, leveledLines_mapLines feed_not_mem_quoteLineAround, leveledLines_lines t,
    List.map_filterMap]
  exact congrArg (List.filterMap · _) (funext level?_quoteLineAround)

theorem allMarked_quoteAround (t : Text) : AllMarked (quoteAround t) := by
  refine allMarked_mapLines feed_not_mem_quoteLineAround (fun l => ?_) t
  unfold quoteLineAround
  split <;> rfl

/-! ## Quotes at a depth -/

/-- No line of the text has a marker for its first visible character. -/
def Unmarked (t : Text) : Prop := ∀ l ∈ linesOf t, (readMarkers l).1 = 0

theorem level?_quoteLine (h : (readMarkers l).1 = 0) :
    level? (quoteLine d l) = (level? l).map (deepen d) := by
  unfold quoteLine
  simp only
  split
  · rename_i hblank
    rw [(readMarkers_of_blank (l := l) (by rw [isFilled, hblank]; rfl)).2]
    have hmarkers := level?_markers d []
    rwa [List.append_nil] at hmarkers
  · split
    · rename_i hquote
      obtain ⟨rest, rfl⟩ := List.isPrefixOf_iff_prefix.1 hquote
      change (readMarkers ('>' :: rest)).1 = 0 at h
      rw [readMarkers_marker] at h
      cases h
    · rw [level?_markers, (readMarkers_shaved (shaved_cons rfl l)).2]

theorem leveledLines_quote_eq (d : Nat) (t : Text) :
    leveledLines (quote d t) = (lines (trim t)).filterMap fun l => level? (quoteLine d l) :=
  leveledLines_mapLines (fun _ => feed_not_mem_quoteLine) t

/-- **A quote at a depth puts lines that are not quoted at that level.** -/
theorem leveledLines_quote (ht : Unmarked t) :
    leveledLines (quote d t) = (leveledLines t).map (deepen d) := by
  have hlines : ∀ l ∈ lines (trim t), (readMarkers l).1 = 0 :=
    (shavedLines_trim t).forall_mem
      (fun l l' hshaved hl => (readMarkers_shaved hshaved).1.symm.trans hl) ht
  rw [leveledLines_quote_eq, leveledLines_lines t, List.map_filterMap]
  exact List.filterMap_congr fun l hl => level?_quoteLine (hlines l hl)

/-- **It leaves lines that are quoted already.** -/
theorem leveledLines_quote_marked (ht : AllMarked t) :
    leveledLines (quote d t) = leveledLines t := by
  have hlines : ∀ l ∈ lines (trim t), isFilled l = true → l.head? = some '>' := by
    refine (shavedLines_trim t).forall_mem (fun l l' hshaved hl hfilled => ?_) ht
    have hhead := hl (hshaved.isFilled.trans hfilled)
    obtain ⟨b, b', hb, -, rfl⟩ := hshaved
    -- the marker is the first character, so no blank space stands before it
    cases b with
    | cons c cs =>
      cases hhead
      cases hb
    | nil =>
      cases l' with
      | nil => cases hfilled
      | cons c cs => exact hhead
  rw [leveledLines_quote_eq, leveledLines_lines t]
  refine List.filterMap_congr fun l hl => ?_
  cases hfilled : isFilled l with
  | true =>
    obtain ⟨rest, rfl⟩ := List.head?_eq_some_iff.1 (hlines l hl hfilled)
    rw [quoteLine_quoted]
  | false =>
    obtain ⟨hzero, hnone⟩ := readMarkers_of_blank hfilled
    rw [level?_quoteLine hzero, hnone]
    rfl

theorem allMarked_quote (hd : 0 < d) (t : Text) : AllMarked (quote d t) := by
  obtain ⟨k, rfl⟩ : ∃ k, d = k + 1 := ⟨d - 1, by omega⟩
  refine allMarked_mapLines (fun _ => feed_not_mem_quoteLine) (fun l => ?_) t
  unfold quoteLine
  simp only
  split
  · rfl
  · split
    · rename_i hquote
      obtain ⟨rest, rfl⟩ := List.isPrefixOf_iff_prefix.1 hquote
      rfl
    · rfl

/-! ## Lines that are not quoted -/

/-- **The lines of a text by themselves**, without the blank ones and without blank space at their
ends. -/
def bareLines (t : Text) : List Text := (filled t).map trim

theorem bareLines_line (h : '\n' ∉ t) (hs : startsVisible t = true) (he : endsVisible t = true) :
    bareLines t = [t] := by
  have hblank := isFilled_iff.1 (isFilled_of_starts hs)
  unfold bareLines
  rw [filled_line h, hblank, if_neg Bool.false_ne_true, List.map_singleton, trim_of_edges hs he]

theorem shaved_trim (l : Text) : Shaved l (trim l) := by
  obtain ⟨v, hv⟩ := trimEnd_isPrefix (trimStart l)
  have hvisible : visible v = [] := by
    have hall := congrArg visible hv
    rw [visible_append, visible_trimEnd] at hall
    exact List.append_right_eq_self.1 hall
  refine ⟨l.takeWhile isBlank, v, List.all_takeWhile, visible_eq_nil_iff.1 hvisible, ?_⟩
  rw [List.append_assoc, trim, hv]
  exact List.takeWhile_append_dropWhile.symm

/-- A line without markers says what is left of it when it is trimmed. -/
theorem level?_unmarked (h : (readMarkers l).1 = 0) (hfilled : isFilled l = true) :
    level? l = some (0, trim l) := by
  have hread : ∀ l, (readMarkers l).1 = 0 → (readMarkers l).2 = trimStart l := by
    intro l
    induction l with
    | nil => intro _; rfl
    | cons c cs ih =>
      intro h
      rw [readMarkers] at h ⊢
      split at h
      · cases h
      · rename_i hc
        rw [if_neg hc]
        split at h
        · rename_i hblank
          rw [if_pos hblank, ih h, trimStart_cons_blank hblank]
        · rename_i hvisible
          rw [if_neg hvisible, trimStart_of_starts (by simpa using hvisible)]
  have hsome : isBlankText (trimStart l) = false := by
    rw [← isFilled_iff, ← hfilled, isFilled, isFilled, Bool.not_inj_iff, Bool.eq_iff_iff,
      ← visible_eq_nil_iff, ← visible_eq_nil_iff, visible_trimStart]
  unfold level?
  rw [h, hread l h, hsome]
  rfl

/-- **Lines that are not quoted have level zero.** -/
theorem leveledLines_of_unmarked (ht : Unmarked t) :
    leveledLines t = (bareLines t).map fun l => (0, l) := by
  unfold Unmarked at ht
  unfold leveledLines bareLines filled
  generalize linesOf t = ls at ht ⊢
  induction ls with
  | nil => rfl
  | cons l ls ih =>
    have hrest := ih fun l' hl' => ht l' (List.mem_cons_of_mem l hl')
    cases hfilled : isFilled l with
    | true =>
      rw [List.filterMap_cons_some (level?_unmarked (ht l List.mem_cons_self) hfilled), hrest,
        List.filter_cons_of_pos hfilled]
      rfl
    | false =>
      rw [List.filterMap_cons_none (readMarkers_of_blank hfilled).2, hrest,
        List.filter_cons_of_neg (by rw [hfilled]; exact Bool.false_ne_true)]

/-- Which texts have no line that is quoted. -/
theorem unmarked_iff : Unmarked t ↔ ∀ l ∈ bareLines t, l.head? ≠ some '>' := by
  have hline : ∀ l, isFilled l = true →
      ((readMarkers l).1 = 0 ↔ (trim l).head? ≠ some '>') := by
    intro l hfilled
    rw [(readMarkers_shaved (shaved_trim l)).1]
    cases htrim : trim l with
    | nil =>
      rw [isFilled_iff, trim_eq_nil_iff.1 htrim] at hfilled
      cases hfilled
    | cons c cs =>
      have hvisible : startsVisible (trim l) = true :=
        ((trim_edges l).resolve_left (by rw [htrim]; exact List.cons_ne_nil c cs)).1
      rw [htrim, startsVisible_cons, Bool.not_eq_true'] at hvisible
      rw [readMarkers, hvisible, List.head?_cons, Option.some_inj.ne]
      by_cases hc : c = '>'
      · rw [if_pos hc]
        exact iff_of_false (Nat.succ_ne_zero _) fun hne => hne hc
      · rw [if_neg hc]
        exact iff_of_true rfl hc
  unfold Unmarked bareLines filled
  rw [List.forall_mem_map]
  constructor
  · intro h l hl
    obtain ⟨hmem, hfilled⟩ := List.mem_filter.1 hl
    exact (hline l hfilled).1 (h l hmem)
  · intro h l hl
    cases hfilled : isFilled l with
    | true => exact (hline l hfilled).2 (h l (List.mem_filter.2 ⟨hl, hfilled⟩))
    | false => exact (readMarkers_of_blank hfilled).1

end HtmlMarkdown.Markdown
