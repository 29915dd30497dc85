import HtmlMarkdown.Proofs.Markdown.Layout

/-!
# Headings in a layout

A heading outside fenced code gets one space behind its marker and an empty line on either side;
any other line loses its trailing blank space (`laidLine`, `classify_cons`). Laying out a text again
changes nothing, because the lines of a layout are read as what they were laid out as
(`classify_stackLines`).

* `inCode`: whether lines open fenced code, by the number of fences among them.
* `layout_eq_iff`: **a layout only trims its lines** if and only if the headings of the text are set
  apart already.
-/

namespace HtmlMarkdown.Markdown

open Text

variable {line above : Line} {rest : List Line} {t l marker space title : Text} {ls : List Text}
  {fenced : Bool}

/-! ## A heading -/

/-- A heading that was laid out is laid out as it is. -/
theorem IsHeading.laid (hl : IsHeading l marker space title) :
    IsHeading (marker ++ ' ' :: title) marker [' '] title where
  line_eq := rfl
  signs := hl.signs
  marker_ne_nil := hl.marker_ne_nil
  marker_le := hl.marker_le
  blank := rfl
  starts := hl.starts
  ended := by simp

/-- A heading is no fence. -/
theorem heading?_of_isFence (hfence : isFence l = true) : heading? l = none := by
  rw [heading?_eq_none_iff]
  intro marker space title hl
  obtain ⟨c, cs, hcs⟩ := List.exists_cons_of_ne_nil hl.marker_ne_nil
  have hc : c = '#' := hl.signs c (by rw [hcs]; exact List.mem_cons_self)
  have hfalse : isFence ('#' :: (cs ++ (space ++ title))) = false := rfl
  rw [hl.line_eq, hcs, hc, List.cons_append, hfalse] at hfence
  cases hfence

/-! ## One line -/

theorem isFence_trimEnd (l : Text) : isFence (trimEnd l) = isFence l := by
  unfold isFence
  simp only
  rw [trimStart_trimEnd, isPrefix_trimEnd (by decide), isPrefix_trimEnd (by decide)]

/-- What becomes of a line, inside fenced code or outside. -/
def laidLine (fenced : Bool) (l : Text) : Line :=
  match if fenced then none else heading? (trimEnd l) with
  | some h => ⟨h, true⟩
  | none => ⟨trimEnd l, false⟩

theorem laidLine_fenced (l : Text) : laidLine true l = ⟨trimEnd l, false⟩ := rfl

theorem laidLine_heading (h : IsHeading (trimEnd l) marker space title) :
    laidLine false l = ⟨marker ++ ' ' :: title, true⟩ := by
  unfold laidLine
  rw [if_neg Bool.false_ne_true, heading?_eq_some_iff.2 ⟨marker, space, title, h, rfl⟩]

theorem laidLine_other (h : ∀ marker space title, ¬ IsHeading (trimEnd l) marker space title) :
    laidLine false l = ⟨trimEnd l, false⟩ := by
  unfold laidLine
  rw [if_neg Bool.false_ne_true, heading?_eq_none_iff.2 h]

/-- A fence is laid out like any line, and starts or ends the code behind it. -/
theorem classify_cons (fenced : Bool) (l : Text) (ls : List Text) :
    classify fenced (l :: ls) = laidLine fenced l :: classify (fenced != isFence l) ls := by
  rw [classify, isFence_trimEnd]
  cases hfence : isFence l with
  | true =>
    rw [if_pos rfl, Bool.bne_true]
    rw [← isFence_trimEnd] at hfence
    unfold laidLine
    rw [heading?_of_isFence hfence, ite_self]
  | false =>
    rw [if_neg Bool.false_ne_true, Bool.bne_false]
    unfold laidLine
    cases (if fenced then none else heading? (trimEnd l)) <;> rfl

theorem LaidOut.trimEnd_text {line : Line} (hl : LaidOut l line) :
    trimEnd line.text = line.text := by
  cases hfilled : Markdown.isFilled l with
  | true => exact trimEnd_of_ends (hl.endsVisible hfilled)
  | false =>
    have hblank : isBlankText l = true := by
      rw [← Bool.not_eq_false, ← isFilled_iff, hfilled]
      exact Bool.false_ne_true
    rw [hl.eq_nil_iff.2 hblank]
    rfl

/-- A line is laid out as a heading, or trimmed. -/
theorem laidLine_cases (fenced : Bool) (l : Text) :
    (∃ marker space title, fenced = false ∧ IsHeading (trimEnd l) marker space title ∧
        laidLine fenced l = ⟨marker ++ ' ' :: title, true⟩) ∨
      ((fenced = true ∨ ∀ marker space title, ¬ IsHeading (trimEnd l) marker space title) ∧
        laidLine fenced l = ⟨trimEnd l, false⟩) := by
  cases fenced with
  | true => exact Or.inr ⟨Or.inl rfl, rfl⟩
  | false =>
    cases hheading : heading? (trimEnd l) with
    | none =>
      have hno := heading?_eq_none_iff.1 hheading
      exact Or.inr ⟨Or.inr hno, laidLine_other hno⟩
    | some h =>
      obtain ⟨marker, space, title, hl, -⟩ := heading?_eq_some_iff.1 hheading
      exact Or.inl ⟨marker, space, title, rfl, hl, laidLine_heading hl⟩

theorem laidOut_laidLine (fenced : Bool) (l : Text) : LaidOut l (laidLine fenced l) := by
  rcases laidLine_cases fenced l with ⟨marker, space, title, -, hl, heq⟩ | ⟨-, heq⟩
  · rw [heq]
    exact Or.inr (heading?_eq_some_iff.2 ⟨marker, space, title, hl, rfl⟩)
  · rw [heq]
    exact Or.inl rfl

theorem IsHeading.isFence (hl : IsHeading l marker space title) : isFence l = false := by
  rw [← Bool.not_eq_true]
  intro hfence
  exact heading?_eq_none_iff.1 (heading?_of_isFence hfence) _ _ _ hl

/-- **A line of a layout** is laid out as it is. -/
theorem laidLine_laid (fenced : Bool) (l : Text) :
    laidLine fenced (laidLine fenced l).text = laidLine fenced l ∧
      isFence (laidLine fenced l).text = isFence l := by
  have htrim := (laidOut_laidLine fenced l).trimEnd_text
  rcases laidLine_cases fenced l with ⟨marker, space, title, rfl, hl, heq⟩ | ⟨hno, heq⟩
  · rw [heq] at htrim ⊢
    have hlaid : IsHeading (trimEnd (marker ++ ' ' :: title)) marker [' '] title := by
      rw [htrim]
      exact hl.laid
    rw [laidLine_heading hlaid, hl.laid.isFence, ← isFence_trimEnd l, hl.isFence]
    exact ⟨rfl, rfl⟩
  · rw [heq] at htrim ⊢
    refine ⟨?_, isFence_trimEnd l⟩
    rcases hno with rfl | hno
    · rw [laidLine_fenced, htrim]
    · cases fenced with
      | true => rw [laidLine_fenced, htrim]
      | false => rw [laidLine_other (by rw [htrim]; exact hno), htrim]

/-! ## All lines -/

/-- Do the lines open fenced code? Every fence among them starts or ends it. -/
def inCode (ls : List Text) : Bool := ls.countP isFence % 2 == 1

theorem inCode_cons (l : Text) (ls : List Text) : inCode (l :: ls) = (isFence l != inCode ls) := by
  unfold inCode
  rw [List.countP_cons]
  cases isFence l with
  | true =>
    rcases Nat.mod_two_eq_zero_or_one (ls.countP isFence) with h | h <;>
      simp [Nat.add_mod, h]
  | false => simp

/-- **Each line is laid out by itself**, inside fenced code if those before it open it. -/
theorem classify_eq : ∀ (ls : List Text) (fenced : Bool),
    classify fenced ls = (withBefore ls).map fun p => laidLine (fenced != inCode p.1) p.2 := by
  intro ls
  induction ls with
  | nil => intro fenced; rfl
  | cons l ls ih =>
    intro fenced
    rw [classify_cons, ih, withBefore_cons, List.map_cons, List.map_map]
    have hnil : inCode [] = false := rfl
    simp only [hnil, Bool.bne_false, Function.comp_def, inCode_cons, Bool.bne_assoc]

theorem classify_append (ls : List Text) : ∀ (fenced : Bool) (ms : List Text),
    classify fenced (ls ++ ms) = classify fenced ls ++ classify (fenced != inCode ls) ms := by
  induction ls with
  | nil => intro fenced ms; simp [inCode, classify]
  | cons l ls ih =>
    intro fenced ms
    rw [List.cons_append, classify_cons, classify_cons, ih, List.cons_append, inCode_cons,
      Bool.bne_assoc]

/-! ## A layout of a layout -/

/-- The lines of a stack with their roles. -/
def stacked : Line → List Line → List Line
  | above, [] => [above]
  | above, line :: rest => above :: ((gap above line).map (⟨·, false⟩) ++ stacked line rest)

theorem stacked_text : ∀ (rest : List Line) (above : Line),
    (stacked above rest).map Line.text = stackLines above rest := by
  intro rest
  induction rest with
  | nil => intro above; rfl
  | cons line rest ih =>
    intro above
    have hid : (fun l : Text => (Line.mk l false).text) = id := rfl
    rw [stacked, stackLines, List.map_cons, List.map_append, List.map_map, ih, Function.comp_def,
      hid, List.map_id]

/-- **The lines of a layout are read as what they were laid out as.** -/
theorem classify_stackLines : ∀ (ls : List Text) {fenced : Bool} {above : Line} {rest : List Line},
    classify fenced ls = above :: rest →
      classify fenced (stackLines above rest) = stacked above rest := by
  intro ls
  induction ls with
  | nil => intro fenced above rest h; cases h
  | cons l ls ih =>
    intro fenced above rest h
    rw [classify_cons, List.cons.injEq] at h
    obtain ⟨rfl, hrest⟩ := h
    obtain ⟨hline, hfence⟩ := laidLine_laid fenced l
    cases rest with
    | nil =>
      rw [stackLines, stacked, classify_cons, hline]
      rfl
    | cons line rest =>
      -- an empty line that was put in is neither a fence nor a heading
      have hgap : ∀ f ms, classify f (gap (laidLine fenced l) line ++ ms) =
          (gap (laidLine fenced l) line).map (⟨·, false⟩) ++ classify f ms := by
        intro f ms
        rcases gap_cases (laidLine fenced l) line with hgap | ⟨hgap, -, -⟩
        · rw [hgap]
          rfl
        · have hempty : laidLine f [] = ⟨[], false⟩ := by cases f <;> rfl
          rw [hgap, List.singleton_append, classify_cons, hempty]
          have hfence : isFence [] = false := rfl
          rw [hfence, Bool.bne_false]
          rfl
      rw [stackLines, stacked, classify_cons, hline, hfence, hgap, ih hrest]

/-- No empty line is missing between the two. -/
def Spaced (above line : Line) : Prop := isGap above line = false

theorem spaced_iff (above line : Line) :
    Spaced above line ↔
      (above.isHeading = true ∨ line.isHeading = true → above.text = [] ∨ line.text = []) := by
  unfold Spaced isGap
  cases above.isHeading <;> cases line.isHeading <;> cases above.text <;> cases line.text <;> simp

/-- Nothing is missing between an empty line and any other. -/
theorem isChain_stacked : ∀ (rest : List Line) (above : Line),
    (stacked above rest).IsChain Spaced := by
  intro rest
  induction rest with
  | nil => intro above; exact List.isChain_singleton above
  | cons line rest ih =>
    intro above
    have hhead : ∀ b ∈ (stacked line rest).head?, b = line := by
      cases rest <;> simp [stacked]
    rw [stacked]
    cases hgap : isGap above line with
    | true =>
      have heq : gap above line = [[]] := by rw [gap, hgap, if_pos rfl]
      rw [heq, List.map_singleton, List.singleton_append, List.isChain_cons_cons,
        List.isChain_cons]
      refine ⟨(spaced_iff _ _).2 fun _ => Or.inr rfl, fun b _ => ?_, ih line⟩
      exact (spaced_iff _ _).2 fun _ => Or.inl rfl
    | false =>
      have heq : gap above line = [] := by rw [gap, hgap, if_neg Bool.false_ne_true]
      rw [heq, List.map_nil, List.nil_append, List.isChain_cons]
      refine ⟨fun b hb => ?_, ih line⟩
      rw [hhead b hb]
      exact hgap

/-- A stack adds lines, unless none is missing. -/
theorem length_stackLines : ∀ (rest : List Line) (above : Line),
    rest.length + 1 ≤ (stackLines above rest).length ∧
      ((stackLines above rest).length = rest.length + 1 → (above :: rest).IsChain Spaced) := by
  intro rest
  induction rest with
  | nil => intro above; exact ⟨le_rfl, fun _ => List.isChain_singleton above⟩
  | cons line rest ih =>
    intro above
    obtain ⟨hle, hchain⟩ := ih line
    rw [List.length_cons, stackLines, List.length_cons, List.length_append,
      List.isChain_cons_cons, Spaced]
    cases hgap : isGap above line with
    | true =>
      have hone : (gap above line).length = 1 := by rw [gap, hgap]; rfl
      rw [hone]
      exact ⟨by omega, fun h => by omega⟩
    | false =>
      have hnone : (gap above line).length = 0 := by rw [gap, hgap]; rfl
      rw [hnone]
      exact ⟨by omega, fun h => ⟨rfl, hchain (by omega)⟩⟩

theorem stackLines_of_isChain : ∀ {rest : List Line} {above : Line},
    (above :: rest).IsChain Spaced → stackLines above rest = (above :: rest).map Line.text := by
  intro rest
  induction rest with
  | nil => intro above _; rfl
  | cons line rest ih =>
    intro above h
    rw [List.isChain_cons_cons, Spaced] at h
    have hgap : gap above line = [] := by rw [gap, h.1, if_neg Bool.false_ne_true]
    rw [stackLines, hgap, List.nil_append, ih h.2]
    rfl

theorem stackLines_eq_iff (hlength : ls.length = rest.length + 1) :
    stackLines above rest = ls ↔
      (above :: rest).map Line.text = ls ∧ (above :: rest).IsChain Spaced := by
  constructor
  · intro heq
    have hchain := (length_stackLines rest above).2 (by rw [heq, hlength])
    exact ⟨(stackLines_of_isChain hchain).symm.trans heq, hchain⟩
  · rintro ⟨heq, hchain⟩
    rw [stackLines_of_isChain hchain, heq]

/-- **The lines of a layout are read as they stand**, and no empty line is missing. -/
theorem classify_layout (t : Text) :
    (classify false (linesOf (layout t))).map Line.text = linesOf (layout t) ∧
      (classify false (linesOf (layout t))).IsChain Spaced := by
  obtain ⟨above, rest, hclass, -, hlines⟩ := layout_lines t
  rw [hlines, classify_stackLines _ hclass, stacked_text]
  exact ⟨rfl, isChain_stacked rest above⟩

/-- The layout puts nothing between lines where no empty line is missing. -/
theorem linesOf_layout_eq_iff (hlength : ls.length = (linesOf t).length) :
    linesOf (layout t) = ls ↔
      (classify false (linesOf t)).map Line.text = ls ∧
        (classify false (linesOf t)).IsChain Spaced := by
  obtain ⟨above, rest, hclass, -, hlines⟩ := layout_lines t
  have hrest : (above :: rest).length = (linesOf t).length := by
    rw [← hclass, classify_eq, List.length_map, length_withBefore]
  rw [hlines, hclass]
  exact stackLines_eq_iff (hlength.trans hrest.symm)

/-- **A layout of a layout** is the layout. -/
theorem layout_layout (t : Text) : layout (layout t) = layout t :=
  eq_of_linesOf ((linesOf_layout_eq_iff rfl).2 (classify_layout t))

/-- No line of a layout ends in blank space. -/
theorem trimEnd_of_mem_layout (h : l ∈ linesOf (layout t)) : trimEnd l = l := by
  rw [← (classify_layout t).1, classify_eq, List.map_map] at h
  obtain ⟨p, -, rfl⟩ := List.mem_map.1 h
  exact (laidOut_laidLine _ p.2).trimEnd_text

/-! ## Headings set apart -/

/-- **Headings are set apart**: each outside fenced code has one space behind its marker and an
empty line, or an edge of the text, on either side. The lines may start inside fenced code. -/
def SetApart (fenced : Bool) (ls : List Text) : Prop :=
  ∀ before line after, ls = before ++ line :: after → (fenced != inCode before) = false →
    ∀ marker space title, IsHeading line marker space title →
      space = [' '] ∧ (∀ l ∈ before.getLast?, l = []) ∧ (∀ l ∈ after.head?, l = [])

theorem SetApart.tail (h : SetApart fenced (l :: ls)) : SetApart (fenced != isFence l) ls := by
  rintro before line after rfl hcode marker space title hline
  have hcode' : (fenced != inCode (l :: before)) = false := by
    rw [inCode_cons, ← Bool.bne_assoc, hcode]
  obtain ⟨hspace, hbefore, hafter⟩ := h (l :: before) line after rfl hcode' _ _ _ hline
  refine ⟨hspace, fun l' hl' => hbefore l' ?_, hafter⟩
  rw [List.getLast?_cons, Option.mem_def] at *
  rw [hl']
  rfl

theorem isHeading_laidLine :
    (laidLine fenced l).isHeading = true ↔
      fenced = false ∧ ∃ marker space title, IsHeading (trimEnd l) marker space title := by
  rcases laidLine_cases fenced l with ⟨marker, space, title, hf, hl, heq⟩ | ⟨hno, heq⟩
  · rw [heq]
    exact iff_of_true rfl ⟨hf, marker, space, title, hl⟩
  · rw [heq]
    refine iff_of_false Bool.false_ne_true ?_
    rintro ⟨hf, marker, space, title, hl⟩
    rcases hno with hno | hno
    · rw [hf] at hno
      cases hno
    · exact hno _ _ _ hl

theorem laidLine_nil (fenced : Bool) : laidLine fenced [] = ⟨[], false⟩ := by cases fenced <;> rfl

/-- Where headings are set apart, the lines stay and none is put in. -/
theorem SetApart.classify_text : ∀ {ls : List Text} {fenced : Bool}, SetApart fenced ls →
    (∀ l ∈ ls, trimEnd l = l) →
      (classify fenced ls).map Line.text = ls ∧ (classify fenced ls).IsChain Spaced := by
  intro ls
  induction ls with
  | nil => intro fenced _ _; exact ⟨rfl, List.isChain_nil⟩
  | cons l ls ih =>
    intro fenced hapart htrim
    rw [List.forall_mem_cons] at htrim
    obtain ⟨htexts, hchain⟩ := ih hapart.tail htrim.2
    have hself : (laidLine fenced l).text = l := by
      rcases laidLine_cases fenced l with ⟨marker, space, title, rfl, hl, heq⟩ | ⟨-, heq⟩
      · rw [htrim.1] at hl
        obtain ⟨hspace, -, -⟩ := hapart [] l ls rfl rfl _ _ _ hl
        rw [heq, hl.line_eq, hspace]
        rfl
      · rw [heq, htrim.1]
    rw [classify_cons, List.map_cons, htexts, hself, List.isChain_cons]
    refine ⟨rfl, ?_, hchain⟩
    cases ls with
    | nil => exact nofun
    | cons l' ls =>
      rw [List.forall_mem_cons] at htrim
      intro b hb
      rw [classify_cons, List.head?_cons, Option.mem_some] at hb
      rw [← hb, spaced_iff]
      rintro (hheading | hheading)
      · -- a heading with a line below
        obtain ⟨rfl, marker, space, title, hl⟩ := isHeading_laidLine.1 hheading
        rw [htrim.1] at hl
        obtain ⟨-, -, hafter⟩ := hapart [] l _ rfl rfl _ _ _ hl
        rw [hafter l' rfl, laidLine_nil]
        exact Or.inr rfl
      · -- a heading with a line above
        obtain ⟨hcode, marker, space, title, hl⟩ := isHeading_laidLine.1 hheading
        rw [htrim.2.1] at hl
        have hcode' : (fenced != inCode [l]) = false := by
          rw [inCode_cons]
          exact (congrArg _ (Bool.bne_false _)).trans hcode
        obtain ⟨-, hbefore, -⟩ := hapart [l] l' ls rfl hcode' _ _ _ hl
        rw [hself]
        exact Or.inl (hbefore l rfl)

/-- Where the lines stay and none is put in, headings are set apart. -/
theorem setApart_of_classify (htrim : ∀ l ∈ ls, trimEnd l = l)
    (htexts : (classify fenced ls).map Line.text = ls)
    (hchain : (classify fenced ls).IsChain Spaced) : SetApart fenced ls := by
  rintro before line after rfl hcode marker space title hline
  have hself := htrim line (by simp)
  have hlaid : laidLine false line = ⟨marker ++ ' ' :: title, true⟩ := by
    have hline' : IsHeading (trimEnd line) marker space title := by
      rw [hself]
      exact hline
    exact laidLine_heading hline'
  rw [classify_append, classify_cons, hcode, hlaid] at htexts hchain
  rw [List.map_append, List.map_cons] at htexts
  obtain ⟨hbefore, hrest⟩ := List.append_inj htexts (by
    rw [List.length_map, classify_eq, List.length_map, length_withBefore])
  obtain ⟨hheading, hafter⟩ := List.cons.inj hrest
  obtain ⟨-, hbelow, habove⟩ := List.isChain_append.1 hchain
  have hne : marker ++ ' ' :: title ≠ [] := by simp
  refine ⟨?_, fun l hl => ?_, fun l hl => ?_⟩
  · have hspace : marker ++ ([' '] ++ title) = marker ++ (space ++ title) :=
      hheading.trans hline.line_eq
    exact (List.append_cancel_right (List.append_cancel_left hspace)).symm
  · rw [← hbefore, List.getLast?_map] at hl
    obtain ⟨a, ha, rfl⟩ := Option.map_eq_some_iff.1 hl
    have hspaced := habove a ha _ rfl
    exact ((spaced_iff _ _).1 hspaced (Or.inr rfl)).resolve_right hne
  · rw [← hafter, List.head?_map] at hl
    obtain ⟨b, hb, rfl⟩ := Option.map_eq_some_iff.1 hl
    have hspaced := (List.isChain_cons.1 hbelow).1 b hb
    exact ((spaced_iff _ _).1 hspaced (Or.inl rfl)).resolve_left hne

theorem classify_map_trimEnd : ∀ (ls : List Text) (fenced : Bool),
    classify fenced (ls.map trimEnd) = classify fenced ls := by
  intro ls
  induction ls with
  | nil => intro fenced; rfl
  | cons l ls ih =>
    intro fenced
    have hline : laidLine fenced (trimEnd l) = laidLine fenced l := by
      unfold laidLine
      rw [trimEnd_trimEnd]
    rw [List.map_cons, classify_cons, classify_cons, isFence_trimEnd, hline, ih]

/-- **A layout only trims its lines** if and only if the headings among them are set apart. -/
theorem layout_eq_iff (t : Text) :
    layout t = joinLines ((linesOf t).map trimEnd) ↔ SetApart false ((linesOf t).map trimEnd) := by
  have hne : (linesOf t).map trimEnd ≠ [] := by simp [linesOf_ne_nil]
  have hfeed : ∀ l ∈ (linesOf t).map trimEnd, '\n' ∉ l := by
    intro l hl hmem
    obtain ⟨l', hl', rfl⟩ := List.mem_map.1 hl
    exact feed_not_mem_of_mem_linesOf hl' ((trimEnd_isPrefix l').mem hmem)
  have htrim : ∀ l ∈ (linesOf t).map trimEnd, trimEnd l = l := by
    intro l hl
    obtain ⟨l', -, rfl⟩ := List.mem_map.1 hl
    exact trimEnd_trimEnd l'
  have hjoin : layout t = joinLines ((linesOf t).map trimEnd) ↔
      linesOf (layout t) = (linesOf t).map trimEnd := by
    constructor
    · intro h
      rw [h, linesOf_joinLines hne hfeed]
    · intro h
      rw [← h, joinLines_linesOf]
  -- a layout has as many lines as the text only if it puts none in
  rw [hjoin, linesOf_layout_eq_iff (List.length_map _), ← classify_map_trimEnd]
  constructor
  · rintro ⟨htexts, hchain⟩
    exact setApart_of_classify htrim htexts hchain
  · intro hapart
    exact hapart.classify_text htrim

/-! ## What a layout does -/

/-- **A line as it is laid out**: behind the marker of a heading outside fenced code stands one
space, and any other line is trimmed at its end. -/
inductive LaidAs : (code : Bool) → Text → Line → Prop where
  | heading {l marker space title : Text} : IsHeading (trimEnd l) marker space title →
      LaidAs false l ⟨marker ++ ' ' :: title, true⟩
  | code (l : Text) : LaidAs true l ⟨trimEnd l, false⟩
  | other {l : Text} : (∀ marker space title, ¬ IsHeading (trimEnd l) marker space title) →
      LaidAs false l ⟨trimEnd l, false⟩

theorem laidAs_laidLine (fenced : Bool) (l : Text) : LaidAs fenced l (laidLine fenced l) := by
  rcases laidLine_cases fenced l with ⟨marker, space, title, rfl, hl, heq⟩ | ⟨hno, heq⟩
  · rw [heq]
    exact .heading hl
  · rw [heq]
    cases fenced with
    | true => exact .code l
    | false => exact .other (hno.resolve_left Bool.false_ne_true)

/-- **The lines, with empty ones put in**: each between two lines that are not empty, one of them
a heading. -/
inductive Parted : List Line → List Text → Prop where
  | last (line : Line) : Parted [line] [line.text]
  | next {above below : Line} {rest : List Line} {out : List Text} :
      Parted (below :: rest) out → Parted (above :: below :: rest) (above.text :: out)
  | gap {above below : Line} {rest : List Line} {out : List Text} :
      above.isHeading = true ∨ below.isHeading = true → above.text ≠ [] → below.text ≠ [] →
        Parted (below :: rest) out → Parted (above :: below :: rest) (above.text :: [] :: out)

theorem parted_stackLines : ∀ (rest : List Line) (above : Line),
    Parted (above :: rest) (stackLines above rest) := by
  intro rest
  induction rest with
  | nil => intro above; exact .last above
  | cons line rest ih =>
    intro above
    rw [stackLines, gap]
    split
    · rename_i hgap
      unfold isGap at hgap
      simp only [Bool.and_eq_true, Bool.or_eq_true, Bool.not_eq_true', List.isEmpty_eq_false_iff]
        at hgap
      exact .gap hgap.1.1 hgap.1.2 hgap.2 (ih line)
    · exact .next (ih line)

/-- **What a layout does**: laid out again it stays the same; no line of it ends in blank space; its
headings are set apart; and apart from empty lines next to headings its lines are those of the text,
in order, each laid out by itself. -/
theorem layout_tidies (t : Text) :
    layout (layout t) = layout t ∧ (∀ l ∈ linesOf (layout t), trimEnd l = l) ∧
      SetApart false (linesOf (layout t)) ∧
      ∃ laid, List.Forall₂ (fun p line => LaidAs (inCode p.1) p.2 line)
          (withBefore (linesOf t)) laid ∧ Parted laid (linesOf (layout t)) := by
  have htrim : ∀ l ∈ linesOf (layout t), trimEnd l = l := fun l hl => trimEnd_of_mem_layout hl
  obtain ⟨htexts, hchain⟩ := classify_layout t
  obtain ⟨above, rest, hclass, -, hlines⟩ := layout_lines t
  refine ⟨layout_layout t, htrim, setApart_of_classify htrim htexts hchain, above :: rest, ?_, ?_⟩
  · rw [← hclass, classify_eq, List.forall₂_map_right_iff, List.forall₂_same]
    intro p _
    rw [Bool.false_bne]
    exact laidAs_laidLine _ _
  · rw [hlines]
    exact parted_stackLines rest above

end HtmlMarkdown.Markdown
