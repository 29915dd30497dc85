import HtmlMarkdown.Proofs.Text.Scan
import HtmlMarkdown.Proofs.Text.Words
import Mathlib.Data.List.Chain

/-!
# The edges of trimmed and collapsed texts

Trimming leaves nothing, or a text with a visible character at either end (`trim_edges`), so
trimming again changes nothing. Collapsing leaves no blank character but the space
(`eq_space_of_mem_collapse`), and it does not matter whether a text is trimmed before or after it
(`collapse_trim`). Behind a text it goes on with what the last character was
(`collapseAfter_append`).

* `KeepsBlank`: a rewriting of single characters that leaves the blank ones alone and makes visible
  ones of the others. **It goes through collapsing and trimming** (`KeepsBlank.collapse`,
  `KeepsBlank.trim`).
-/

namespace HtmlMarkdown.Text

variable {c : Char} {t u v : Text} {f : Char → Text}

/-! ## Trimming -/

theorem trimStart_cons_blank (h : isBlank c = true) (t : Text) :
    trimStart (c :: t) = trimStart t := by
  unfold trimStart
  rw [List.dropWhile_cons_of_pos h]

theorem trimStart_edge (t : Text) : trimStart t = [] ∨ startsVisible (trimStart t) = true := by
  induction t with
  | nil => exact Or.inl rfl
  | cons c cs ih =>
    cases hc : isBlank c with
    | true =>
      rw [trimStart_cons_blank hc]
      exact ih
    | false =>
      have hstart : startsVisible (c :: cs) = true := by simp [hc]
      rw [trimStart_of_starts hstart]
      exact Or.inr hstart

theorem trimEnd_edge (t : Text) : trimEnd t = [] ∨ endsVisible (trimEnd t) = true := by
  induction t using List.reverseRecOn with
  | nil => exact Or.inl rfl
  | append_singleton cs c ih =>
    cases hc : isBlank c with
    | true =>
      rw [trimEnd_append_blank hc]
      exact ih
    | false =>
      rw [trimEnd_append_visible hc]
      simp [hc]

theorem trimEnd_isPrefix (t : Text) : trimEnd t <+: t := by
  unfold trimEnd
  rw [dropEndWhile_eq]
  exact List.rdropWhile_prefix _ t

theorem trimEnd_eq_nil_iff : trimEnd t = [] ↔ isBlankText t = true := by
  constructor
  · intro h
    rw [← visible_eq_nil_iff, ← visible_trimEnd, h]
    rfl
  · intro h
    refine (trimEnd_edge t).resolve_right fun hend => ?_
    have hblank : isBlankText (trimEnd t) = true := by
      rw [← visible_eq_nil_iff, visible_trimEnd, visible_eq_nil_iff, h]
    rw [endsVisible_of_blank hblank] at hend
    cases hend

/-- **A trimmed text** is empty, or visible at either end. -/
theorem trim_edges (t : Text) :
    trim t = [] ∨ (startsVisible (trim t) = true ∧ endsVisible (trim t) = true) := by
  unfold trim
  rcases trimEnd_edge (trimStart t) with h | h
  · exact Or.inl h
  · refine Or.inr ⟨?_, h⟩
    rw [startsVisible_trimEnd]
    rcases trimStart_edge t with hs | hs
    · rw [hs] at h
      cases h
    · exact hs

theorem trimStart_trim (t : Text) : trimStart (trim t) = trim t := by
  rcases trim_edges t with h | ⟨hs, -⟩
  · rw [h]
    rfl
  · exact trimStart_of_starts hs

theorem ne_nil_of_starts (h : startsVisible t = true) : t ≠ [] := by
  rintro rfl
  cases h

theorem ne_nil_of_ends (h : endsVisible t = true) : t ≠ [] := by
  rintro rfl
  cases h

theorem trim_of_edges (hs : startsVisible t = true) (he : endsVisible t = true) : trim t = t := by
  unfold trim
  rw [trimStart_of_starts hs, trimEnd_of_ends he]

@[simp] theorem trim_trim (t : Text) : trim (trim t) = trim t := by
  rcases trim_edges t with h | ⟨hs, he⟩
  · rw [h]
    rfl
  · exact trim_of_edges hs he

/-- A text without blank space at either end is trimmed. -/
theorem trim_eq_self_iff : trim t = t ↔ startsBlank t = false ∧ endsBlank t = false := by
  constructor
  · intro h
    rcases trim_edges t with hnil | ⟨hs, he⟩
    · rw [← h, hnil]
      exact ⟨rfl, rfl⟩
    · rw [h, startsVisible_eq, Bool.and_eq_true] at hs
      rw [h, endsVisible_eq, Bool.and_eq_true] at he
      exact ⟨by simpa using hs.2, by simpa using he.2⟩
  · rintro ⟨hs, he⟩
    cases t with
    | nil => rfl
    | cons c cs =>
      exact trim_of_edges (by rw [startsVisible_eq, hs]; rfl) (by rw [endsVisible_eq, he]; rfl)

theorem trim_cons_blank (h : isBlank c = true) (t : Text) : trim (c :: t) = trim t := by
  unfold trim
  rw [trimStart_cons_blank h]

theorem trim_concat_blank (h : isBlank c = true) (t : Text) : trim (t ++ [c]) = trim t := by
  induction t with
  | nil => simp [trim, trimStart, h]
  | cons d ds ih =>
    cases hd : isBlank d with
    | true => rw [List.cons_append, trim_cons_blank hd, trim_cons_blank hd, ih]
    | false =>
      have hstart : ∀ u : Text, trimStart (d :: u) = d :: u := by
        intro u
        exact trimStart_of_starts (by simp [hd])
      unfold trim
      rw [List.cons_append, hstart, hstart, ← List.cons_append, trimEnd_append_blank h]

/-- Blank space around a text does not matter to trimming it. -/
theorem trim_between_spaces (t : Text) : trim (' ' :: (t ++ [' '])) = trim t := by
  rw [trim_cons_blank (by decide), trim_concat_blank (by decide)]

theorem trimEnd_cons_visible (h : isBlank c = false) (t : Text) :
    trimEnd (c :: t) = c :: trimEnd t := by
  unfold trimEnd
  rw [dropEndWhile]
  split
  · rename_i hnil
    rw [hnil, h]
    rfl
  · rfl

theorem trimEnd_trimEnd (t : Text) : trimEnd (trimEnd t) = trimEnd t := by
  rcases trimEnd_edge t with hnil | hend
  · rw [hnil]
    rfl
  · exact trimEnd_of_ends hend

theorem trimStart_trimEnd (t : Text) : trimStart (trimEnd t) = trimEnd (trimStart t) := by
  induction t with
  | nil => rfl
  | cons c cs ih =>
    cases hc : isBlank c with
    | false =>
      have hstart : startsVisible (c :: cs) = true := by simp [hc]
      rw [trimStart_of_starts hstart, trimStart_of_starts ((startsVisible_trimEnd _).trans hstart)]
    | true =>
      rw [trimStart_cons_blank hc, ← ih]
      unfold trimEnd
      rw [dropEndWhile]
      split
      · rename_i hnil
        rw [hnil, hc]
        rfl
      · exact trimStart_cons_blank hc _

theorem trimStart_append_blank (h : isBlankText u = true) (t : Text) :
    trimStart (u ++ t) = trimStart t :=
  List.dropWhile_append_of_pos (List.all_eq_true.1 h)

theorem startsBlank_trimStart (t : Text) : startsBlank (trimStart t) = false :=
  any_head?_dropWhile isBlank t

/-- Blank space is read as long as it goes. -/
theorem exists_trimStart (t : Text) : ∃ gap, isBlankText gap = true ∧ t = gap ++ trimStart t :=
  ⟨t.takeWhile isBlank, List.all_takeWhile,
    List.takeWhile_append_dropWhile.symm⟩

theorem trimStart_append_of_not_starts (hu : isBlankText u = true) (ht : startsBlank t = false) :
    trimStart (u ++ t) = t := by
  rw [trimStart_append_blank hu]
  cases t with
  | nil => rfl
  | cons c cs => exact trimStart_of_starts (by simpa [startsBlank] using ht)

/-- Visible characters that start a text start the trimmed text. -/
theorem isPrefix_trimEnd : ∀ {start : Text}, start.all (fun c => !isBlank c) = true → ∀ t : Text,
    isPrefix start (trimEnd t) = isPrefix start t := by
  intro start
  induction start with
  | nil => intro _ t; unfold isPrefix; rw [List.isPrefixOf_nil_left, List.isPrefixOf_nil_left]
  | cons d ds ih =>
    intro h t
    rw [List.all_cons, Bool.and_eq_true, Bool.not_eq_true'] at h
    cases t with
    | nil => rfl
    | cons c cs =>
      by_cases hc : d = c
      · subst hc
        rw [trimEnd_cons_visible h.1]
        have hrest := ih h.2 cs
        unfold isPrefix at hrest ⊢
        rw [List.isPrefixOf_cons_cons, List.isPrefixOf_cons_cons, hrest]
      · have hne : ¬ (d :: ds) <+: (c :: cs) := by
          rw [List.cons_prefix_cons]
          exact fun hstarts => hc hstarts.1
        have hne' : ¬ (d :: ds) <+: trimEnd (c :: cs) := fun hstarts =>
          hne (hstarts.trans (trimEnd_isPrefix _))
        unfold isPrefix
        rw [Bool.eq_iff_iff, List.isPrefixOf_iff_prefix, List.isPrefixOf_iff_prefix]
        exact iff_of_false hne' hne

theorem trimStart_suffix (t : Text) : trimStart t <:+ t := List.dropWhile_suffix _

theorem trim_sublist (t : Text) : (trim t).Sublist t :=
  (trimEnd_isPrefix _).sublist.trans (trimStart_suffix t).sublist

theorem mem_of_mem_trim (h : c ∈ trim t) : c ∈ t := (trim_sublist t).mem h

theorem mem_trim_iff (hc : isBlank c = false) : c ∈ trim t ↔ c ∈ t := by
  have hvisible : ∀ t : Text, c ∈ visible t ↔ c ∈ t := by
    intro t
    simp [visible, hc]
  rw [← hvisible, visible_trim, hvisible]

theorem not_mem_of_isBlankText (ht : isBlankText t = true) (hc : isBlank c = false) : c ∉ t := by
  intro hmem
  rw [List.all_eq_true.1 ht c hmem] at hc
  cases hc

/-! ## Collapsing -/

theorem eq_space_of_mem_collapseAfter : ∀ {t : Text} {afterBlank : Bool},
    c ∈ collapseAfter afterBlank t → isBlank c = true → c = ' ' := by
  intro t
  induction t with
  | nil => intro afterBlank h; cases h
  | cons d ds ih =>
    intro afterBlank h hc
    unfold collapseAfter at h
    cases hd : isBlank d with
    | true =>
      rw [hd, if_pos rfl] at h
      cases afterBlank with
      | true => exact ih h hc
      | false =>
        rcases List.mem_cons.1 h with h | h
        · exact h
        · exact ih h hc
    | false =>
      rw [hd, if_neg Bool.false_ne_true] at h
      rcases List.mem_cons.1 h with rfl | h
      · rw [hd] at hc
        cases hc
      · exact ih h hc

/-- **Spaces are all that is blank in a collapsed text.** -/
theorem eq_space_of_mem_collapse (h : c ∈ collapse t) (hc : isBlank c = true) : c = ' ' :=
  eq_space_of_mem_collapseAfter h hc

/-- No new visible character comes in. -/
theorem mem_of_mem_collapse (h : c ∈ collapse t) (hc : isBlank c = false) : c ∈ t := by
  have hmem : c ∈ visible (collapse t) := by simp [visible, h, hc]
  rw [visible_collapse] at hmem
  exact List.mem_of_mem_filter hmem

/-- A text is on one line once it is collapsed. -/
theorem feed_not_mem_collapse (t : Text) : '\n' ∉ collapse t :=
  fun h => absurd (eq_space_of_mem_collapse h (by decide)) (by decide)

/-- The same blank characters are collapsed, whatever they are. -/
theorem collapse_map {g : Char → Char} (hblank : ∀ c, isBlank (g c) = isBlank c)
    (hvisible : ∀ c, isBlank c = false → g c = c) (t : Text) :
    collapse (t.map g) = collapse t := by
  have key : ∀ (t : Text) (b : Bool), collapseAfter b (t.map g) = collapseAfter b t := by
    intro t
    induction t with
    | nil => intro b; rfl
    | cons c cs ih =>
      intro b
      rw [List.map_cons, collapseAfter, collapseAfter, hblank, ih, ih]
      cases hc : isBlank c with
      | true => rfl
      | false => rw [hvisible c hc]
  exact key t false

/-- Behind blank space a collapsed text starts visibly. -/
theorem collapseAfter_true_edge (t : Text) :
    collapseAfter true t = [] ∨ startsVisible (collapseAfter true t) = true := by
  induction t with
  | nil => exact Or.inl rfl
  | cons c cs ih =>
    unfold collapseAfter
    cases hc : isBlank c with
    | true => exact ih
    | false => exact Or.inr (by simp [hc])

theorem trimStart_collapse (t : Text) : trimStart (collapse t) = collapseAfter true t := by
  have hself : trimStart (collapseAfter true t) = collapseAfter true t := by
    rcases collapseAfter_true_edge t with h | h
    · rw [h]
      rfl
    · exact trimStart_of_starts h
  cases t with
  | nil => rfl
  | cons c cs =>
    cases hc : isBlank c with
    | true =>
      have hfalse : collapse (c :: cs) = ' ' :: collapseAfter true cs := by
        simp [collapse, collapseAfter, hc]
      have htrue : collapseAfter true (c :: cs) = collapseAfter true cs := by
        simp [collapseAfter, hc]
      rw [htrue] at hself
      rw [hfalse, htrue, trimStart_cons_blank (by decide), hself]
    | false =>
      have hsame : collapse (c :: cs) = collapseAfter true (c :: cs) := by
        simp [collapse, collapseAfter, hc]
      rw [hsame, hself]

theorem collapse_trimStart (t : Text) : collapse (trimStart t) = trimStart (collapse t) := by
  induction t with
  | nil => rfl
  | cons c cs ih =>
    cases hc : isBlank c with
    | true =>
      rw [trimStart_cons_blank hc, ih, trimStart_collapse, trimStart_collapse]
      simp [collapseAfter, hc]
    | false =>
      have hstart : startsVisible (c :: cs) = true := by simp [hc]
      rw [trimStart_of_starts hstart]
      exact (trimStart_of_starts ((startsVisible_collapse _).trans hstart)).symm

/-- Is the last character blank that was read, `b` telling of the one before the text? -/
def blankBehind (b : Bool) (t : Text) : Bool := t.foldl (fun _ c => isBlank c) b

theorem blankBehind_cons (b : Bool) (c : Char) (cs : Text) :
    blankBehind b (c :: cs) = blankBehind (isBlank c) cs := rfl

/-- **Behind a text collapsing goes on with what its last character was.** -/
theorem collapseAfter_append (t u : Text) (b : Bool) :
    collapseAfter b (t ++ u) = collapseAfter b t ++ collapseAfter (blankBehind b t) u := by
  induction t generalizing b with
  | nil => rfl
  | cons c cs ih =>
    rw [List.cons_append, collapseAfter, collapseAfter, blankBehind_cons]
    cases isBlank c <;> cases b <;> simp [ih]

/-- A further blank adds a space at most. -/
theorem collapseAfter_concat_blank (hc : isBlank c = true) (t : Text) (b : Bool) :
    collapseAfter b (t ++ [c]) = collapseAfter b t ∨
      collapseAfter b (t ++ [c]) = collapseAfter b t ++ [' '] := by
  rw [collapseAfter_append]
  cases blankBehind b t with
  | true => exact Or.inl (by simp [collapseAfter, hc])
  | false => exact Or.inr (by simp [collapseAfter, hc])

theorem collapseAfter_concat_visible (hc : isBlank c = false) (t : Text) (b : Bool) :
    collapseAfter b (t ++ [c]) = collapseAfter b t ++ [c] := by
  rw [collapseAfter_append]
  simp [collapseAfter, hc]

theorem collapse_trimEnd (t : Text) : collapse (trimEnd t) = trimEnd (collapse t) := by
  induction t using List.reverseRecOn with
  | nil => rfl
  | append_singleton cs c ih =>
    unfold collapse at ih ⊢
    cases hc : isBlank c with
    | true =>
      rw [trimEnd_append_blank hc, ih]
      rcases collapseAfter_concat_blank hc cs false with h | h
      · rw [h]
      · rw [h, trimEnd_append_blank (by decide)]
    | false =>
      rw [trimEnd_append_visible hc, collapseAfter_concat_visible hc, trimEnd_append_visible hc]

/-- **A text can be trimmed before it is collapsed or after it.** -/
theorem collapse_trim (t : Text) : collapse (trim t) = trim (collapse t) := by
  unfold trim
  rw [collapse_trimEnd, collapse_trimStart]

theorem collapse_collapse (t : Text) : collapse (collapse t) = collapse t := by
  have key : ∀ (t : Text) (b : Bool), collapseAfter b (collapseAfter b t) = collapseAfter b t := by
    intro t
    induction t with
    | nil => intro b; rfl
    | cons c cs ih =>
      intro b
      have hspace : isBlank ' ' = true := by decide
      cases hc : isBlank c <;> cases b <;> simp [collapseAfter, hc, hspace, ih]
  exact key t false

/-- **No two blank characters** stand next to each other. -/
def SingleSpaced (t : Text) : Prop := t.IsChain fun c d => ¬ (isBlank c = true ∧ isBlank d = true)

theorem isChain_collapseAfter (t : Text) (b : Bool) :
    SingleSpaced (collapseAfter b t) ∧ (b = true → startsBlank (collapseAfter b t) = false) := by
  unfold SingleSpaced
  induction t generalizing b with
  | nil => exact ⟨List.IsChain.nil, fun _ => rfl⟩
  | cons c cs ih =>
    unfold collapseAfter
    cases hc : isBlank c with
    | true =>
      obtain ⟨hchain, hstart⟩ := ih true
      cases b with
      | true => exact ih true
      | false =>
        -- behind the space nothing blank is left to start with
        refine ⟨hchain.cons fun d hd hboth => ?_, fun h => absurd h Bool.false_ne_true⟩
        have hblank : startsBlank (collapseAfter true cs) = true := by
          rw [startsBlank, hd]
          exact hboth.2
        rw [hstart rfl] at hblank
        cases hblank
    | false =>
      refine ⟨(ih false).1.cons fun d _ hboth => ?_, fun _ => hc⟩
      rw [hc] at hboth
      cases hboth.1

/-- **What collapsing leaves alone**: single spaces. -/
theorem collapse_eq_self_iff :
    collapse t = t ↔ SingleSpaced t ∧ ∀ c ∈ t, isBlank c = true → c = ' ' := by
  constructor
  · intro h
    refine ⟨?_, fun c hmem hc => ?_⟩
    · have hchain := (isChain_collapseAfter t false).1
      rwa [← collapse, h] at hchain
    · rw [← h] at hmem
      exact eq_space_of_mem_collapse hmem hc
  · rintro ⟨hchain, hspace⟩
    have key : ∀ (t : Text) (b : Bool), SingleSpaced t → (∀ c ∈ t, isBlank c = true → c = ' ') →
        (b = true → startsBlank t = false) → collapseAfter b t = t := by
      intro t
      induction t with
      | nil => intro b _ _ _; rfl
      | cons c cs ih =>
        intro b hchain hspace hstart
        have hrest := fun d hd => hspace d (List.mem_cons_of_mem c hd)
        obtain ⟨hpair, htail⟩ := List.isChain_cons.1 hchain
        unfold collapseAfter
        cases hc : isBlank c with
        | true =>
          have hb : b = false := by
            cases b with
            | true => exact absurd (hstart rfl) (by simp [startsBlank, hc])
            | false => rfl
          have hnext : startsBlank cs = false := by
            cases cs with
            | nil => rfl
            | cons d ds => simpa [startsBlank, hc] using hpair d rfl
          rw [hb, ih true htail hrest fun _ => hnext, hspace c List.mem_cons_self hc]
          rfl
        | false =>
          rw [ih false htail hrest fun h => absurd h Bool.false_ne_true]
          rfl
    exact key t false hchain hspace fun h => absurd h Bool.false_ne_true

/-- A text that was collapsed and trimmed stays as it is. -/
theorem collapse_trim_collapse (t : Text) : collapse (trim (collapse t)) = trim (collapse t) := by
  rw [collapse_trim, collapse_collapse]

theorem trim_collapse_eq_nil_iff : trim (collapse t) = [] ↔ isBlankText t = true := by
  rw [trim_eq_nil_iff, ← visible_eq_nil_iff, visible_collapse, visible_eq_nil_iff]

/-- What is left of a text that is not blank is visible at both ends. -/
theorem trim_collapse_edges (h : isBlankText t = false) :
    startsVisible (trim (collapse t)) = true ∧ endsVisible (trim (collapse t)) = true := by
  refine (trim_edges (collapse t)).resolve_left ?_
  rw [trim_collapse_eq_nil_iff, h]
  exact Bool.false_ne_true

theorem feed_not_mem_trim_collapse (t : Text) : '\n' ∉ trim (collapse t) :=
  fun h => feed_not_mem_collapse t (mem_of_mem_trim h)

/-! ## Rewriting visible characters -/

/-- The rewriting leaves blank characters alone and makes visible characters of the others. -/
structure KeepsBlank (f : Char → Text) : Prop where
  blank : ∀ c, isBlank c = true → f c = [c]
  ne_nil : ∀ c, isBlank c = false → f c ≠ []
  visible : ∀ c, isBlank c = false → ∀ d ∈ f c, isBlank d = false

namespace KeepsBlank

theorem collapseAfter_visible_append (hv : ∀ d ∈ v, isBlank d = false) (hne : v ≠ []) (b : Bool)
    (u : Text) : collapseAfter b (v ++ u) = v ++ collapseAfter false u := by
  induction v generalizing b with
  | nil => exact absurd rfl hne
  | cons d ds ih =>
    have hd := hv d List.mem_cons_self
    rw [List.cons_append, collapseAfter, hd, if_neg Bool.false_ne_true]
    by_cases hds : ds = []
    · rw [hds]
      rfl
    · rw [ih (fun e he => hv e (List.mem_cons_of_mem _ he)) hds]
      rfl

/-- **Rewriting goes through collapsing.** -/
theorem collapse (hf : KeepsBlank f) (t : Text) :
    Text.collapse (t.flatMap f) = (Text.collapse t).flatMap f := by
  have hspace : f ' ' = [' '] := hf.blank _ (by decide)
  have key : ∀ (t : Text) (b : Bool),
      collapseAfter b (t.flatMap f) = (collapseAfter b t).flatMap f := by
    intro t
    induction t with
    | nil => intro b; rfl
    | cons c cs ih =>
      intro b
      rw [List.flatMap_cons]
      cases hc : isBlank c with
      | true =>
        rw [hf.blank c hc, List.singleton_append, collapseAfter, collapseAfter, hc, ih]
        cases b <;> simp [hspace]
      | false =>
        rw [collapseAfter_visible_append (hf.visible c hc) (hf.ne_nil c hc), ih]
        simp [collapseAfter, hc]
  exact key t false

theorem startsVisible (hf : KeepsBlank f) (hc : isBlank c = false) (u : Text) :
    Text.startsVisible (f c ++ u) = true := by
  cases h : f c with
  | nil => exact absurd h (hf.ne_nil c hc)
  | cons d ds =>
    have hd := hf.visible c hc d (by rw [h]; exact List.mem_cons_self)
    simp [hd]

theorem endsVisible (hf : KeepsBlank f) (hc : isBlank c = false) (u : Text) :
    Text.endsVisible (u ++ f c) = true := by
  rw [endsVisible_append u (hf.ne_nil c hc)]
  cases h : f c using List.reverseRecOn with
  | nil => exact absurd h (hf.ne_nil c hc)
  | append_singleton ds d =>
    have hd := hf.visible c hc d (by rw [h]; simp)
    simp [hd]

theorem trimStart (hf : KeepsBlank f) (t : Text) :
    Text.trimStart (t.flatMap f) = (Text.trimStart t).flatMap f := by
  induction t with
  | nil => rfl
  | cons c cs ih =>
    cases hc : isBlank c with
    | true =>
      rw [List.flatMap_cons, hf.blank c hc, List.singleton_append, trimStart_cons_blank hc,
        trimStart_cons_blank hc, ih]
    | false =>
      rw [trimStart_of_starts (by simp [hc] : Text.startsVisible (c :: cs) = true),
        List.flatMap_cons, trimStart_of_starts (hf.startsVisible hc _)]

theorem trimEnd (hf : KeepsBlank f) (t : Text) :
    Text.trimEnd (t.flatMap f) = (Text.trimEnd t).flatMap f := by
  induction t using List.reverseRecOn with
  | nil => rfl
  | append_singleton cs c ih =>
    rw [List.flatMap_append, List.flatMap_singleton]
    cases hc : isBlank c with
    | true => rw [hf.blank c hc, trimEnd_append_blank hc, trimEnd_append_blank hc, ih]
    | false =>
      rw [trimEnd_append_visible hc, trimEnd_of_ends (hf.endsVisible hc _), List.flatMap_append,
        List.flatMap_singleton]

/-- **Rewriting goes through trimming.** -/
theorem trim (hf : KeepsBlank f) (t : Text) :
    Text.trim (t.flatMap f) = (Text.trim t).flatMap f := by
  unfold Text.trim
  rw [hf.trimStart, hf.trimEnd]

end KeepsBlank

end HtmlMarkdown.Text
