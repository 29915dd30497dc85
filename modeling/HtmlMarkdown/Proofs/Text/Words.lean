import HtmlMarkdown.Proofs.Text.Trim
import HtmlMarkdown.Markdown.Shape

/-!
# Words

Words are what stands between blank space, so they do not depend on how much of it there is: see
`words_trim` and `words_collapse`. Where two texts are put together, the words of both remain, but
if a visible character meets another at the seam the last word of the one and the first word of the
other become one (`words_append`).

* `words_lines`: a text has the words of its lines.
* `Joins`: the words of one text are those of another, or fewer because some have run together.
* `Joins.append`: how that goes through a seam.
* `Joins.flatMap`: and along a row of texts.
-/

namespace HtmlMarkdown.Text

variable {c : Char} {t u x y x' y' : Text}

/-- Does the text end in a visible character? -/
def endsVisible (t : Text) : Bool := t.getLast?.any fun c => !isBlank c

/-- Does the text start with a visible character? -/
def startsVisible (t : Text) : Bool := t.head?.any fun c => !isBlank c

@[simp] theorem startsVisible_nil : startsVisible [] = false := rfl

@[simp] theorem startsVisible_cons (c : Char) (cs : Text) :
    startsVisible (c :: cs) = !isBlank c := rfl

@[simp] theorem endsVisible_concat (t : Text) (c : Char) :
    endsVisible (t ++ [c]) = !isBlank c := by
  unfold endsVisible
  rw [List.getLast?_concat]
  rfl

theorem startsVisible_eq (t : Text) : startsVisible t = (!t.isEmpty && !startsBlank t) := by
  cases t <;> rfl

theorem endsVisible_eq (t : Text) : endsVisible t = (!t.isEmpty && !endsBlank t) := by
  cases t using List.reverseRecOn with
  | nil => rfl
  | append_singleton cs c => simp [endsBlank]

theorem startsVisible_append (h : t ≠ []) (u : Text) :
    startsVisible (t ++ u) = startsVisible t := by
  cases t with
  | nil => exact absurd rfl h
  | cons c cs => rfl

theorem endsVisible_append (t : Text) (h : u ≠ []) : endsVisible (t ++ u) = endsVisible u := by
  unfold endsVisible
  rw [List.getLast?_append_of_ne_nil t h]

theorem startsBlank_append (h : t ≠ []) (u : Text) : startsBlank (t ++ u) = startsBlank t := by
  unfold startsBlank
  rw [List.head?_append_of_ne_nil t h]

theorem endsBlank_append (t : Text) (h : u ≠ []) : endsBlank (t ++ u) = endsBlank u := by
  unfold endsBlank
  rw [List.getLast?_append_of_ne_nil t h]

theorem endsVisible_cons_blank (h : isBlank c = true) (cs : Text) :
    endsVisible (c :: cs) = endsVisible cs := by
  cases cs with
  | nil => simp [endsVisible, h]
  | cons d ds => rfl

/-- The last one of a list with a property. -/
theorem exists_last {α : Type} {P : α → Prop} {l : List α} (h : ∃ a ∈ l, P a) :
    ∃ front a behind, l = front ++ a :: behind ∧ P a ∧ ∀ b ∈ behind, ¬ P b := by
  induction l using List.reverseRecOn with
  | nil =>
    obtain ⟨a, ha, -⟩ := h
    cases ha
  | append_singleton l c ih =>
    by_cases hc : P c
    · exact ⟨l, c, [], rfl, hc, fun b hb => absurd hb List.not_mem_nil⟩
    · obtain ⟨a, ha, hPa⟩ := h
      have hal : a ∈ l := by
        refine (List.mem_append.1 ha).resolve_right fun hac => hc ?_
        rwa [← List.mem_singleton.1 hac]
      obtain ⟨front, a, behind, rfl, hPa, hbehind⟩ := ih ⟨a, hal, hPa⟩
      refine ⟨front, a, behind ++ [c], by simp, hPa, fun b hb => ?_⟩
      rcases List.mem_append.1 hb with hb | hb
      · exact hbehind b hb
      · rwa [List.mem_singleton.1 hb]

/-- A place in a list that has one more item at its end. -/
theorem exists_split_concat {α : Type} {P : List α → α → Prop} {l : List α} {c : α} :
    (∃ front a rest, l ++ [c] = front ++ a :: rest ∧ P front a) ↔
      (∃ front a rest, l = front ++ a :: rest ∧ P front a) ∨ P l c := by
  constructor
  · rintro ⟨front, a, rest, heq, ha⟩
    rcases List.eq_nil_or_concat rest with rfl | ⟨rest, e, rfl⟩
    · obtain ⟨rfl, hlast⟩ := List.append_inj' heq rfl
      obtain rfl : c = a := by simpa using hlast
      exact Or.inr ha
    · have heq' : l ++ [c] = (front ++ a :: rest) ++ [e] := by simpa using heq
      exact Or.inl ⟨front, a, rest, (List.append_inj' heq' rfl).1, ha⟩
  · rintro (⟨front, a, rest, rfl, ha⟩ | hc)
    · exact ⟨front, a, rest ++ [c], by simp, ha⟩
    · exact ⟨l, c, [], rfl, hc⟩

/-- Texts in a row end visibly if one of them does and the ones behind it are empty. -/
theorem endsVisible_flatMap_iff {α : Type} {f : α → Text} {l : List α} :
    endsVisible (l.flatMap f) = true ↔
      ∃ front a behind, l = front ++ a :: behind ∧ endsVisible (f a) = true ∧
        ∀ b ∈ behind, f b = [] := by
  constructor
  · intro h
    have hsome : ∃ a ∈ l, f a ≠ [] := by
      by_contra hno
      push Not at hno
      rw [List.flatMap_eq_nil_iff.2 hno] at h
      cases h
    obtain ⟨front, a, behind, rfl, ha, hbehind⟩ := exists_last hsome
    have hnil : ∀ b ∈ behind, f b = [] := fun b hb => not_not.1 (hbehind b hb)
    rw [List.flatMap_append, List.flatMap_cons, List.flatMap_eq_nil_iff.2 hnil, List.append_nil,
      endsVisible_append _ ha] at h
    exact ⟨front, a, behind, rfl, h, hnil⟩
  · rintro ⟨front, a, behind, rfl, ha, hbehind⟩
    have hne : f a ≠ [] := by
      intro h
      rw [h] at ha
      cases ha
    rw [List.flatMap_append, List.flatMap_cons, List.flatMap_eq_nil_iff.2 hbehind,
      List.append_nil, endsVisible_append _ hne, ha]

/-! ## One character after the other -/

@[simp] theorem words_nil : words [] = [] := rfl

theorem words_cons_blank (h : isBlank c = true) (cs : Text) : words (c :: cs) = words cs := by
  unfold words
  rw [splitOn, if_pos h, List.filter_cons_of_neg (by simp)]

/-- Put a character in front of the first word. -/
def consWord (c : Char) : List Text → List Text
  | [] => [[c]]
  | w :: ws => (c :: w) :: ws

/-- The first piece of a text is empty if and only if it does not start visibly. -/
theorem splitOn_blank (t : Text) : ∃ piece pieces, splitOn isBlank t = piece :: pieces ∧
    startsVisible t = !piece.isEmpty := by
  cases t with
  | nil => exact ⟨[], [], rfl, rfl⟩
  | cons c cs =>
    cases hc : isBlank c with
    | true => exact ⟨[], splitOn isBlank cs, by rw [splitOn, if_pos hc], by simp [hc]⟩
    | false =>
      have hno : ¬ isBlank c = true := by rw [hc]; exact Bool.false_ne_true
      rw [splitOn, if_neg hno]
      cases splitOn isBlank cs with
      | nil => exact ⟨[c], [], rfl, by simp [hc]⟩
      | cons piece pieces => exact ⟨c :: piece, pieces, rfl, by simp [hc]⟩

/-- A visible character starts a word, or is put in front of one. -/
theorem words_cons_visible (h : isBlank c = false) (cs : Text) :
    words (c :: cs) = if startsVisible cs then consWord c (words cs) else [c] :: words cs := by
  have hno : ¬ isBlank c = true := by rw [h]; exact Bool.false_ne_true
  obtain ⟨piece, pieces, hsplit, hstart⟩ := splitOn_blank cs
  unfold words
  rw [splitOn, if_neg hno, hsplit, hstart]
  cases piece <;> rfl

theorem words_ne_nil_of_starts (h : startsVisible t = true) : words t ≠ [] := by
  cases t with
  | nil => cases h
  | cons c cs =>
    rw [words_cons_visible (by simpa using h)]
    split
    · cases words cs <;> exact List.cons_ne_nil _ _
    · exact List.cons_ne_nil _ _

theorem words_ne_nil_of_ends (h : endsVisible t = true) : words t ≠ [] := by
  induction t with
  | nil => cases h
  | cons c cs ih =>
    cases hc : isBlank c with
    | true =>
      rw [words_cons_blank hc]
      exact ih (by rwa [endsVisible_cons_blank hc] at h)
    | false => exact words_ne_nil_of_starts (by simp [hc])

/-- The words of a text are what can be seen of it. -/
theorem flatten_words (t : Text) : (words t).flatten = visible t := by
  induction t with
  | nil => rfl
  | cons c cs ih =>
    unfold visible at ih ⊢
    cases hc : isBlank c with
    | true => rw [words_cons_blank hc, ih, List.filter_cons_of_neg (by simp [hc])]
    | false =>
      rw [words_cons_visible hc, List.filter_cons_of_pos (by simp [hc]), ← ih]
      split
      · cases words cs <;> rfl
      · rfl

/-! ## Two texts together -/

/-- Two rows of words, the last of the one and the first of the other made one. -/
def glue : List Text → List Text → List Text
  | [], vs => vs
  | [w], [] => [w]
  | [w], v :: vs => (w ++ v) :: vs
  | w :: w' :: ws, vs => w :: glue (w' :: ws) vs

theorem length_glue : ∀ {ws vs : List Text}, ws ≠ [] → vs ≠ [] →
    (glue ws vs).length + 1 = ws.length + vs.length
  | [], _, h, _ => absurd rfl h
  | [_], [], _, h => absurd rfl h
  | [_], _ :: _, _, _ => by
    simp only [glue, List.length_cons, List.length_nil]
    omega
  | _ :: w' :: ws, vs, _, h => by
    have ih := length_glue (List.cons_ne_nil w' ws) h
    simp only [glue, List.length_cons] at ih ⊢
    omega

theorem glue_cons (w : Text) {ws : List Text} (h : ws ≠ []) (vs : List Text) :
    glue (w :: ws) vs = w :: glue ws vs := by
  cases ws with
  | nil => exact absurd rfl h
  | cons w' ws => rfl

theorem glue_consWord (c : Char) : ∀ {ws : List Text}, ws ≠ [] → ∀ vs : List Text,
    glue (consWord c ws) vs = consWord c (glue ws vs)
  | [], h, _ => absurd rfl h
  | [_], _, [] => rfl
  | [_], _, _ :: _ => rfl
  | _ :: _ :: _, _, _ => rfl

/-- Does a visible character meet another where the two texts are put together? -/
def meets (t u : Text) : Bool := endsVisible t && startsVisible u

/-- **The words of two texts together**: those of both, and where a visible character meets
another, two of them are one. -/
theorem words_append (t u : Text) :
    words (t ++ u) = if meets t u then glue (words t) (words u) else words t ++ words u := by
  unfold meets
  induction t with
  | nil => rfl
  | cons c cs ih =>
    -- the end of the text is that of its rest, unless the character is all there is
    by_cases hcs : cs = []
    · subst hcs
      cases hc : isBlank c with
      | true => simp [words_cons_blank hc, endsVisible, hc]
      | false =>
        rw [List.singleton_append, words_cons_visible hc, words_cons_visible hc]
        cases hu : startsVisible u with
        | false => simp [endsVisible, hc]
        | true =>
          have hne := words_ne_nil_of_starts hu
          cases hw : words u with
          | nil => exact absurd hw hne
          | cons v vs => simp [endsVisible, hc, consWord, glue]
    · have hends : endsVisible (c :: cs) = endsVisible cs := endsVisible_append [c] hcs
      rw [List.cons_append, hends]
      cases hc : isBlank c with
      | true => rw [words_cons_blank hc, words_cons_blank hc, ih]
      | false =>
        rw [words_cons_visible hc, words_cons_visible hc, startsVisible_append hcs, ih]
        cases hstart : startsVisible cs with
        | true =>
          have hne := words_ne_nil_of_starts hstart
          simp only [if_true]
          split
          · rw [glue_consWord c hne]
          · cases hw : words cs with
            | nil => exact absurd hw hne
            | cons w ws => rfl
        | false =>
          simp only [Bool.false_eq_true, if_false]
          split
          · rename_i hseam
            rw [glue_cons _ (words_ne_nil_of_ends (Bool.and_eq_true_iff.1 hseam).1)]
          · rfl

/-- Behind a blank character other words begin. -/
theorem words_append_blank (h : isBlank c = true) (t u : Text) :
    words (t ++ c :: u) = words t ++ words u := by
  rw [words_append, meets, startsVisible_cons, h, words_cons_blank h]
  simp

/-- How many words two texts have together. -/
theorem length_words_append (t u : Text) :
    (words (t ++ u)).length + (meets t u).toNat =
      (words t).length + (words u).length := by
  rw [words_append]
  split
  · rename_i h
    obtain ⟨ht, hu⟩ := Bool.and_eq_true_iff.1 h
    rw [h, Bool.toNat_true, length_glue (words_ne_nil_of_ends ht) (words_ne_nil_of_starts hu)]
  · rename_i h
    rw [Bool.eq_false_iff.2 h, Bool.toNat_false, List.length_append, Nat.add_zero]

/-! ## Blank space does not count -/

theorem words_trimStart (t : Text) : words (trimStart t) = words t := by
  unfold trimStart
  induction t with
  | nil => rfl
  | cons c cs ih =>
    rw [List.dropWhile_cons]
    split
    · rename_i hc
      rw [ih, words_cons_blank hc]
    · rfl

theorem words_concat_blank (h : isBlank c = true) (t : Text) : words (t ++ [c]) = words t := by
  rw [words_append_blank h, words_nil, List.append_nil]

theorem words_trimEnd (t : Text) : words (trimEnd t) = words t := by
  induction t using List.reverseRecOn with
  | nil => rfl
  | append_singleton cs c ih =>
    cases hc : isBlank c with
    | true => rw [trimEnd_append_blank hc, ih, words_concat_blank hc]
    | false => rw [trimEnd_append_visible hc]

/-- **Trimming keeps the words.** -/
theorem words_trim (t : Text) : words (trim t) = words t := by
  unfold trim
  rw [words_trimEnd, words_trimStart]

theorem startsVisible_collapse (t : Text) : startsVisible (collapse t) = startsVisible t := by
  unfold collapse
  cases t with
  | nil => rfl
  | cons c cs =>
    unfold collapseAfter
    cases hc : isBlank c with
    | true =>
      have hspace : isBlank ' ' = true := by decide
      simp [hc, hspace]
    | false => simp [hc]

theorem words_collapseAfter : ∀ (t : Text) (afterBlank : Bool),
    words (collapseAfter afterBlank t) = words t := by
  intro t
  induction t with
  | nil => intro afterBlank; rfl
  | cons c cs ih =>
    intro afterBlank
    unfold collapseAfter
    cases hc : isBlank c with
    | true =>
      rw [if_pos rfl, words_cons_blank hc]
      cases afterBlank with
      | true => exact ih true
      | false =>
        rw [← ih true]
        exact words_cons_blank (by decide) _
    | false =>
      rw [if_neg Bool.false_ne_true, words_cons_visible hc, words_cons_visible hc, ih]
      have hstart : startsVisible (collapseAfter false cs) = startsVisible cs :=
        startsVisible_collapse cs
      rw [hstart]

/-- **Collapsing keeps the words.** -/
theorem words_collapse (t : Text) : words (collapse t) = words t := words_collapseAfter t false

/-- Blank delimiters keep the words. -/
theorem words_wrap {opening closing : Text} (ho : isBlankText opening = true)
    (hc : isBlankText closing = true) (t : Text) :
    words (Markdown.wrap opening closing t) = words t := by
  have hclosing : ∀ u v : Text, isBlankText v = true → words (u ++ v) = words u := by
    intro u v hv
    induction v using List.reverseRecOn with
    | nil => rw [List.append_nil]
    | append_singleton v c ih =>
      unfold isBlankText at hv
      rw [List.all_append, Bool.and_eq_true_iff, List.all_cons, Bool.and_eq_true_iff] at hv
      rw [← List.append_assoc, words_concat_blank hv.2.1, ih hv.1]
  have hopening : ∀ u v : Text, isBlankText u = true → words (u ++ v) = words v := by
    intro u v hu
    induction u with
    | nil => rfl
    | cons c cs ih =>
      unfold isBlankText at hu
      rw [List.all_cons, Bool.and_eq_true_iff] at hu
      rw [List.cons_append, words_cons_blank hu.1, ih hu.2]
  unfold Markdown.wrap
  simp only
  split
  · rename_i h
    rw [← words_trim t, List.isEmpty_iff.1 h]
  · rw [hclosing _ _ hc, hopening _ _ ho, words_trim]

/-! ## The ends of a text -/

theorem trimStart_of_starts (h : startsVisible t = true) : trimStart t = t := by
  cases t with
  | nil => rfl
  | cons c cs =>
    unfold trimStart
    rw [List.dropWhile_cons_of_neg (by simpa using h)]

theorem trimEnd_of_ends (h : endsVisible t = true) : trimEnd t = t := by
  cases t using List.reverseRecOn with
  | nil => rfl
  | append_singleton cs c => exact trimEnd_append_visible (by simpa using h) cs

/-- Blank space at the start does not matter to the end. -/
theorem endsVisible_trimStart (t : Text) : endsVisible (trimStart t) = endsVisible t := by
  induction t with
  | nil => rfl
  | cons c cs ih =>
    unfold trimStart
    rw [List.dropWhile_cons]
    split
    · rename_i hc
      rw [endsVisible_cons_blank hc]
      exact ih
    · rfl

theorem startsVisible_trimEnd (t : Text) : startsVisible (trimEnd t) = startsVisible t := by
  induction t using List.reverseRecOn with
  | nil => rfl
  | append_singleton cs c ih =>
    cases hc : isBlank c with
    | true =>
      rw [trimEnd_append_blank hc, ih]
      cases cs with
      | nil => simp [hc]
      | cons d ds => rfl
    | false => rw [trimEnd_append_visible hc]

theorem endsVisible_of_blank (h : isBlankText t = true) : endsVisible t = false := by
  cases t using List.reverseRecOn with
  | nil => rfl
  | append_singleton cs c =>
    have hc : isBlank c = true := List.all_eq_true.1 h c (by simp)
    rw [endsVisible_concat, hc]
    rfl

theorem collapse_eq_nil_iff : collapse t = [] ↔ t = [] := by
  cases t with
  | nil => simp [collapse, collapseAfter]
  | cons c cs =>
    unfold collapse collapseAfter
    cases isBlank c <;> simp

theorem endsVisible_collapseAfter : ∀ (t : Text) (afterBlank : Bool),
    endsVisible (collapseAfter afterBlank t) = endsVisible t := by
  intro t
  induction t with
  | nil => intro afterBlank; rfl
  | cons c cs ih =>
    intro afterBlank
    unfold collapseAfter
    cases hc : isBlank c with
    | true =>
      rw [if_pos rfl, endsVisible_cons_blank hc]
      cases afterBlank with
      | true => exact ih true
      | false => exact (endsVisible_cons_blank (by decide) _).trans (ih true)
    | false =>
      rw [if_neg Bool.false_ne_true]
      by_cases hcs : cs = []
      · rw [hcs]
        rfl
      · have hne : collapseAfter false cs ≠ [] := fun h => hcs (collapse_eq_nil_iff.1 h)
        exact (endsVisible_append [c] hne).trans
          ((ih false).trans (endsVisible_append [c] hcs).symm)

theorem endsVisible_collapse (t : Text) : endsVisible (collapse t) = endsVisible t :=
  endsVisible_collapseAfter t false

/-! ## Pieces and lines -/

theorem splitOn_eq (p : Char → Bool) (t : Text) : splitOn p t = t.splitOnP p := by
  induction t with
  | nil => rfl
  | cons c cs ih =>
    rw [splitOn, List.splitOnP_cons_eq_if_modifyHead, ih]
    split
    · rfl
    · cases hs : cs.splitOnP p with
      | nil => exact absurd hs (List.splitOnP_ne_nil p cs)
      | cons piece pieces => rfl

/-- A piece of a text has characters of the text, and no separator among them. -/
theorem mem_of_mem_splitOn {p : Char → Bool} : ∀ {t piece : Text}, piece ∈ splitOn p t →
    ∀ c ∈ piece, c ∈ t ∧ p c = false := by
  intro t
  induction t with
  | nil =>
    intro piece h c hc
    rw [List.mem_singleton.1 h] at hc
    cases hc
  | cons d ds ih =>
    intro piece h c hc
    have hmem : ∀ {piece}, piece ∈ splitOn p ds → c ∈ piece → c ∈ d :: ds ∧ p c = false :=
      fun h hc => (ih h c hc).imp_left (List.mem_cons_of_mem d)
    rw [splitOn] at h
    split at h
    · rcases List.mem_cons.1 h with rfl | h
      · cases hc
      · exact hmem h hc
    · rename_i hd
      split at h
      · rw [List.mem_singleton.1 h, List.mem_singleton] at hc
        rw [hc]
        exact ⟨List.mem_cons_self, Bool.eq_false_iff.2 hd⟩
      · rename_i hsplit
        rw [hsplit] at hmem
        rcases List.mem_cons.1 h with rfl | h
        · rcases List.mem_cons.1 hc with rfl | hc
          · exact ⟨List.mem_cons_self, Bool.eq_false_iff.2 hd⟩
          · exact hmem List.mem_cons_self hc
        · exact hmem (List.mem_cons_of_mem _ h) hc

/-- The lines of a text put together are the text. -/
theorem joinLines_splitOn (t : Text) : joinLines (splitOn (· == '\n') t) = t := by
  rw [splitOn_eq]
  exact List.intercalate_splitOn '\n'

/-- The words of lines put together are those of the lines. -/
theorem words_joinLines : ∀ ls : List Text, words (joinLines ls) = ls.flatMap words := by
  intro ls
  unfold joinLines
  induction ls with
  | nil => rfl
  | cons l ls ih =>
    cases ls with
    | nil => simp
    | cons l' ls =>
      have hsep : ['\n'].intercalate (l :: l' :: ls) =
          l ++ '\n' :: ['\n'].intercalate (l' :: ls) := rfl
      rw [hsep, words_append_blank (by decide), ih, ← List.flatMap_cons]

theorem words_chopReturn (line : Text) : words (chopReturn line) = words line := by
  unfold chopReturn
  split
  · rename_i h
    obtain ⟨start, rfl⟩ := List.getLast?_eq_some_iff.1 h
    rw [List.dropLast_concat, words_concat_blank (by decide)]
  · rfl

/-- **A text has the words of its lines.** -/
theorem words_lines (t : Text) : (lines t).flatMap words = words t := by
  have hpieces : (splitOn (· == '\n') t).flatMap words = words t := by
    rw [← words_joinLines, joinLines_splitOn]
  rw [← hpieces]
  unfold lines
  cases splitOn (· == '\n') t using List.reverseRecOn with
  | nil => rfl
  | append_singleton before last =>
    simp only [List.dropLast_concat, List.getLast?_concat, List.flatMap_append, List.flatMap_map,
      words_chopReturn]
    cases last <;> rfl

/-! ## Words that run together -/

/-- The words of the one text are those of the other; or, if some have run together, they are
fewer. -/
def Joins (run : Prop) (x y : Text) : Prop :=
  (words x = words y ∧ ¬ run) ∨ ((words x).length < (words y).length ∧ run)

namespace Joins

variable {run run' : Prop}

/-- **The words are the same if and only if none have run together.** -/
theorem words_eq_iff (h : Joins run x y) : words x = words y ↔ ¬ run := by
  rcases h with ⟨hw, hrun⟩ | ⟨hw, hrun⟩
  · exact ⟨fun _ => hrun, fun _ => hw⟩
  · refine ⟨fun he => ?_, fun hno => absurd hrun hno⟩
    rw [he] at hw
    exact absurd hw (Nat.lt_irrefl _)

theorem length_le (h : Joins run x y) : (words x).length ≤ (words y).length := by
  rcases h with ⟨hw, -⟩ | ⟨hw, -⟩
  · rw [hw]
  · exact Nat.le_of_lt hw

theorem congr (h : Joins run x y) (hx : words x' = words x) (hy : words y' = words y)
    (hrun : run ↔ run') : Joins run' x' y' := by
  unfold Joins
  rw [hx, hy, ← hrun]
  exact h

theorem length_lt (h : Joins run x y) (hrun : run) : (words x).length < (words y).length := by
  rcases h with ⟨-, hno⟩ | ⟨hw, -⟩
  · exact absurd hrun hno
  · exact hw

/-- **At a seam** words run together where visible characters meet that did not meet before. -/
theorem append (h : Joins run x y) (h' : Joins run' x' y')
    (hmeet : meets y y' = true → meets x x' = true) :
    Joins (run ∨ run' ∨ (meets x x' = true ∧ meets y y' = false)) (x ++ x') (y ++ y') := by
  have hx := length_words_append x x'
  have hy := length_words_append y y'
  have hle := h.length_le
  have hle' := h'.length_le
  -- both rows lose a word at a seam where they meet, so the counts tell them apart
  have hseam : (meets y y').toNat ≤ (meets x x').toNat := by
    cases hym : meets y y' with
    | true => rw [hmeet hym]
    | false => exact Nat.zero_le _
  by_cases hall : run ∨ run' ∨ (meets x x' = true ∧ meets y y' = false)
  · refine Or.inr ⟨?_, hall⟩
    rcases hall with hrun | hrun | ⟨hxm, hym⟩
    · have := h.length_lt hrun
      omega
    · have := h'.length_lt hrun
      omega
    · rw [hxm, Bool.toNat_true] at hx
      rw [hym, Bool.toNat_false] at hy
      omega
  · refine Or.inl ⟨?_, hall⟩
    have hw : words x = words y := h.words_eq_iff.2 fun hrun => hall (Or.inl hrun)
    have hw' : words x' = words y' := h'.words_eq_iff.2 fun hrun => hall (Or.inr (Or.inl hrun))
    have hm : meets x x' = meets y y' := by
      cases hym : meets y y' with
      | true => exact hmeet hym
      | false => exact Bool.eq_false_iff.2 fun hxm => hall (Or.inr (Or.inr ⟨hxm, hym⟩))
    rw [words_append, words_append, hw, hw', hm]

/-- **Along a row of texts** words run together in one of them, or at the seam before one. -/
theorem flatMap {α : Type} {f g : α → Text} {P : α → Prop} {Q : List α → α → Prop} {l : List α}
    (hitem : ∀ a ∈ l, Joins (P a) (f a) (g a))
    (hmeet : ∀ front a rest, l = front ++ a :: rest →
      meets (front.flatMap g) (g a) = true → meets (front.flatMap f) (f a) = true)
    (hseam : ∀ front a rest, l = front ++ a :: rest →
      ((meets (front.flatMap f) (f a) = true ∧ meets (front.flatMap g) (g a) = false) ↔
        Q front a)) :
    Joins (∃ front a rest, l = front ++ a :: rest ∧ (P a ∨ Q front a))
      (l.flatMap f) (l.flatMap g) := by
  induction l using List.reverseRecOn with
  | nil =>
    refine Or.inl ⟨rfl, ?_⟩
    rintro ⟨front, a, rest, hnil, -⟩
    simp at hnil
  | append_singleton l c ih =>
    have hgrow : ∀ {front a rest}, l = front ++ a :: rest →
        l ++ [c] = front ++ a :: (rest ++ [c]) := by
      rintro front a rest rfl
      simp
    have hjoins := (ih (fun a ha => hitem a (List.mem_append_left _ ha))
      (fun front a rest h => hmeet front a _ (hgrow h))
      (fun front a rest h => hseam front a _ (hgrow h))).append
      (hitem c (by simp)) (hmeet l c [] rfl)
    refine hjoins.congr (by simp) (by simp) ?_
    rw [hseam l c [] rfl, exists_split_concat (P := fun front a => P a ∨ Q front a)]

end Joins

end HtmlMarkdown.Text
