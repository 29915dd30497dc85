import HtmlMarkdown.Text.Spacing
import Mathlib.Data.List.DropRight

/-!
# Blank space

`visible` keeps the characters that can be seen. Trimming and collapsing change blank space only
(`visible_trim`, `visible_collapse`), and a text is trimmed to nothing if and only if nothing in
it can be seen (`trim_eq_nil_iff`).
-/

namespace HtmlMarkdown.Text

variable {p : Char → Bool} {c : Char} {t u : Text}

/-- The characters of a text that are not blank. -/
def visible (t : Text) : Text := t.filter fun c => !isBlank c

theorem visible_append (t u : Text) : visible (t ++ u) = visible t ++ visible u :=
  List.filter_append ..

/-- What can be seen of texts in a row. -/
theorem visible_flatMap {α : Type} (f : α → Text) (cs : List α) :
    visible (cs.flatMap f) = cs.flatMap fun c => visible (f c) := by
  induction cs with
  | nil => rfl
  | cons c cs ih => rw [List.flatMap_cons, List.flatMap_cons, visible_append, ih]

theorem visible_eq_nil_iff : visible t = [] ↔ isBlankText t = true := by
  unfold visible isBlankText
  simp [List.filter_eq_nil_iff]

/-! ## The end of a text -/

theorem dropEndWhile_eq (p : Char → Bool) (t : Text) : dropEndWhile p t = t.rdropWhile p := by
  -- both drop from the end, but the recursion is on the start
  induction t with
  | nil => rfl
  | cons c cs ih =>
    unfold dropEndWhile
    rw [ih]
    unfold List.rdropWhile
    rw [List.reverse_cons, List.dropWhile_append]
    cases h : cs.reverse.dropWhile p with
    | nil =>
      simp only [List.reverse_nil, List.isEmpty_nil, if_true]
      by_cases hc : p c <;> simp [hc]
    | cons d ds =>
      simp only [List.isEmpty_cons, Bool.false_eq_true, if_false, List.reverse_append]
      cases hr : (d :: ds).reverse with
      | nil => simp at hr
      | cons e es => rfl

theorem trimEnd_append_blank (h : isBlank c = true) (t : Text) :
    trimEnd (t ++ [c]) = trimEnd t := by
  unfold trimEnd
  rw [dropEndWhile_eq, dropEndWhile_eq, List.rdropWhile_concat_pos _ _ _ h]

theorem trimEnd_append_visible (h : isBlank c = false) (t : Text) :
    trimEnd (t ++ [c]) = t ++ [c] := by
  unfold trimEnd
  rw [dropEndWhile_eq, List.rdropWhile_concat_neg _ _ _ (by rw [h]; exact Bool.false_ne_true)]

/-! ## Trimming -/

theorem visible_trimStart (t : Text) : visible (trimStart t) = visible t := by
  unfold trimStart
  induction t with
  | nil => rfl
  | cons c cs ih =>
    rw [List.dropWhile_cons]
    split
    · rename_i hc
      rw [ih]
      unfold visible
      rw [List.filter_cons_of_neg (by simp [hc])]
    · rfl

theorem visible_trimEnd (t : Text) : visible (trimEnd t) = visible t := by
  induction t using List.reverseRecOn with
  | nil => rfl
  | append_singleton cs c ih =>
    cases hc : isBlank c with
    | true =>
      rw [trimEnd_append_blank hc, ih, visible_append]
      simp [visible, hc]
    | false => rw [trimEnd_append_visible hc]

/-- **Trimming keeps what can be seen.** -/
theorem visible_trim (t : Text) : visible (trim t) = visible t := by
  unfold trim
  rw [visible_trimEnd, visible_trimStart]

/-- **A text is trimmed to nothing if and only if it is blank.** -/
theorem trim_eq_nil_iff : trim t = [] ↔ isBlankText t = true := by
  constructor
  · intro h
    rw [← visible_eq_nil_iff, ← visible_trim, h]
    rfl
  · intro h
    have hs : trimStart t = [] := by
      unfold trimStart
      rw [List.dropWhile_eq_nil_iff]
      exact fun c hc => List.all_eq_true.1 h c hc
    unfold trim
    rw [hs]
    rfl

/-! ## Collapsing -/

theorem visible_collapseAfter : ∀ (t : Text) (afterBlank : Bool),
    visible (collapseAfter afterBlank t) = visible t := by
  intro t
  induction t with
  | nil => intro afterBlank; rfl
  | cons c cs ih =>
    intro afterBlank
    unfold collapseAfter
    cases hc : isBlank c with
    | true =>
      have hdrop : visible (c :: cs) = visible cs := by
        unfold visible
        rw [List.filter_cons_of_neg (by simp [hc])]
      rw [if_pos rfl, hdrop]
      cases afterBlank with
      | true => exact ih true
      | false =>
        rw [← ih true]
        rfl
    | false =>
      have hkeep : ∀ u, visible (c :: u) = c :: visible u := by
        intro u
        unfold visible
        rw [List.filter_cons_of_pos (by simp [hc])]
      rw [if_neg Bool.false_ne_true, hkeep, hkeep, ih]

/-- **Collapsing keeps what can be seen.** -/
theorem visible_collapse (t : Text) : visible (collapse t) = visible t :=
  visible_collapseAfter t false

end HtmlMarkdown.Text
