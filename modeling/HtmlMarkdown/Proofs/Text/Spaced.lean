import HtmlMarkdown.Proofs.Text.Edges

/-!
# Where blank space stands

`SpaceAt t n`: there is blank space behind the first `n` visible characters of a text, before the
next one. Texts with the same visible characters are compared by that alone: `LostAt t u n` says that
the characters on both sides are apart in `t` and not in `u`.

* `spaceAt_append`: blank space in two texts together.
* `lostAt_append`: **of two texts together space is lost where either of them loses it**, and at the
  seam where visible characters meet that did not meet before.
-/

namespace HtmlMarkdown.Text

variable {c : Char} {t u v w t' u' : Text} {n : Nat}

/-- Blank space stands behind the first `n` visible characters of the text. -/
def SpaceAt (t : Text) (n : Nat) : Prop :=
  ∃ u c v, t = u ++ c :: v ∧ isBlank c = true ∧ (visible u).length = n

theorem visible_cons_blank (h : isBlank c = true) (t : Text) : visible (c :: t) = visible t :=
  List.filter_cons_of_neg (by simp [h])

theorem visible_cons_visible (h : isBlank c = false) (t : Text) :
    visible (c :: t) = c :: visible t :=
  List.filter_cons_of_pos (by simp [h])

theorem visible_between (hv : isBlankText v = true) (hw : isBlankText w = true) (u : Text) :
    visible (v ++ u ++ w) = visible u := by
  rw [visible_append, visible_append, visible_eq_nil_iff.2 hv, visible_eq_nil_iff.2 hw,
    List.nil_append, List.append_nil]

/-! ## One character after the other -/

theorem not_spaceAt_nil : ¬ SpaceAt [] n := by
  rintro ⟨u, c, v, h, -⟩
  simp at h

theorem spaceAt_cons_blank (h : isBlank c = true) :
    SpaceAt (c :: t) n ↔ n = 0 ∨ SpaceAt t n := by
  constructor
  · rintro ⟨u, d, v, heq, hd, rfl⟩
    cases u with
    | nil => exact Or.inl rfl
    | cons e u =>
      obtain ⟨rfl, rfl⟩ := List.cons.inj heq
      exact Or.inr ⟨u, d, v, rfl, hd, by rw [visible_cons_blank h]⟩
  · rintro (rfl | ⟨u, d, v, rfl, hd, rfl⟩)
    · exact ⟨[], c, t, rfl, h, rfl⟩
    · exact ⟨c :: u, d, v, rfl, hd, by rw [visible_cons_blank h]⟩

theorem spaceAt_cons_visible (h : isBlank c = false) :
    SpaceAt (c :: t) n ↔ ∃ m, n = m + 1 ∧ SpaceAt t m := by
  constructor
  · rintro ⟨u, d, v, heq, hd, rfl⟩
    cases u with
    | nil =>
      obtain ⟨rfl, rfl⟩ := List.cons.inj heq
      rw [h] at hd
      cases hd
    | cons e u =>
      obtain ⟨rfl, rfl⟩ := List.cons.inj heq
      exact ⟨_, by rw [visible_cons_visible h]; rfl, u, d, v, rfl, hd, rfl⟩
  · rintro ⟨m, rfl, u, d, v, rfl, hd, rfl⟩
    exact ⟨c :: u, d, v, rfl, hd, by rw [visible_cons_visible h]; rfl⟩

theorem SpaceAt.le (h : SpaceAt t n) : n ≤ (visible t).length := by
  obtain ⟨u, c, v, rfl, -, rfl⟩ := h
  rw [visible_append, List.length_append]
  exact Nat.le_add_right _ _

/-- **Blank space in two texts together** is blank space of either. -/
theorem spaceAt_append : SpaceAt (t ++ u) n ↔
    SpaceAt t n ∨ ((visible t).length ≤ n ∧ SpaceAt u (n - (visible t).length)) := by
  induction t generalizing n with
  | nil => simp [not_spaceAt_nil, visible]
  | cons c cs ih =>
    rw [List.cons_append]
    cases hc : isBlank c with
    | true =>
      rw [spaceAt_cons_blank hc, spaceAt_cons_blank hc, visible_cons_blank hc, ih, or_assoc]
    | false =>
      rw [spaceAt_cons_visible hc, spaceAt_cons_visible hc, visible_cons_visible hc,
        List.length_cons]
      cases n with
      | zero => simp
      | succ m =>
        rw [Nat.add_sub_add_right, Nat.add_le_add_iff_right]
        simp only [Nat.add_right_cancel_iff, exists_eq_left', ih]

instance decidableSpaceAt : (t : Text) → (n : Nat) → Decidable (SpaceAt t n)
  | [], _ => isFalse not_spaceAt_nil
  | c :: t, n =>
    match hc : isBlank c, n with
    | true, n =>
      have := decidableSpaceAt t n
      decidable_of_iff _ (spaceAt_cons_blank hc).symm
    | false, 0 => isFalse fun h => by simp [spaceAt_cons_visible hc] at h
    | false, m + 1 =>
      have := decidableSpaceAt t m
      decidable_of_iff (SpaceAt t m) (by simp [spaceAt_cons_visible hc])

/-! ## The ends of a text -/

/-- Blank space before all that can be seen. -/
theorem spaceAt_zero (h : t ≠ []) : SpaceAt t 0 ↔ startsVisible t = false := by
  cases t with
  | nil => exact absurd rfl h
  | cons c cs =>
    rw [startsVisible_cons]
    cases hc : isBlank c with
    | true => simp [spaceAt_cons_blank hc]
    | false => simp [spaceAt_cons_visible hc]

/-- Blank space behind all that can be seen. -/
theorem spaceAt_length (h : t ≠ []) :
    SpaceAt t (visible t).length ↔ endsVisible t = false := by
  cases t using List.reverseRecOn with
  | nil => exact absurd rfl h
  | append_singleton cs c =>
    rw [endsVisible_concat, visible_append, List.length_append]
    cases hc : isBlank c with
    | true =>
      refine iff_of_true ⟨cs, c, [], rfl, hc, ?_⟩ rfl
      rw [visible_cons_blank hc]
      rfl
    | false =>
      have hone : (visible [c]).length = 1 := by
        rw [visible_cons_visible hc]
        rfl
      refine iff_of_false (fun hspace => ?_) (by simp)
      rw [hone, spaceAt_append] at hspace
      rcases hspace with hspace | ⟨-, hspace⟩
      · have := hspace.le
        omega
      · rw [Nat.add_sub_cancel_left, spaceAt_cons_visible hc] at hspace
        obtain ⟨m, -, hm⟩ := hspace
        exact not_spaceAt_nil hm

/-- Before the end of the first text only that counts. -/
theorem spaceAt_append_left (hn : n < (visible t).length) (u : Text) :
    SpaceAt (t ++ u) n ↔ SpaceAt t n := by
  rw [spaceAt_append]
  exact or_iff_left fun h => absurd h.1 (Nat.not_le.2 hn)

/-- And behind the start of the second one only that. -/
theorem spaceAt_append_right (hn : 0 < n) (t u : Text) :
    SpaceAt (t ++ u) ((visible t).length + n) ↔ SpaceAt u n := by
  rw [spaceAt_append, Nat.add_sub_cancel_left]
  refine ⟨fun h => (h.resolve_left fun ht => ?_).2, fun h => Or.inr ⟨Nat.le_add_right _ _, h⟩⟩
  have := ht.le
  omega

/-- **At the seam** of two texts there is blank space unless visible characters meet. -/
theorem spaceAt_seam (h : visible t ≠ []) (h' : visible u ≠ []) :
    SpaceAt (t ++ u) (visible t).length ↔ meets t u = false := by
  have hne : ∀ {t : Text}, visible t ≠ [] → t ≠ [] := by
    rintro t h rfl
    exact h rfl
  rw [spaceAt_append, Nat.sub_self, spaceAt_length (hne h), spaceAt_zero (hne h'), meets,
    Bool.and_eq_false_iff]
  simp

/-! ## Collapsing -/

/-- **Collapsing leaves blank space wherever there was some.** -/
theorem spaceAt_collapse : SpaceAt (collapse t) n ↔ SpaceAt t n := by
  -- behind blank space that at the start is dropped
  have key : ∀ (t : Text) (b : Bool) (n : Nat),
      ((b = true ∧ n = 0) ∨ SpaceAt (collapseAfter b t) n) ↔
        ((b = true ∧ n = 0) ∨ SpaceAt t n) := by
    intro t
    induction t with
    | nil => intro b n; rfl
    | cons c cs ih =>
      intro b n
      unfold collapseAfter
      cases hc : isBlank c with
      | true =>
        have hrest := ih true n
        simp only [true_and] at hrest
        have hspace : isBlank ' ' = true := by decide
        cases b with
        | true => simp [spaceAt_cons_blank hc, hrest]
        | false => simp [spaceAt_cons_blank hc, spaceAt_cons_blank hspace, hrest]
      | false =>
        have hrest := fun m => ih false m
        simp only [Bool.false_eq_true, false_and, false_or] at hrest
        simp [spaceAt_cons_visible hc, hrest]
  have := key t false n
  simpa [collapse] using this

/-! ## Space that is lost -/

/-- **Space is lost**: behind the first `n` visible characters of `t` there is blank space before
the next one, but not in `u`. -/
def LostAt (t u : Text) (n : Nat) : Prop :=
  0 < n ∧ n < (visible t).length ∧ SpaceAt t n ∧ ¬ SpaceAt u n

instance (t u : Text) (n : Nat) : Decidable (LostAt t u n) := by
  unfold LostAt
  infer_instance

/-- Only blank space between visible characters counts. -/
theorem lostAt_congr (h : visible u = visible t)
    (hsame : 0 < n → n < (visible u).length → (SpaceAt u' n ↔ SpaceAt u n)) :
    LostAt t u' n ↔ LostAt t u n := by
  unfold LostAt
  refine and_congr_right fun hn => and_congr_right fun hlt => and_congr_right fun _ => ?_
  exact not_congr (hsame hn (by rwa [h]))

/-- Blank space before a text does not matter, nor what is behind it. -/
theorem lostAt_between (h : visible u = visible t) (hv : isBlankText v = true) (w : Text) :
    LostAt t (v ++ u ++ w) n ↔ LostAt t u n := by
  refine lostAt_congr h fun hn hlt => ?_
  have hright := spaceAt_append_right hn v (u ++ w)
  rw [visible_eq_nil_iff.2 hv, List.length_nil, Nat.zero_add] at hright
  rw [List.append_assoc, hright, spaceAt_append_left hlt]

theorem not_lostAt_self : ¬ LostAt t t n := fun h => h.2.2.2 h.2.2.1

theorem lostAt_collapse (h : visible u = visible t) : LostAt t (collapse u) n ↔ LostAt t u n :=
  lostAt_congr h fun _ _ => spaceAt_collapse

theorem lostAt_trimStart (h : visible u = visible t) : LostAt t (trimStart u) n ↔ LostAt t u n := by
  have hsplit : u.takeWhile isBlank ++ trimStart u ++ [] = u := by
    rw [List.append_nil]
    exact List.takeWhile_append_dropWhile
  have hblank : isBlankText (u.takeWhile isBlank) = true := List.all_takeWhile
  rw [← lostAt_between ((visible_trimStart u).trans h) hblank [], hsplit]

theorem lostAt_trimEnd (h : visible u = visible t) : LostAt t (trimEnd u) n ↔ LostAt t u n := by
  have hsplit : [] ++ trimEnd u ++ u.rtakeWhile isBlank = u := by
    rw [trimEnd, dropEndWhile_eq, List.nil_append]
    exact List.rdropWhile_append_rtakeWhile
  have hbetween := lostAt_between (n := n) (v := []) ((visible_trimEnd u).trans h) rfl
    (u.rtakeWhile isBlank)
  rw [← hbetween, hsplit]

/-- **Trimming loses no space** between visible characters. -/
theorem lostAt_trim (h : visible u = visible t) : LostAt t (trim u) n ↔ LostAt t u n :=
  (lostAt_trimEnd ((visible_trimStart u).trans h)).trans (lostAt_trimStart h)

/-! ### Two texts together -/

/-- Before the seam the first text alone loses space. -/
theorem lostAt_append_left (h : visible u = visible t) (hn : n < (visible t).length)
    (t' u' : Text) : LostAt (t ++ t') (u ++ u') n ↔ LostAt t u n := by
  have hleft : SpaceAt (u ++ u') n ↔ SpaceAt u n := spaceAt_append_left (by rwa [h]) u'
  unfold LostAt
  rw [spaceAt_append_left hn, hleft, visible_append, List.length_append]
  refine and_congr_right fun _ => and_congr_left fun _ => iff_of_true ?_ hn
  exact Nat.lt_add_right _ hn

/-- Behind the seam only the second one does. -/
theorem lostAt_append_right (h : visible u = visible t) (hn : 0 < n) (t' u' : Text) :
    LostAt (t ++ t') (u ++ u') ((visible t).length + n) ↔ LostAt t' u' n := by
  have hright : SpaceAt (u ++ u') ((visible t).length + n) ↔ SpaceAt u' n := by
    rw [← h]
    exact spaceAt_append_right hn u u'
  unfold LostAt
  rw [spaceAt_append_right hn, hright, visible_append, List.length_append,
    Nat.add_lt_add_iff_left]
  exact and_congr_left fun _ => iff_of_true (Nat.add_pos_right _ hn) hn

/-- **At the seam** space is lost where visible characters meet that did not meet before. -/
theorem lostAt_seam (h : visible u = visible t) (h' : visible u' = visible t') :
    LostAt (t ++ t') (u ++ u') (visible t).length ↔ visible t ≠ [] ∧ visible t' ≠ [] ∧
      meets u u' = true ∧ meets t t' = false := by
  have hseam : visible t ≠ [] → visible t' ≠ [] →
      (SpaceAt (u ++ u') (visible t).length ↔ meets u u' = false) := by
    intro hne hne'
    rw [← h] at hne ⊢
    exact spaceAt_seam hne (by rwa [h'])
  unfold LostAt
  rw [visible_append, List.length_append, List.length_pos_iff, Nat.lt_add_right_iff_pos,
    List.length_pos_iff]
  refine and_congr_right fun hne => and_congr_right fun hne' => ?_
  rw [spaceAt_seam hne hne', hseam hne hne', Bool.not_eq_false, and_comm]

/-- **Of two texts together** space is lost where either of them loses it, and at the seam where
visible characters meet that did not meet before. -/
theorem lostAt_append (h : visible u = visible t) (h' : visible u' = visible t') :
    LostAt (t ++ t') (u ++ u') n ↔ LostAt t u n ∨
      (∃ m, n = (visible t).length + m ∧ LostAt t' u' m) ∨
      (n = (visible t).length ∧ visible t ≠ [] ∧ visible t' ≠ [] ∧
        meets u u' = true ∧ meets t t' = false) := by
  constructor
  · intro hlost
    rcases Nat.lt_trichotomy n (visible t).length with hlt | rfl | hgt
    · exact Or.inl ((lostAt_append_left h hlt t' u').1 hlost)
    · exact Or.inr (Or.inr ⟨rfl, (lostAt_seam h h').1 hlost⟩)
    · obtain ⟨m, hm, rfl⟩ : ∃ m, 0 < m ∧ n = (visible t).length + m :=
        ⟨n - (visible t).length, by omega, by omega⟩
      exact Or.inr (Or.inl ⟨m, rfl, (lostAt_append_right h hm t' u').1 hlost⟩)
  · rintro (hlost | ⟨m, rfl, hlost⟩ | ⟨rfl, hseam⟩)
    · exact (lostAt_append_left h hlost.2.1 t' u').2 hlost
    · exact (lostAt_append_right h hlost.1 t' u').2 hlost
    · exact (lostAt_seam h h').2 hseam

end HtmlMarkdown.Text
