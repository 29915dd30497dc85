import HtmlMarkdown.Text.Basic
import Mathlib.Data.List.Infix
import Mathlib.Data.List.TakeWhile

/-!
# Reading a text from its start

What is read up to a character that ends it does not depend on what that character starts: a run
(`takeWhile_append_of_head`), or a prefix (`isPrefix_append_of_head`). A replacement reads a text
from its start on, too: `replaceAllFrom_induction` is the induction over its steps. What it does to
a part of a text depends on what follows that part, so this is named along with it: a part may be
passed over (`Passes`) or made another text (`Rewrites`), and both go part by part.
-/

namespace HtmlMarkdown.Text

variable {c d : Char} {t u v : Text} {p q : Char → Bool}

/-! ## Up to a character -/

theorem any_head?_append (hv : ∀ c, v.head? = some c → q c = false) (u : Text) :
    (u ++ v).head?.any q = u.head?.any q := by
  cases u with
  | cons c cs => rfl
  | nil =>
    cases v with
    | nil => rfl
    | cons c cs => exact hv c rfl

theorem takeWhile_append_of_head (hv : ∀ c, v.head? = some c → p c = false) (u : Text) :
    (u ++ v).takeWhile p = u.takeWhile p := by
  induction u with
  | nil =>
    cases v with
    | nil => rfl
    | cons c cs => rw [List.nil_append, List.takeWhile_cons, hv c rfl]; rfl
  | cons c cs ih =>
    rw [List.cons_append, List.takeWhile_cons, List.takeWhile_cons, ih]

theorem dropWhile_append_of_head (hv : ∀ c, v.head? = some c → p c = false) (u : Text) :
    (u ++ v).dropWhile p = u.dropWhile p ++ v := by
  induction u with
  | nil =>
    cases v with
    | nil => rfl
    | cons c cs => rw [List.nil_append, List.dropWhile_cons, hv c rfl]; rfl
  | cons c cs ih =>
    rw [List.cons_append, List.dropWhile_cons, List.dropWhile_cons, ih]
    split <;> rfl

/-- **A run is taken whole** if what follows does not go on with it. -/
theorem takeWhile_run (hu : u.all p = true) (hv : ∀ c, v.head? = some c → p c = false) :
    (u ++ v).takeWhile p = u := by
  rw [takeWhile_append_of_head hv, List.takeWhile_eq_self_iff.2 (List.all_eq_true.1 hu)]

/-- **Nothing but the run is dropped** if what follows does not go on with it. -/
theorem dropWhile_run (hu : u.all p = true) (hv : ∀ c, v.head? = some c → p c = false) :
    (u ++ v).dropWhile p = v := by
  rw [dropWhile_append_of_head hv, List.dropWhile_eq_nil_iff.2 (List.all_eq_true.1 hu),
    List.nil_append]

/-- What is left behind a run does not go on with it. -/
theorem any_head?_dropWhile (p : Char → Bool) (t : Text) :
    (t.dropWhile p).head?.any p = false := by
  have hstop := List.head?_dropWhile_not p t
  cases hhead : (t.dropWhile p).head? with
  | none => rfl
  | some c =>
    rw [hhead] at hstop
    simpa using hstop

theorem takeWhile_ne_nil (h : t.head?.any p = true) : t.takeWhile p ≠ [] := by
  cases t with
  | nil => cases h
  | cons c cs =>
    have hc : p c = true := h
    rw [List.takeWhile_cons_of_pos hc]
    exact List.cons_ne_nil c _

theorem isPrefix_append_of_head : ∀ {marker u : Text}, (∀ c, v.head? = some c → c ∉ marker) →
    isPrefix marker (u ++ v) = isPrefix marker u := by
  intro marker
  induction marker with
  | nil => intro u _; simp [isPrefix]
  | cons m marker ih =>
    intro u hv
    have hv' : ∀ c, v.head? = some c → c ∉ marker :=
      fun c hc hm => hv c hc (List.mem_cons_of_mem _ hm)
    cases u with
    | cons c cs =>
      have hrest := ih (u := cs) hv'
      unfold isPrefix at hrest ⊢
      rw [List.cons_append, List.isPrefixOf_cons_cons, List.isPrefixOf_cons_cons, hrest]
    | nil =>
      cases v with
      | nil => rfl
      | cons c cs =>
        have hne : (m == c) = false := by
          rw [beq_eq_false_iff_ne]
          rintro rfl
          exact hv m rfl List.mem_cons_self
        unfold isPrefix
        rw [List.nil_append, List.isPrefixOf_cons_cons, hne]
        rfl

/-! ### The first one of a character -/

theorem takeWhile_ne_append (h : c ∉ u) (v : Text) : (u ++ c :: v).takeWhile (· != c) = u := by
  have hu : ∀ d ∈ u, (d != c) = true := by
    intro d hd
    rw [bne_iff_ne]
    rintro rfl
    exact h hd
  rw [List.takeWhile_append_of_pos hu, List.takeWhile_cons_of_neg (by simp), List.append_nil]

theorem dropWhile_ne_append (h : c ∉ u) (v : Text) : (u ++ c :: v).dropWhile (· != c) = c :: v := by
  have hu : ∀ d ∈ u, (d != c) = true := by
    intro d hd
    rw [bne_iff_ne]
    rintro rfl
    exact h hd
  rw [List.dropWhile_append_of_pos hu, List.dropWhile_cons_of_neg (by simp)]

theorem dropWhile_ne_eq_nil (h : c ∉ t) : t.dropWhile (· != c) = [] := by
  rw [List.dropWhile_eq_nil_iff]
  intro d hd
  rw [bne_iff_ne]
  rintro rfl
  exact h hd

/-- A text is cut at the first one of a character. -/
theorem eq_append_of_dropWhile_ne (h : t.dropWhile (· != c) = d :: v) :
    d = c ∧ ∃ u, c ∉ u ∧ t = u ++ c :: v := by
  have hd : d = c := by
    have hhead := List.head?_dropWhile_not (· != c) t
    rw [h] at hhead
    simpa using hhead
  subst hd
  refine ⟨rfl, t.takeWhile (· != d), fun hmem => ?_, ?_⟩
  · simpa using List.mem_takeWhile_imp hmem
  · rw [← h, List.takeWhile_append_dropWhile]

/-! ## Replacement, one match at a time -/

variable {find : Finder} {before : Option Char} {cs new skipped rest : Text}

theorem replaceAllFrom_of_none (h : find before (c :: cs) = none) :
    replaceAllFrom find before 0 (c :: cs) = c :: replaceAllFrom find (some c) 0 cs := by
  rw [replaceAllFrom, h]

theorem replaceAllFrom_of_some (h : find before (c :: cs) = some (new, rest)) :
    replaceAllFrom find before 0 (c :: cs) =
      new ++ replaceAllFrom find (some c) (cs.length - rest.length) cs := by
  rw [replaceAllFrom, h]

/-- The rest of a match is passed over; what follows sees the last character of it. -/
theorem replaceAllFrom_skip (find : Finder) : ∀ (skipped : Text) (before : Option Char) (c : Char)
    (rest : Text),
    replaceAllFrom find before (skipped.length + 1) (skipped ++ c :: rest) =
      replaceAllFrom find (some c) 0 rest := by
  intro skipped
  induction skipped with
  | nil => intro before c rest; rfl
  | cons d ds ih => intro before c rest; exact ih (some d) c rest

/-- A match is replaced, and the text goes on behind its last character. -/
theorem replaceAllFrom_match (h : find before (c :: (skipped ++ rest)) = some (new, rest)) :
    replaceAllFrom find before 0 (c :: (skipped ++ rest)) =
      new ++ replaceAllFrom find (c :: skipped).getLast? 0 rest := by
  rw [replaceAllFrom_of_some h, List.length_append, Nat.add_sub_cancel]
  rcases List.eq_nil_or_concat' skipped with rfl | ⟨ds, d, rfl⟩
  · rfl
  · rw [List.length_append, List.append_assoc, List.singleton_append, ← List.cons_append,
      List.getLast?_concat]
    exact congrArg (new ++ ·) (replaceAllFrom_skip find ds (some c) d rest)

theorem replaceAllFrom_found (h : find before (c :: (skipped ++ rest)) = some (new, rest)) :
    ∃ before', replaceAllFrom find before 0 (c :: (skipped ++ rest)) =
      new ++ replaceAllFrom find before' 0 rest :=
  ⟨_, replaceAllFrom_match h⟩

/-- **What a replacement does to a text**, one step at a time: a character stays, or a match is
replaced. -/
theorem replaceAllFrom_induction {motive : Text → Text → Prop}
    (suffix : ∀ {before c t new rest}, find before (c :: t) = some (new, rest) → rest <:+ t)
    (nil : motive [] [])
    (keep : ∀ {before c t u}, find before (c :: t) = none → motive t u →
      motive (c :: t) (c :: u))
    (replace : ∀ {before c skipped new rest u},
      find before (c :: (skipped ++ rest)) = some (new, rest) → motive rest u →
        motive (c :: (skipped ++ rest)) (new ++ u)) :
    ∀ before t, motive t (replaceAllFrom find before 0 t) := by
  -- a match takes several characters at once, so the induction is on the length
  have key : ∀ k before (t : Text), t.length ≤ k → motive t (replaceAllFrom find before 0 t) := by
    intro k
    induction k with
    | zero =>
      intro before t hk
      rw [List.length_eq_zero_iff.1 (Nat.le_zero.1 hk)]
      exact nil
    | succ k ih =>
      intro before t hk
      cases t with
      | nil => exact nil
      | cons c cs =>
        rw [List.length_cons] at hk
        cases hfind : find before (c :: cs) with
        | none =>
          rw [replaceAllFrom_of_none hfind]
          exact keep hfind (ih (some c) cs (by omega))
        | some found =>
          obtain ⟨new, rest⟩ := found
          obtain ⟨skipped, rfl⟩ := suffix hfind
          obtain ⟨before', hrest⟩ := replaceAllFrom_found hfind
          rw [hrest]
          exact replace hfind (ih before' rest (by rw [List.length_append] at hk; omega))
  exact fun before t => key t.length before t le_rfl

/-- A match that is replaced by as much as itself stays if nothing becomes longer and the whole text
stays. -/
theorem replaceAllFrom_match_eq
    (hle : ∀ before t, (replaceAllFrom find before 0 t).length ≤ t.length)
    (h : find before (c :: (skipped ++ rest)) = some (new, rest))
    (hnew : new.length ≤ (c :: skipped).length)
    (hsame : replaceAllFrom find before 0 (c :: (skipped ++ rest)) = c :: (skipped ++ rest)) :
    new = c :: skipped ∧ replaceAllFrom find (c :: skipped).getLast? 0 rest = rest := by
  rw [replaceAllFrom_match h, ← List.cons_append] at hsame
  have hrest := hle (c :: skipped).getLast? rest
  -- neither part has become longer, so neither has become shorter
  have hlength := congrArg List.length hsame
  rw [List.length_append, List.length_append] at hlength
  exact List.append_inj hsame (by omega)

/-- What only takes something out leaves the rest in order. -/
theorem replaceAll_sublist
    (h : ∀ {before c t found}, find before (c :: t) = some found → found.1 = [] ∧ found.2 <:+ t)
    (t : Text) : (replaceAll find t).Sublist t := by
  refine replaceAllFrom_induction (motive := fun t u => u.Sublist t) (fun hfind => (h hfind).2)
    (List.Sublist.refl _) ?keep ?replace none t
  case keep =>
    intro before c t u hfind hrest
    exact hrest.cons_cons c
  case replace =>
    intro before c skipped new rest u hfind hrest
    obtain ⟨hnew, -⟩ := h hfind
    simp only at hnew
    rw [hnew]
    exact (hrest.trans (List.sublist_append_right skipped rest)).cons c

/-- What only writes as much as it reads does not make the text longer. -/
theorem length_replaceAllFrom_le
    (h : ∀ {before t new rest}, find before t = some (new, rest) →
      ∃ old, t = old ++ rest ∧ old ≠ [] ∧ new.length ≤ old.length)
    (before : Option Char) (t : Text) : (replaceAllFrom find before 0 t).length ≤ t.length := by
  refine replaceAllFrom_induction (motive := fun t u => u.length ≤ t.length) ?suffix le_rfl ?keep
    ?replace before t
  case suffix =>
    intro before c t new rest hfind
    obtain ⟨old, hsplit, hne, -⟩ := h hfind
    obtain ⟨d, ds, rfl⟩ := List.exists_cons_of_ne_nil hne
    exact ⟨ds, (List.cons.inj hsplit).2.symm⟩
  case keep =>
    intro before c t u _ hrest
    exact Nat.succ_le_succ hrest
  case replace =>
    intro before c skipped new rest u hfind hrest
    obtain ⟨old, hsplit, -, hle⟩ := h hfind
    rw [hsplit, List.length_append, List.length_append]
    exact Nat.add_le_add hle hrest

/-! ## Replacement, one part of a text at a time -/

variable {x y x' y' : Text}

/-- **A rule passes over a text** if it finds nothing from any place of it on. -/
def Passes (find : Finder) (x rest : Text) : Prop :=
  ∀ before u, u <:+ x → u ≠ [] → find before (u ++ rest) = none

theorem Passes.nil (find : Finder) (rest : Text) : Passes find [] rest := by
  intro before u hu hne
  exact absurd (List.suffix_nil.1 hu) hne

theorem Passes.head (h : Passes find (c :: cs) rest) (before : Option Char) :
    find before (c :: (cs ++ rest)) = none :=
  h before (c :: cs) List.suffix_rfl (List.cons_ne_nil c cs)

theorem Passes.tail (h : Passes find (c :: cs) rest) : Passes find cs rest :=
  fun before u hu => h before u (hu.trans (List.suffix_cons c cs))

theorem Passes.append (hx : Passes find x (y ++ rest)) (hy : Passes find y rest) :
    Passes find (x ++ y) rest := by
  induction x with
  | nil => exact hy
  | cons c cs ih =>
    intro before u hu hne
    rcases List.suffix_cons_iff.1 hu with rfl | hu
    · have hfirst := hx.head before
      rwa [← List.append_assoc] at hfirst
    · exact ih hx.tail before u hu hne

theorem Passes.cons (h : ∀ before, find before (c :: (x ++ rest)) = none)
    (hx : Passes find x rest) : Passes find (c :: x) rest := by
  intro before u hu hne
  rcases List.suffix_cons_iff.1 hu with rfl | hu
  · exact h before
  · exact hx before u hu hne

/-- **What a rule finds starts with the character.** -/
def Starts (find : Finder) (first : Char) : Prop :=
  ∀ {before : Option Char} {c : Char} {t : Text} {found : Text × Text},
    find before (c :: t) = some found → c = first

/-- A text without the character is passed over, whatever follows it. -/
theorem Starts.passes (h : Starts find c) (hx : c ∉ x) (rest : Text) : Passes find x rest := by
  intro before u hu hne
  obtain ⟨d, ds, rfl⟩ := List.exists_cons_of_ne_nil hne
  cases hfind : find before (d :: ds ++ rest) with
  | none => rfl
  | some found => exact absurd (hu.mem (by rw [h hfind]; exact List.mem_cons_self)) hx

/-- What is passed over stays, and the rest sees the last character of it. -/
theorem Passes.replaceAllFrom_eq (h : Passes find x rest) (before : Option Char) :
    replaceAllFrom find before 0 (x ++ rest) =
      x ++ replaceAllFrom find (x.getLast?.or before) 0 rest := by
  induction x generalizing before with
  | nil => rfl
  | cons c cs ih =>
    have hlast : (c :: cs).getLast?.or before = cs.getLast?.or (some c) := by
      rw [List.getLast?_cons]
      cases cs.getLast? <;> rfl
    rw [List.cons_append, replaceAllFrom_of_none (h.head before), ih h.tail (some c), hlast]
    rfl

/-- **A pass makes one text of another**, wherever it stands before the rest. -/
def Rewrites (find : Finder) (x y rest : Text) : Prop :=
  ∀ before, ∃ before', replaceAllFrom find before 0 (x ++ rest) =
    y ++ replaceAllFrom find before' 0 rest

theorem Passes.rewrites (h : Passes find x rest) : Rewrites find x x rest :=
  fun before => ⟨_, h.replaceAllFrom_eq before⟩

theorem Rewrites.append (h : Rewrites find x y (x' ++ rest))
    (h' : Rewrites find x' y' rest) : Rewrites find (x ++ x') (y ++ y') rest := by
  intro before
  obtain ⟨before₁, hx⟩ := h before
  obtain ⟨before₂, hx'⟩ := h' before₁
  refine ⟨before₂, ?_⟩
  rw [List.append_assoc, hx, hx', List.append_assoc]

/-- A match is replaced. -/
theorem rewrites_of_found (hne : x ≠ [])
    (h : ∀ before, find before (x ++ rest) = some (new, rest)) : Rewrites find x new rest := by
  intro before
  cases x with
  | nil => exact absurd rfl hne
  | cons c cs => exact replaceAllFrom_found (h before)

theorem Rewrites.replaceAll_eq (h : Rewrites find x y []) : replaceAll find x = y := by
  obtain ⟨before', hx⟩ := h none
  rw [List.append_nil, replaceAllFrom, List.append_nil] at hx
  exact hx

/-- Where the first character of a match only comes in one part of a text, that part is all that is
rewritten. -/
theorem Starts.replaceAll_between (h : Starts find c) {u v : Text} (hu : c ∉ u) (hv : c ∉ v)
    (hx : Rewrites find x y v) : replaceAll find (u ++ (x ++ v)) = u ++ (y ++ v) := by
  have hpart : Rewrites find (u ++ (x ++ v)) (u ++ (y ++ v)) [] := by
    refine (h.passes hu _).rewrites.append (Rewrites.append ?_ (h.passes hv []).rewrites)
    rwa [List.append_nil]
  exact hpart.replaceAll_eq

end HtmlMarkdown.Text
