import HtmlMarkdown.Markdown.Shape
import HtmlMarkdown.Proofs.Text.Scan

/-!
# Code spans

Markdown opens a code span with a run of backticks and closes it at the next run of the same length
(`spanContent?`), so what matters for code between backticks is which runs it has (`HasRun`). A code
span is opened with one backtick, or with two if there is one in the code; it closes too early for
code that has a run of two itself. The reader also takes off a space at both ends (`unpad`), whether
it was put there for the sake of a backtick or belongs to the code.

* `closeRun?_append_iff`: **a run closes a span at its end** unless the code has one like it.
* `codeSpan_reads_iff`: when a code span is read as its code.
-/

namespace HtmlMarkdown.Markdown

open Text

variable {n : ℕ} {c : Char} {before : Option Char} {t u v x code cs rest pad : Text}

/-! ## Runs of backticks -/

/-- So many backticks. -/
def ticks (n : ℕ) : Text := List.replicate n '\x60'

/-- The length of the run of backticks that a text starts with. -/
def leadingTicks (t : Text) : ℕ := (t.takeWhile (· == '\x60')).length

/-- **A run of exactly so many backticks**: no further one stands at either end of it. -/
def HasRun (n : ℕ) (t : Text) : Prop :=
  ∃ u v, t = u ++ (ticks n ++ v) ∧ u.getLast? ≠ some '\x60' ∧ v.head? ≠ some '\x60'

/-- The same for a text that is read on behind a character. -/
def HasRunBehind (before : Option Char) (n : ℕ) (t : Text) : Prop :=
  ∃ u v, t = u ++ (ticks n ++ v) ∧ u.getLast?.or before ≠ some '\x60' ∧ v.head? ≠ some '\x60'

theorem hasRunBehind_none : HasRunBehind none n t ↔ HasRun n t := by
  unfold HasRunBehind HasRun
  simp only [Option.or_none]

theorem eq_tick_of_mem (h : c ∈ ticks n) : c = '\x60' := List.eq_of_mem_replicate h

theorem ticks_ne_nil (hn : 0 < n) : ticks n ≠ [] := by
  unfold ticks
  rw [ne_eq, List.replicate_eq_nil_iff]
  omega

theorem leadingTicks_of_head (h : t.head? ≠ some '\x60') : leadingTicks t = 0 := by
  cases t with
  | nil => rfl
  | cons c cs =>
    have hc : (c == '\x60') = false := by
      rw [beq_eq_false_iff_ne]
      rintro rfl
      exact h rfl
    unfold leadingTicks
    rw [List.takeWhile_cons, hc]
    rfl

/-- A run is as long as it is. -/
theorem leadingTicks_ticks_append (h : v.head? ≠ some '\x60') :
    leadingTicks (ticks n ++ v) = n := by
  have hall : ∀ c ∈ ticks n, (c == '\x60') = true := by
    intro c hc
    rw [eq_tick_of_mem hc]
    rfl
  have hrest := leadingTicks_of_head h
  unfold leadingTicks at hrest ⊢
  rw [List.takeWhile_append_of_pos hall, List.length_append, hrest]
  exact List.length_replicate

/-- A text starts with a run, maybe an empty one, and goes on with something else. -/
theorem exists_leadingTicks (t : Text) :
    ∃ v, t = ticks (leadingTicks t) ++ v ∧ v.head? ≠ some '\x60' := by
  refine ⟨t.dropWhile (· == '\x60'), ?_, ?_⟩
  · have hrun : t.takeWhile (· == '\x60') = ticks (leadingTicks t) :=
      List.eq_replicate_iff.2 ⟨rfl, fun c hc => by simpa using List.mem_takeWhile_imp hc⟩
    rw [← hrun, List.takeWhile_append_dropWhile]
  · intro hhead
    have hnot := List.head?_dropWhile_not (· == '\x60') t
    rw [hhead] at hnot
    exact absurd hnot (by decide)

theorem leadingTicks_eq_iff :
    leadingTicks t = n ↔ ∃ v, t = ticks n ++ v ∧ v.head? ≠ some '\x60' := by
  constructor
  · rintro rfl
    exact exists_leadingTicks t
  · rintro ⟨v, rfl, hv⟩
    exact leadingTicks_ticks_append hv

/-- What follows a text that does not end in a backtick is no part of its first run. -/
theorem leadingTicks_append (hne : t ≠ []) (hlast : t.getLast? ≠ some '\x60') (u : Text) :
    leadingTicks (t ++ u) = leadingTicks t := by
  obtain ⟨v, hsplit, hv⟩ := exists_leadingTicks t
  have hvne : v ≠ [] := by
    rintro rfl
    rw [List.append_nil] at hsplit
    refine hlast ?_
    have hmem : t.getLast hne ∈ ticks (leadingTicks t) := by
      rw [← hsplit]
      exact List.getLast_mem hne
    rw [List.getLast?_eq_some_getLast hne, eq_tick_of_mem hmem]
  obtain ⟨c, cs, rfl⟩ := List.exists_cons_of_ne_nil hvne
  exact leadingTicks_eq_iff.2 ⟨c :: cs ++ u, by rw [← List.append_assoc, ← hsplit], hv⟩

theorem not_hasRun_of_not_mem (hn : 0 < n) (h : '\x60' ∉ t) : ¬ HasRun n t := by
  rintro ⟨u, v, rfl, -⟩
  refine h (List.mem_append_right u (List.mem_append_left v ?_))
  exact List.mem_replicate.2 ⟨hn.ne', rfl⟩

/-- A run starts right here, or later on. -/
theorem hasRunBehind_cons : HasRunBehind before n (c :: cs) ↔
    (before ≠ some '\x60' ∧ leadingTicks (c :: cs) = n) ∨ HasRunBehind (some c) n cs := by
  rw [leadingTicks_eq_iff]
  constructor
  · rintro ⟨u, v, hsplit, hu, hv⟩
    cases u with
    | nil => exact Or.inl ⟨hu, v, hsplit, hv⟩
    | cons d ds =>
      obtain ⟨rfl, hcs⟩ := List.cons.inj hsplit
      refine Or.inr ⟨ds, v, hcs, ?_, hv⟩
      rw [List.getLast?_cons] at hu
      cases hlast : ds.getLast? <;> simpa [hlast] using hu
  · rintro (⟨hbefore, v, hsplit, hv⟩ | ⟨u, v, rfl, hu, hv⟩)
    · exact ⟨[], v, hsplit, hbefore, hv⟩
    · refine ⟨c :: u, v, rfl, ?_, hv⟩
      rw [List.getLast?_cons]
      cases hlast : u.getLast? <;> simpa [hlast] using hu

/-- What stands before a text matters only if it is a backtick before another one. -/
theorem hasRunBehind_iff (hn : 0 < n) (h : before ≠ some '\x60' ∨ t.head? ≠ some '\x60') :
    HasRunBehind before n t ↔ HasRun n t := by
  refine exists_congr fun u => exists_congr fun v => and_congr_right fun hsplit =>
    and_congr_left fun hv => ?_
  cases hu : u.getLast? with
  | some d => rfl
  | none =>
    refine iff_of_true (h.resolve_right fun hhead => hhead ?_) nofun
    -- the text starts with the run
    obtain ⟨c, cs, hticks⟩ := List.exists_cons_of_ne_nil (ticks_ne_nil hn)
    have hc : c = '\x60' := eq_tick_of_mem (n := n) (by rw [hticks]; exact List.mem_cons_self)
    rw [hsplit, List.getLast?_eq_none_iff.1 hu, hticks, hc]
    rfl

theorem hasRun_cons (hn : 0 < n) (hc : c ≠ '\x60') : HasRun n (c :: t) ↔ HasRun n t := by
  have hbefore : some c ≠ some '\x60' := fun h => hc (Option.some.inj h)
  have hfirst : leadingTicks (c :: t) ≠ n := by
    rw [leadingTicks_of_head (t := c :: t) hbefore]
    exact hn.ne
  rw [← hasRunBehind_none, hasRunBehind_cons, or_iff_right fun h => hfirst h.2,
    hasRunBehind_iff hn (Or.inl hbefore)]

theorem hasRun_concat (hn : 0 < n) (hc : c ≠ '\x60') : HasRun n (t ++ [c]) ↔ HasRun n t := by
  constructor
  · rintro ⟨u, v, hsplit, hu, hv⟩
    rcases List.eq_nil_or_concat' v with rfl | ⟨w, d, rfl⟩
    · have hlast : c ∈ ticks n := by
        have hends := congrArg List.getLast? hsplit
        rw [List.append_nil, List.getLast?_concat, List.getLast?_append_of_ne_nil _
          (ticks_ne_nil hn)] at hends
        exact List.mem_of_getLast? hends.symm
      exact absurd (eq_tick_of_mem hlast) hc
    · rw [← List.append_assoc, ← List.append_assoc] at hsplit
      obtain ⟨rfl, -⟩ := List.append_inj' hsplit rfl
      refine ⟨u, w, List.append_assoc _ _ _, hu, fun hw => hv ?_⟩
      rw [List.head?_append, hw]
      rfl
  · rintro ⟨u, v, rfl, hu, hv⟩
    refine ⟨u, v ++ [c], by simp, hu, ?_⟩
    cases v with
    | nil => exact fun h => hc (Option.some.inj h)
    | cons d ds => exact hv

/-! ## Reading a code span -/

/-- What stands before the next run of exactly so many backticks, and what stands behind it. -/
def closeRun? (n : ℕ) : (before : Option Char) → Text → Option (Text × Text)
  | _, [] => none
  | before, c :: cs =>
    if before ≠ some '\x60' ∧ leadingTicks (c :: cs) = n then some ([], (c :: cs).drop n)
    else (closeRun? n (some c) cs).map fun found => (c :: found.1, found.2)

/-- **What a code span encloses**, and what is left behind it: a run of backticks opens it, and the
next run of the same length closes it. -/
def spanContent? (t : Text) : Option (Text × Text) :=
  if leadingTicks t = 0 then none
  else closeRun? (leadingTicks t) (some '\x60') (t.drop (leadingTicks t))

/-- Text with a space at both ends that is more than spaces. -/
def IsPadded (t : Text) : Prop := t.head? = some ' ' ∧ t.getLast? = some ' ' ∧ ∃ c ∈ t, c ≠ ' '

instance (t : Text) : Decidable (IsPadded t) :=
  decidable_of_iff (t.head? = some ' ' ∧ t.getLast? = some ' ' ∧ t.any (· != ' ') = true)
    (by simp [IsPadded])

/-- A space is taken off at both ends if there is one at each, and more between them. -/
def unpad (t : Text) : Text := if IsPadded t then (t.drop 1).dropLast else t

/-- **The code of a code span**, and what is left behind it. -/
def readSpan? (t : Text) : Option (Text × Text) :=
  (spanContent? t).map fun found => (unpad found.1, found.2)

theorem closeRun?_split : ∀ {before : Option Char} {t x rest : Text},
    closeRun? n before t = some (x, rest) → t = x ++ (ticks n ++ rest) := by
  intro before t
  induction t generalizing before with
  | nil => intro x rest h; cases h
  | cons c cs ih =>
    intro x rest h
    rw [closeRun?] at h
    split at h
    · rename_i hrun
      obtain ⟨v, hsplit, -⟩ := leadingTicks_eq_iff.1 hrun.2
      have hlength : (ticks n).length = n := List.length_replicate
      rw [hsplit, List.drop_left' hlength] at h
      cases h
      exact hsplit
    · obtain ⟨⟨y, rest'⟩, hy, hfound⟩ := Option.map_eq_some_iff.1 h
      cases hfound
      rw [ih hy]
      rfl

/-- **A run closes a span at its end** if and only if there is no run of its length before it. -/
theorem closeRun?_append_iff (hn : 0 < n) (hrest : rest.head? ≠ some '\x60') :
    ∀ {before : Option Char} {t : Text}, t.getLast?.or before ≠ some '\x60' →
      (closeRun? n before (t ++ (ticks n ++ rest)) = some (t, rest) ↔
        ¬ HasRunBehind before n t) := by
  intro before t
  induction t generalizing before with
  | nil =>
    intro hbefore
    have hnone : ¬ HasRunBehind before n [] := by
      rintro ⟨u, v, hsplit, -⟩
      have hnil := (List.append_eq_nil_iff.1 hsplit.symm).2
      exact ticks_ne_nil hn (List.append_eq_nil_iff.1 hnil).1
    refine iff_of_true ?_ hnone
    obtain ⟨c, cs, hticks⟩ := List.exists_cons_of_ne_nil (ticks_ne_nil hn)
    have hrun : leadingTicks (c :: (cs ++ rest)) = n := by
      rw [← List.cons_append, ← hticks]
      exact leadingTicks_ticks_append hrest
    have hlength : (c :: cs).length = n := by
      rw [← hticks]
      exact List.length_replicate
    rw [List.nil_append, hticks, List.cons_append, closeRun?, if_pos ⟨hbefore, hrun⟩,
      ← List.cons_append, List.drop_left' hlength]
  | cons c cs ih =>
    intro hlast
    have hlast' : (c :: cs).getLast? ≠ some '\x60' ∧ cs.getLast?.or (some c) ≠ some '\x60' := by
      rw [List.getLast?_cons] at hlast ⊢
      cases hcs : cs.getLast? <;> simpa [hcs] using hlast
    have hrun := leadingTicks_append (List.cons_ne_nil c cs) hlast'.1 (ticks n ++ rest)
    rw [List.cons_append] at hrun ⊢
    rw [hasRunBehind_cons, closeRun?, hrun]
    by_cases hfirst : before ≠ some '\x60' ∧ leadingTicks (c :: cs) = n
    · rw [if_pos hfirst]
      exact iff_of_false nofun fun h => h (Or.inl hfirst)
    · rw [if_neg hfirst, or_iff_right hfirst, ← ih hlast'.2, Option.map_eq_some_iff]
      constructor
      · rintro ⟨⟨y, rest'⟩, hy, hfound⟩
        cases hfound
        exact hy
      · intro h
        exact ⟨_, h, rfl⟩

/-! ## Delimiters -/

/-- **Code between delimiters**: the same run of backticks on both sides, maybe with a space inside
it, and no backtick next to a delimiter. -/
structure Delimits (n : ℕ) (pad code t : Text) : Prop where
  pos : 0 < n
  pad_cases : pad = [] ∨ pad = [' ']
  text : t = ticks n ++ (pad ++ code ++ pad) ++ ticks n
  head : (pad ++ code ++ pad).head? ≠ some '\x60'
  last : (pad ++ code ++ pad).getLast? ≠ some '\x60'

namespace Delimits

/-- The text tells how long the delimiters are. -/
theorem leadingTicks_eq (h : Delimits n pad code t) (hcode : code ≠ []) (rest : Text) :
    leadingTicks (t ++ rest) = n := by
  have hne : pad ++ code ++ pad ≠ [] := by simp [hcode]
  obtain ⟨c, cs, hinside⟩ := List.exists_cons_of_ne_nil hne
  have hhead := h.head
  rw [hinside] at hhead
  rw [h.text, hinside, List.append_assoc, List.append_assoc]
  exact leadingTicks_ticks_append hhead

theorem spanContent?_eq (h : Delimits n pad code t) (hcode : code ≠ []) (rest : Text) :
    spanContent? (t ++ rest) =
      closeRun? n (some '\x60') (pad ++ code ++ pad ++ (ticks n ++ rest)) := by
  have hlength : (ticks n).length = n := List.length_replicate
  unfold spanContent?
  rw [h.leadingTicks_eq hcode, if_neg h.pos.ne', h.text, List.append_assoc, List.append_assoc,
    List.drop_left' hlength]

/-- Padding is no part of a run. -/
theorem hasRun_padded (h : Delimits n pad code t) :
    HasRun n (pad ++ code ++ pad) ↔ HasRun n code := by
  rcases h.pad_cases with rfl | rfl
  · rw [List.nil_append, List.append_nil]
  · rw [hasRun_concat h.pos (by decide)]
    exact hasRun_cons h.pos (by decide)

/-- **The span closes at its end** if and only if the code has no run as long as its delimiters. -/
theorem closes_iff (h : Delimits n pad code t) (hcode : code ≠ [])
    (hrest : rest.head? ≠ some '\x60') :
    spanContent? (t ++ rest) = some (pad ++ code ++ pad, rest) ↔ ¬ HasRun n code := by
  have hne : pad ++ code ++ pad ≠ [] := by simp [hcode]
  have hlast : (pad ++ code ++ pad).getLast?.or (some '\x60') ≠ some '\x60' := by
    have hends := h.last
    rw [List.getLast?_eq_some_getLast hne] at hends ⊢
    exact hends
  rw [h.spanContent?_eq hcode, closeRun?_append_iff h.pos hrest hlast,
    hasRunBehind_iff h.pos (Or.inr h.head), h.hasRun_padded]

/-- What is enclosed follows from what is left. -/
theorem content_eq (h : Delimits n pad code t) (hcode : code ≠ [])
    (hread : spanContent? (t ++ rest) = some (x, rest)) : x = pad ++ code ++ pad := by
  rw [h.spanContent?_eq hcode] at hread
  exact (List.append_cancel_right (closeRun?_split hread)).symm

end Delimits

/-! ## The code span that is written -/

/-- The padding of a code span. -/
def padding (code : Text) : Text :=
  if code.head? = some '\x60' ∨ code.getLast? = some '\x60' then [' '] else []

/-- **A code span delimits its code**, by one backtick or by two if there is one in the code. -/
theorem codeSpan_delimits (h : code ≠ []) :
    Delimits (if '\x60' ∈ code then 2 else 1) (padding code) code (codeSpan code) where
  pos := by split <;> decide
  pad_cases := by
    unfold padding
    split
    · exact Or.inr rfl
    · exact Or.inl rfl
  text := by
    have hticks : (if code.any (· == '\x60') then ("\x60\x60" : Text) else "\x60") =
        ticks (if '\x60' ∈ code then 2 else 1) := by
      by_cases hmem : '\x60' ∈ code
      · rw [if_pos hmem, if_pos (by simpa using hmem)]
        rfl
      · rw [if_neg hmem, if_neg (by simpa using hmem)]
        rfl
    have hspace : (if code.head? = some '\x60' || code.getLast? = some '\x60' then (" " : Text)
        else "") = padding code := by
      unfold padding
      simp
    rw [codeSpan, if_neg (by simpa using h)]
    simp only [hticks, hspace]
    simp
  head := by
    unfold padding
    split
    · exact nofun
    · rename_i hends
      obtain ⟨c, cs, rfl⟩ := List.exists_cons_of_ne_nil h
      exact fun hhead => hends (Or.inl hhead)
  last := by
    unfold padding
    split
    · rw [List.getLast?_concat]
      decide
    · rename_i hends
      rw [List.nil_append, List.append_nil]
      exact fun hlast => hends (Or.inr hlast)

/-- The padding is taken off again, and nothing else is taken off unless the code has spaces of its
own at both ends. -/
theorem unpad_padding (code : Text) :
    unpad (padding code ++ code ++ padding code) = code ↔ ¬ IsPadded code := by
  unfold padding
  split
  · rename_i hends
    have hmem : '\x60' ∈ code := hends.elim List.mem_of_head? List.mem_of_getLast?
    have hpadded : IsPadded ([' '] ++ code ++ [' ']) := by
      refine ⟨rfl, List.getLast?_concat, '\x60', ?_, by decide⟩
      simp [hmem]
    have hcode : ¬ IsPadded code := by
      rintro ⟨hhead, hlast, -⟩
      rw [hhead, hlast] at hends
      revert hends
      decide
    refine iff_of_true ?_ hcode
    rw [unpad, if_pos hpadded]
    simp
  · rw [List.nil_append, List.append_nil, unpad]
    split
    · rename_i hpadded
      refine iff_of_false (fun hsame => ?_) (not_not_intro hpadded)
      have hlength := congrArg List.length hsame
      have hne := List.ne_nil_of_mem hpadded.2.2.choose_spec.1
      obtain ⟨c, cs, rfl⟩ := List.exists_cons_of_ne_nil hne
      simp at hlength
    · rename_i hpadded
      exact iff_of_true rfl hpadded

/-- Code has a run as long as the delimiters of its span only if it has a run of two. -/
theorem hasRun_delimiter_iff (code : Text) :
    HasRun (if '\x60' ∈ code then 2 else 1) code ↔ HasRun 2 code := by
  split
  · rfl
  · rename_i hmem
    exact iff_of_false (not_hasRun_of_not_mem (by decide) hmem)
      (not_hasRun_of_not_mem (by decide) hmem)

theorem exists_delimits_iff (h : code ≠ []) :
    (∃ n pad, Delimits n pad code (codeSpan code) ∧ ¬ HasRun n code) ↔ ¬ HasRun 2 code := by
  have hwritten := codeSpan_delimits h
  rw [← hasRun_delimiter_iff]
  constructor
  · rintro ⟨n, pad, hother, hrun⟩
    rwa [← hother.leadingTicks_eq h [], hwritten.leadingTicks_eq h []] at hrun
  · exact fun hrun => ⟨_, _, hwritten, hrun⟩

/-- **When a code span is read as its code.** It always delimits its code. It closes at its end
unless the code has a run of two backticks, and then it is the code that is read, unless this has a
space of its own at both ends. -/
theorem codeSpan_reads_iff (h : code ≠ []) :
    (∃ n pad, Delimits n pad code (codeSpan code)) ∧
      ((∃ n pad, Delimits n pad code (codeSpan code) ∧ ¬ HasRun n code) ↔ ¬ HasRun 2 code) ∧
      ∀ rest, rest.head? ≠ some '\x60' →
        ((∃ content, spanContent? (codeSpan code ++ rest) = some (content, rest)) ↔
          ¬ HasRun 2 code) ∧
        (readSpan? (codeSpan code ++ rest) = some (code, rest) ↔
          ¬ HasRun 2 code ∧ ¬ IsPadded code) := by
  have hwritten := codeSpan_delimits h
  refine ⟨⟨_, _, hwritten⟩, exists_delimits_iff h, fun rest hrest => ?_⟩
  have hcloses := hwritten.closes_iff h hrest
  rw [hasRun_delimiter_iff] at hcloses
  constructor
  · rw [← hcloses]
    constructor
    · rintro ⟨content, hread⟩
      rwa [hwritten.content_eq h hread] at hread
    · exact fun hread => ⟨_, hread⟩
  · rw [← hcloses, ← unpad_padding, readSpan?, Option.map_eq_some_iff]
    constructor
    · rintro ⟨⟨content, rest'⟩, hread, hfound⟩
      obtain ⟨hunpad, rfl⟩ := Prod.mk.inj hfound
      have hcontent := hwritten.content_eq h hread
      rw [hcontent] at hread hunpad
      exact ⟨hread, hunpad⟩
    · rintro ⟨hread, hunpad⟩
      exact ⟨_, hread, Prod.ext hunpad rfl⟩

/-- Code with a backtick at its start and a run of three. -/
def tickedCode : Text := "\x60a\x60\x60\x60"

/-- It is padded, and read as it is. -/
theorem codeSpan_reads_iff_ticked :
    tickedCode ≠ [] ∧ (" b" : Text).head? ≠ some '\x60' ∧
      codeSpan tickedCode = "\x60\x60 \x60a\x60\x60\x60 \x60\x60" ∧
      (∃ n pad, Delimits n pad tickedCode (codeSpan tickedCode) ∧ ¬ HasRun n tickedCode) ∧
      readSpan? (codeSpan tickedCode ++ " b") = some (tickedCode, (" b" : Text)) := by
  have hcode : tickedCode ≠ [] := by decide
  obtain ⟨-, hdelimits, hreads⟩ := codeSpan_reads_iff hcode
  obtain ⟨hcloses, hread⟩ := hreads " b" (by decide)
  have hrun : ¬ HasRun 2 tickedCode :=
    hcloses.1 ⟨" \x60a\x60\x60\x60 ", by decide⟩
  exact ⟨hcode, by decide, by decide, hdelimits.2 hrun, hread.2 ⟨hrun, by decide⟩⟩

/-- Code with a run of two backticks. -/
def doubledCode : Text := "a\x60\x60b"

/-- **A run of two in the code** closes the span. -/
theorem codeSpan_doubled :
    codeSpan doubledCode = "\x60\x60a\x60\x60b\x60\x60" ∧
      (¬ ∃ n pad, Delimits n pad doubledCode (codeSpan doubledCode) ∧ ¬ HasRun n doubledCode) ∧
      readSpan? (codeSpan doubledCode) = some (("a" : Text), ("b\x60\x60" : Text)) := by
  have hrun : HasRun 2 doubledCode := ⟨"a", "b", rfl, by decide, by decide⟩
  refine ⟨by decide, ?_, by decide⟩
  rw [exists_delimits_iff (by decide)]
  exact not_not_intro hrun

/-- A space at both ends is taken for padding. -/
example : readSpan? (codeSpan " a ") = some (("a" : Text), ([] : Text)) := by decide

end HtmlMarkdown.Markdown
