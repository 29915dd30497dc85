import HtmlMarkdown.Proofs.Markdown.Spelling
import HtmlMarkdown.Proofs.Text.Words
import Mathlib.Data.List.Forall2

/-!
# The starts of lines

A line opens a block by what it starts with (`opensBlock`): a heading, a quote, a bullet or a list
number. In a line that spells glyphs this is decided by the characters up to the first guarded
glyph (`Glyph.bare`), because that one has a backslash before it and no block marker goes on
behind a backslash.

* `Spells.lines`: what spells glyphs spells their lines, one by one.
* `Spells.opensBlock_eq`: **a line opens a block if and only if its bare characters do.**
-/

namespace HtmlMarkdown.Markdown

variable {gs : List Glyph} {line t u v out : Text} {p : Char → Bool}

/-! ## Lines that open a block -/

/-- One to six number signs with blank space behind them. -/
def opensHeading (line : Text) : Bool :=
  let marker := line.takeWhile (· == '#')
  !marker.isEmpty && decide (marker.length ≤ 6) &&
    (line.dropWhile (· == '#')).head?.any Text.isBlank

/-- A number with a full stop behind it. -/
def opensNumber (line : Text) : Bool :=
  !(line.takeWhile Text.isDigit).isEmpty &&
    (line.dropWhile Text.isDigit).head?.any (· == '.')

/-- **Does the line open a heading, a quote or a list?** -/
def opensBlock (line : Text) : Bool :=
  opensHeading line || opensNumber line || Text.isPrefix ">" line || Text.isPrefix "+ " line ||
    Text.isPrefix "- " line

/-- The lines of a text between its line feeds. -/
def linesOf (t : Text) : List Text := Text.splitOn (· == '\n') t

/-! ### What stands further on does not count -/

/-- The characters of block markers. -/
def lineMarkup : Text := ['#', '>', '+', '-', '.', ' ']

/-- A text that no block marker goes on with. -/
def Inert (t : Text) : Prop :=
  ∀ c, t.head? = some c → c ∉ lineMarkup ∧ Text.isBlank c = false ∧ Text.isDigit c = false

theorem Inert.nil : Inert [] := by
  intro c h
  cases h

theorem Inert.of_mem {c : Char} (h : c ∈ ['\\', '*', '_', '\x60']) (t : Text) :
    Inert (c :: t) := by
  intro d hd
  cases hd
  simp only [List.mem_cons, List.not_mem_nil, or_false] at h
  rcases h with rfl | rfl | rfl | rfl <;> exact ⟨by decide, by decide, by decide⟩

/-- **An inert text behind a line changes nothing of how the line opens.** -/
theorem opensBlock_append (hv : Inert v) (u : Text) : opensBlock (u ++ v) = opensBlock u := by
  have hout : ∀ c, v.head? = some c → c ∉ lineMarkup := fun c hc => (hv c hc).1
  have hsign : ∀ c, v.head? = some c → (c == '#') = false := by
    intro c hc
    rw [beq_eq_false_iff_ne]
    rintro rfl
    exact hout _ hc (by decide)
  have hstop : ∀ c, v.head? = some c → (c == '.') = false := by
    intro c hc
    rw [beq_eq_false_iff_ne]
    rintro rfl
    exact hout _ hc (by decide)
  have hmarker : ∀ marker : Text, marker.all (List.contains lineMarkup) = true →
      ∀ c, v.head? = some c → c ∉ marker := by
    intro marker hm c hc h
    exact hout c hc (List.contains_iff_mem.1 (List.all_eq_true.1 hm c h))
  unfold opensBlock opensHeading opensNumber
  simp only
  rw [Text.takeWhile_append_of_head hsign, Text.dropWhile_append_of_head hsign,
    Text.any_head?_append fun c hc => (hv c hc).2.1,
    Text.takeWhile_append_of_head fun c hc => (hv c hc).2.2,
    Text.dropWhile_append_of_head fun c hc => (hv c hc).2.2, Text.any_head?_append hstop,
    Text.isPrefix_append_of_head (hmarker _ (by decide)),
    Text.isPrefix_append_of_head (hmarker _ (by decide)),
    Text.isPrefix_append_of_head (hmarker _ (by decide))]

/-! ## Lines of glyphs -/

/-- The lines of some glyphs. -/
def glyphLines (gs : List Glyph) : List (List Glyph) := gs.splitOnP fun g => g.char == '\n'

/-- The characters up to the first guarded glyph. -/
def bare (gs : List Glyph) : Text := (gs.takeWhile fun g => !g.guarded).map Glyph.char

/-- Up to an inert rest, a line of text and the bare characters of the glyphs are the same. -/
theorem Spells.bare_eq (h : Spells gs line) :
    ∃ u v w, line = u ++ v ∧ bare gs = u ++ w ∧ Inert v ∧ Inert w := by
  induction h with
  | nil => exact ⟨[], [], [], rfl, rfl, Inert.nil, Inert.nil⟩
  | @plain c gs out _ _ ih =>
    obtain ⟨u, v, w, hline, hbare, hv, hw⟩ := ih
    refine ⟨c :: u, v, w, ?_, ?_, hv, hw⟩
    · rw [hline]
      rfl
    · rw [List.cons_append, ← hbare]
      rfl
  | @escaped g gs out hg _ _ =>
    -- the line goes on with a backslash; the bare characters end, or go on with the character
    refine ⟨[], _, bare (g :: gs), rfl, rfl, Inert.of_mem (by decide) _, ?_⟩
    unfold bare
    cases hguard : g.guarded with
    | true =>
      rw [List.takeWhile_cons_of_neg (by rw [hguard]; decide)]
      exact Inert.nil
    | false =>
      rw [List.takeWhile_cons_of_pos (by rw [hguard]; decide)]
      rcases hg with hg | ⟨hg, -⟩
      · exact Inert.of_mem hg _
      · rw [hguard] at hg
        cases hg

/-- **A line opens a block if and only if its bare characters do.** -/
theorem Spells.opensBlock_eq (h : Spells gs line) : opensBlock line = opensBlock (bare gs) := by
  obtain ⟨u, v, w, hline, hbare, hv, hw⟩ := h.bare_eq
  rw [hline, hbare, opensBlock_append hv, opensBlock_append hw]

theorem linesOf_cons (c : Char) (cs : Text) :
    linesOf (c :: cs) =
      if c = '\n' then [] :: linesOf cs else (linesOf cs).modifyHead (c :: ·) := by
  unfold linesOf
  rw [Text.splitOn_eq, Text.splitOn_eq, List.splitOnP_cons_eq_if_modifyHead]
  simp only [beq_iff_eq]

theorem glyphLines_cons (g : Glyph) (gs : List Glyph) :
    glyphLines (g :: gs) =
      if g.char = '\n' then [] :: glyphLines gs else (glyphLines gs).modifyHead (g :: ·) := by
  unfold glyphLines
  rw [List.splitOnP_cons_eq_if_modifyHead]
  simp only [beq_iff_eq]

theorem forall₂_modifyHead {lines : List (List Glyph)} {texts : List Text}
    (h : List.Forall₂ Spells lines texts) {f : List Glyph → List Glyph} {k : Text → Text}
    (hf : ∀ {gs line}, Spells gs line → Spells (f gs) (k line)) :
    List.Forall₂ Spells (lines.modifyHead f) (texts.modifyHead k) := by
  cases h with
  | nil => exact List.Forall₂.nil
  | cons h₁ h₂ => exact List.Forall₂.cons (hf h₁) h₂

/-- **What spells glyphs spells their lines.** -/
theorem Spells.lines (h : Spells gs out) :
    List.Forall₂ Spells (glyphLines gs) (linesOf out) := by
  induction h with
  | nil => exact List.Forall₂.cons Spells.nil List.Forall₂.nil
  | @plain c gs out hc h ih =>
    rw [glyphLines_cons, linesOf_cons]
    split
    · exact List.Forall₂.cons Spells.nil ih
    · exact forall₂_modifyHead ih (Spells.plain hc)
  | @escaped g gs out hg h ih =>
    have hfeed : g.char ≠ '\n' := by
      intro he
      have hmem := hg.mem
      rw [he] at hmem
      exact absurd hmem (by decide)
    rw [glyphLines_cons, linesOf_cons, linesOf_cons, if_neg hfeed, if_neg hfeed,
      if_neg (by decide), List.modifyHead_modifyHead]
    exact forall₂_modifyHead ih (Spells.escaped hg)

/-- **No line of a text opens a block** if and only if no line of its glyphs does by its bare
characters. -/
theorem Spells.no_block_iff (h : Spells gs out) :
    (∀ line ∈ linesOf out, opensBlock line = false) ↔
      ∀ line ∈ glyphLines gs, opensBlock (bare line) = false := by
  have hlines := h.lines
  generalize glyphLines gs = lines at hlines
  generalize linesOf out = texts at hlines
  induction hlines with
  | nil => simp
  | cons hline _ ih =>
    rw [List.forall_mem_cons, List.forall_mem_cons, hline.opensBlock_eq]
    exact and_congr_right fun _ => ih

end HtmlMarkdown.Markdown
