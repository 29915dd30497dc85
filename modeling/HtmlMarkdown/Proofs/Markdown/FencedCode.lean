import HtmlMarkdown.Proofs.Markdown.Headings
import Mathlib.Algebra.Ring.Parity

/-!
# Fenced code in a layout

Fenced code is opened and closed by one kind of fence, but a layout counts the fences of both kinds
alike (`inCode`): a line of the code that opens with the other fence string ends the code for it,
and the lines up to the next such line are laid out like any others.

* `opensWith`: a line that starts with a fence string, behind blank space or not.
* `layout_fenced_iff`: **when fenced code is left alone.**
-/

namespace HtmlMarkdown.Markdown

open Text

variable {fence other l : Text} {ls : List Text}

/-- Does the line start with the fence string? Blank space may stand before it. -/
def opensWith (fence line : Text) : Bool := Text.isPrefix fence (trimStart line)

/-- **The two fence strings**, in either order. -/
def FencePair (fence other : Text) : Prop :=
  (fence = "```" ∧ other = "~~~") ∨ (fence = "~~~" ∧ other = "```")

theorem FencePair.isFence_eq (h : FencePair fence other) (l : Text) :
    isFence l = (opensWith fence l || opensWith other l) := by
  rcases h with ⟨rfl, rfl⟩ | ⟨rfl, rfl⟩
  · rfl
  · exact Bool.or_comm _ _

/-- A fence stands alone on its line. -/
theorem FencePair.line (h : FencePair fence other) :
    isFence fence = true ∧ '\n' ∉ fence ∧ trimEnd fence = fence ∧ fence ≠ [] := by
  rcases h with ⟨rfl, -⟩ | ⟨rfl, -⟩ <;> exact ⟨by decide, by decide, by decide, by decide⟩

/-- **Fenced code**: some lines between two fences. -/
def enclose (fence : Text) (ls : List Text) : List Text := fence :: (ls ++ [fence])

theorem opensWith_trimEnd (h : FencePair fence other) (l : Text) :
    opensWith fence (trimEnd l) = opensWith fence l := by
  unfold opensWith
  rw [trimStart_trimEnd]
  rcases h with ⟨rfl, -⟩ | ⟨rfl, -⟩ <;> exact isPrefix_trimEnd (by decide) _

/-- Lines between fences are outside the code behind an odd number of other fences. -/
theorem inCode_eq (h : FencePair fence other) (hls : ∀ l ∈ ls, opensWith fence l = false) :
    inCode ls = true ↔ Odd (ls.countP (opensWith other)) := by
  have hcount : ls.countP isFence = ls.countP (opensWith other) := by
    refine List.countP_congr fun l hl => ?_
    rw [h.isFence_eq, hls l hl, Bool.false_or]
  unfold inCode
  rw [hcount, beq_iff_eq, Nat.odd_iff]

/-- Between two fences, headings are set apart if and only if those behind an odd number of
fences are. -/
theorem setApart_fenced (hfence : isFence fence = true) (hne : fence ≠ []) :
    SetApart false (enclose fence ls) ↔
      ∀ before line after, ls = before ++ line :: after → inCode before = true →
        ∀ marker space title, IsHeading line marker space title →
          space = [' '] ∧ before.getLast? = some [] ∧ after.head? = some [] := by
  have hno : ∀ marker space title, ¬ IsHeading fence marker space title := by
    intro marker space title hl
    rw [hl.isFence] at hfence
    cases hfence
  -- the fences are no headings, and they are not empty: a heading beside one is not set apart
  constructor
  · rintro hapart before line after rfl hcode marker space title hline
    have hsplit : enclose fence (before ++ line :: after) =
        (fence :: before) ++ line :: (after ++ [fence]) := by simp [enclose]
    have hopen : (false != inCode (fence :: before)) = false := by
      rw [inCode_cons, hfence, hcode]
      rfl
    obtain ⟨hspace, habove, hbelow⟩ := hapart _ _ _ hsplit hopen _ _ _ hline
    refine ⟨hspace, ?_, ?_⟩
    · cases before using List.reverseRecOn with
      | nil => cases hcode
      | append_singleton before b =>
        have hlast : (fence :: (before ++ [b])).getLast? = some b := by
          rw [← List.cons_append, List.getLast?_concat]
        rw [List.getLast?_concat, habove b hlast]
    · cases after with
      | nil => exact absurd (hbelow fence rfl) hne
      | cons a after =>
        have ha : a = [] := hbelow a rfl
        rw [ha]
        rfl
  · intro h before line after hsplit hcode marker space title hline
    rw [enclose] at hsplit
    cases before with
    | nil =>
      cases hsplit
      exact absurd hline (hno _ _ _)
    | cons b before =>
      rw [List.cons_append, List.cons.injEq] at hsplit
      obtain ⟨rfl, hsplit⟩ := hsplit
      cases after using List.reverseRecOn with
      | nil =>
        obtain ⟨-, hlast⟩ := List.append_inj' hsplit rfl
        cases hlast
        exact absurd hline (hno _ _ _)
      | append_singleton after a =>
        rw [← List.cons_append, ← List.append_assoc] at hsplit
        obtain ⟨hls, -⟩ := List.append_inj' hsplit rfl
        have hopen : inCode before = true := by
          rw [inCode_cons, hfence] at hcode
          cases hbefore : inCode before with
          | true => rfl
          | false => rw [hbefore] at hcode; cases hcode
        obtain ⟨hspace, habove, hbelow⟩ := h before line after hls hopen _ _ _ hline
        refine ⟨hspace, fun l hl => ?_, fun l hl => ?_⟩
        · rw [List.getLast?_cons, habove] at hl
          cases hl
          rfl
        · rw [List.head?_append, hbelow] at hl
          cases hl
          rfl

/-- **When fenced code is left alone**: its lines are only trimmed if and only if every heading behind
an odd number of lines that start with the other fence string has one space behind its marker
and an empty line on either side. Code without the other fence string is always left alone. -/
theorem layout_fenced_iff (h : FencePair fence other) (hfeed : ∀ l ∈ ls, '\n' ∉ l)
    (hls : ∀ l ∈ ls, opensWith fence l = false) :
    layout (joinLines (enclose fence ls)) = joinLines (enclose fence (ls.map trimEnd)) ↔
      ∀ before line after, ls.map trimEnd = before ++ line :: after →
        Odd (before.countP (opensWith other)) →
          ∀ marker space title, IsHeading line marker space title →
            space = [' '] ∧ before.getLast? = some [] ∧ after.head? = some [] := by
  obtain ⟨hfence, hline, htrim, hne⟩ := h.line
  have hlines : linesOf (joinLines (enclose fence ls)) = enclose fence ls := by
    refine linesOf_joinLines (List.cons_ne_nil _ _) fun l hl => ?_
    rcases List.mem_cons.1 hl with rfl | hl
    · exact hline
    · rcases List.mem_append.1 hl with hl | hl
      · exact hfeed l hl
      · rw [List.mem_singleton.1 hl]
        exact hline
  have hmap : (enclose fence ls).map trimEnd = enclose fence (ls.map trimEnd) := by
    simp [enclose, htrim]
  have hcount : ∀ before line after, ls.map trimEnd = before ++ line :: after →
      (inCode before = true ↔ Odd (before.countP (opensWith other))) := by
    intro before line after hsplit
    refine inCode_eq h fun l hl => ?_
    have hmem : l ∈ ls.map trimEnd := by
      rw [hsplit]
      exact List.mem_append_left _ hl
    obtain ⟨l', hl', rfl⟩ := List.mem_map.1 hmem
    rw [opensWith_trimEnd h, hls l' hl']
  have hiff := layout_eq_iff (joinLines (enclose fence ls))
  rw [hlines, hmap, setApart_fenced hfence hne] at hiff
  rw [hiff]
  constructor
  · intro hcode before line after hsplit hodd
    exact hcode before line after hsplit ((hcount before line after hsplit).2 hodd)
  · intro hodd before line after hsplit hcode
    exact hodd before line after hsplit ((hcount before line after hsplit).1 hcode)

/-- Code with a heading between two of the other fences, set apart already. -/
def apartCode : List Text := ["#a ", "~~~", "", "# b", "", "~~~"]

/-- It is left alone, but for the space behind its first line. -/
theorem layout_fenced_iff_apart :
    FencePair "```" "~~~" ∧ (∀ l ∈ apartCode, '\n' ∉ l) ∧
      (∀ l ∈ apartCode, opensWith "```" l = false) ∧
      layout "```\n#a \n~~~\n\n# b\n\n~~~\n```" = "```\n#a\n~~~\n\n# b\n\n~~~\n```" ∧
      (layout (joinLines (enclose "```" apartCode)) =
          joinLines (enclose "```" (apartCode.map trimEnd)) ↔
        ∀ before line after, apartCode.map trimEnd = before ++ line :: after →
          Odd (before.countP (opensWith "~~~")) →
            ∀ marker space title, IsHeading line marker space title →
              space = [' '] ∧ before.getLast? = some [] ∧ after.head? = some []) :=
  ⟨Or.inl ⟨rfl, rfl⟩, by decide, by decide, by decide,
    layout_fenced_iff (Or.inl ⟨rfl, rfl⟩) (by decide) (by decide)⟩

/-- Code with a line that starts with the other fence string. -/
def strayCode : List Text := ["~~~", "#x"]

/-- The line behind it is taken for a heading. -/
theorem layout_stray_fence :
    (∀ l ∈ strayCode, '\n' ∉ l) ∧ (∀ l ∈ strayCode, opensWith "```" l = false) ∧
      layout (joinLines (enclose "```" strayCode)) = "```\n~~~\n\n# x\n\n```" ∧
      layout (joinLines (enclose "```" strayCode)) ≠
        joinLines (enclose "```" (strayCode.map trimEnd)) :=
  ⟨by decide, by decide, by decide, by decide⟩

end HtmlMarkdown.Markdown
