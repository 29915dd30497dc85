import HtmlMarkdown.Proofs.Markdown.Lines

/-!
# What escaping does to a character

The passes of `escape` look at what the passes before them wrote. What they come to can be told
from the plain text alone: `IsEscaped` says whether a character gets a backslash, by what stands
before it on its line (`escape_one_pass`).

* `placeBehind`: the place that the glyphs of a text are counted by, from the text before it.
* `lines_spelled`: no line of spelled glyphs opens a block, as far as its place allows.
-/

namespace HtmlMarkdown

namespace Text

variable {needle t : Text}

/-- **What occurs in a text** is a part of it. -/
theorem contains_iff : contains needle t = true ↔ needle <:+: t := by
  induction t with
  | nil => rw [contains, List.isEmpty_iff, List.infix_nil]
  | cons c cs ih =>
    rw [contains, Bool.or_eq_true, ih, isPrefix, List.isPrefixOf_iff_prefix, List.infix_cons_iff]

end Text

namespace Markdown

open Text

variable {plain before t line : Text} {c : Char} {p : Place}

/-! ## When a character is escaped -/

/-- What of a text stands on its last line. -/
def lastLine (t : Text) : Text := t.rtakeWhile (· != '\n')

theorem lastLine_concat (t : Text) (c : Char) :
    lastLine (t ++ [c]) = if c = '\n' then [] else lastLine t ++ [c] := by
  unfold lastLine
  rw [List.rtakeWhile_concat]
  simp only [bne_iff_ne, ne_eq, ite_not]

/-- **Does a character of a plain text get a backslash?** A backslash does; so does an emphasis
marker that the text nowhere holds doubled, a block marker at the start of a line, and a full stop
that only digits stand before on its line. -/
def IsEscaped (plain before : Text) (c : Char) : Prop :=
  c = '\\' ∨ (c ∈ ['*', '_', '\x60'] ∧ ¬ [c, c] <:+: plain) ∨
    (lastLine before = [] ∧ c ∈ ['#', '>', '+', '-', '*']) ∨
    (c = '.' ∧ lastLine before ≠ [] ∧ ∀ d ∈ lastLine before, isDigit d = true)

instance (plain before : Text) (c : Char) : Decidable (IsEscaped plain before c) :=
  inferInstanceAs (Decidable (_ ∨ _ ∨ _ ∨ _))

/-- A character with its backslash if it gets one. -/
def spell (plain before : Text) (c : Char) : Text :=
  if IsEscaped plain before c then ['\\', c] else [c]

/-- The place behind a text. -/
def placeBehind (before : Text) : Place :=
  if lastLine before = [] then .start
  else if (lastLine before).all isDigit then .number
  else .inside

theorem placeBehind_concat (before : Text) (c : Char) :
    placeBehind (before ++ [c]) = (placeBehind before).next c := by
  unfold placeBehind
  rw [lastLine_concat]
  by_cases hc : c = '\n'
  · subst hc
    rfl
  · unfold Place.next
    rw [if_neg hc, if_neg hc, if_neg (by simp), List.all_append, List.all_cons, List.all_nil,
      Bool.and_true]
    by_cases hnil : lastLine before = []
    · rw [hnil]
      cases isDigit c <;> rfl
    · rw [if_neg hnil]
      cases (lastLine before).all isDigit <;> cases isDigit c <;> rfl

/-- A character is guarded by what stands before it on its line. -/
theorem guards_placeBehind (before : Text) (c : Char) :
    (placeBehind before).guards c = true ↔
      (lastLine before = [] ∧ c ∈ ['#', '>', '+', '-', '*']) ∨
        (c = '.' ∧ lastLine before ≠ [] ∧ ∀ d ∈ lastLine before, isDigit d = true) := by
  unfold placeBehind
  by_cases hnil : lastLine before = []
  · have hmarker : isBlockMarker c = true ↔ c ∈ ['#', '>', '+', '-', '*'] := List.contains_iff_mem
    simp only [hnil, if_true, Place.guards, hmarker, true_and, ne_eq, not_true, false_and,
      and_false, or_false]
  · rw [← List.all_eq_true]
    cases hdigits : (lastLine before).all isDigit <;> simp [hnil, Place.guards]

/-- **A glyph is spelled** as its place in the text asks for. -/
theorem spellGlyph_placeBehind (plain before : Text) (c : Char) :
    spellGlyph plain ⟨c, (placeBehind before).guards c⟩ = spell plain before c := by
  have hstar : isStarred plain c = true ↔ c ∈ ['*', '_', '\x60'] ∧ ¬ [c, c] <:+: plain := by
    unfold isStarred
    rw [Bool.and_eq_true, List.contains_iff_mem, Bool.not_eq_true', ← Bool.not_eq_true,
      contains_iff]
  unfold spellGlyph spell
  refine if_congr ?_ rfl rfl
  rw [hstar, guards_placeBehind, IsEscaped]

theorem spellAll_glyphsFrom (plain : Text) : ∀ t before : Text,
    spellAll plain (glyphsFrom (placeBehind before) t) =
      (withBefore t).flatMap fun p => spell plain (before ++ p.1) p.2 := by
  -- on the text, with what was read before it left free: the place is always the one behind it
  intro t
  induction t with
  | nil => intro before; rfl
  | cons c cs ih =>
    intro before
    rw [glyphsFrom, spellAll_cons, spellGlyph_placeBehind, ← placeBehind_concat, ih,
      withBefore_cons, List.flatMap_cons, List.flatMap_map, List.append_nil]
    simp only [List.append_assoc, List.singleton_append]

/-! ## No line opens a block -/

/-- A line that opens no block where it goes on at a place. -/
def Closed : Place → Text → Prop
  | .start, line => line.head?.any isBlockMarker = false ∧ opensNumber line = false
  | .number, line => (line.dropWhile isDigit).head? ≠ some '.'
  | .inside, _ => True

theorem closed_nil (p : Place) : Closed p [] := by
  cases p
  · exact ⟨rfl, rfl⟩
  · exact nofun
  · exact trivial

theorem closed_backslash (p : Place) (line : Text) : Closed p ('\\' :: line) := by
  have hdigit : isDigit '\\' = false := by decide
  have hmarker : isBlockMarker '\\' = false := by decide
  cases p with
  | start => exact ⟨hmarker, by simp [opensNumber, hdigit]⟩
  | number =>
    rw [Closed, List.dropWhile_cons_of_neg (by rw [hdigit]; decide), List.head?_cons]
    decide
  | inside => trivial

theorem closed_plain (hc : c ≠ '\n') (hguard : p.guards c = false)
    (h : Closed (p.next c) line) : Closed p (c :: line) := by
  unfold Place.next at h
  rw [if_neg hc] at h
  cases p with
  | start =>
    refine ⟨hguard, ?_⟩
    cases hd : isDigit c with
    | false => simp [opensNumber, hd]
    | true =>
      -- behind a first digit the line goes on as a number, whose guard is for the full stop
      rw [hd] at h
      have hnext : (line.dropWhile isDigit).head? ≠ some '.' := h
      have hnone : (line.dropWhile isDigit).head?.any (· == '.') = false := by
        rw [Option.any_eq_false]
        intro d hd'
        rw [beq_eq_false_iff_ne]
        rintro rfl
        exact hnext hd'
      simp [opensNumber, hd, hnone]
  | number =>
    cases hd : isDigit c with
    | false =>
      rw [Closed, List.dropWhile_cons_of_neg (by rw [hd]; decide), List.head?_cons]
      simpa [Place.guards] using hguard
    | true =>
      rw [hd] at h
      rw [Closed, List.dropWhile_cons_of_pos hd]
      exact h
  | inside => trivial

theorem spellGlyph_feed (plain : Text) (p : Place) :
    spellGlyph plain ⟨'\n', p.guards '\n'⟩ = ['\n'] := by
  have hguard : p.guards '\n' = false := by cases p <;> decide
  rw [hguard]
  unfold spellGlyph isStarred
  simp

/-- The lines of spelled glyphs: the first goes on at the place of the text, the others start. -/
theorem lines_spelled (plain : Text) : ∀ (t : Text) (p : Place), ∃ first rest,
    linesOf (spellAll plain (glyphsFrom p t)) = first :: rest ∧ Closed p first ∧
      ∀ line ∈ rest, Closed .start line := by
  intro t
  induction t with
  | nil => intro p; exact ⟨[], [], rfl, closed_nil p, by simp⟩
  | cons c cs ih =>
    intro p
    obtain ⟨first, rest, hlines, hfirst, hrest⟩ := ih (p.next c)
    rw [glyphsFrom, spellAll_cons]
    by_cases hc : c = '\n'
    · -- the line in hand is empty from here on, and the first line behind it starts anew
      subst hc
      rw [spellGlyph_feed, List.singleton_append, linesOf_feed, hlines]
      exact ⟨[], first :: rest, rfl, closed_nil p, List.forall_mem_cons.2 ⟨hfirst, hrest⟩⟩
    · rcases spellGlyph_cases plain ⟨c, p.guards c⟩ with hs | hs
      · have hguard : p.guards c = false := by
          rw [← Bool.not_eq_true]
          intro hguard
          unfold spellGlyph at hs
          rw [if_pos (Or.inr (Or.inr hguard))] at hs
          cases hs
        rw [hs, linesOf_append_line (by simpa using Ne.symm hc), hlines]
        exact ⟨c :: first, rest, rfl, closed_plain hc hguard hfirst, hrest⟩
      · rw [hs, linesOf_append_line (by simpa using Ne.symm hc), hlines]
        exact ⟨'\\' :: c :: first, rest, rfl, closed_backslash p _, hrest⟩

/-- **Escaping in one pass**: each character of a text gets its backslash or not by itself, from
what stands before it on its line and from the doubled markers of the text. So no line of an
escaped text starts with a block marker, or with digits and a full stop. -/
theorem escape_one_pass (t : Text) :
    (escape t = (withBefore t).flatMap fun p => spell t p.1 p.2) ∧
      ∀ line ∈ linesOf (escape t),
        line.head?.any isBlockMarker = false ∧ opensNumber line = false := by
  constructor
  · rw [escape_eq]
    exact spellAll_glyphsFrom t t []
  · obtain ⟨first, rest, hlines, hfirst, hrest⟩ := lines_spelled t t .start
    rw [escape_eq, glyphs, hlines]
    exact List.forall_mem_cons.2 ⟨hfirst, hrest⟩

end Markdown

end HtmlMarkdown
