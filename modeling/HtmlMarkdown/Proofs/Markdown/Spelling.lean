import HtmlMarkdown.Markdown.Shape
import HtmlMarkdown.Proofs.Markdown.Escape
import HtmlMarkdown.Proofs.Text.Trim

/-!
# The spelling of glyphs

A text spells some glyphs if it has their characters, those that need one behind a backslash.
Joining and trimming go through the spelling (`Spells.append`, `Spells.trim`, `Spells.wrap`), and
no backslash is ever torn from its character.

* `escape_spells`: an escaped text spells the glyphs of the plain one.
* `Spells.unescape`: **the characters are read back**, however the text was put together.
-/

namespace HtmlMarkdown.Markdown

variable {g : Glyph} {gs hs : List Glyph} {c : Char} {t u out : Text}

/-! ## Glyphs that need a backslash -/

/-- May the glyph stand behind a backslash: as a backslash or an emphasis marker anywhere, and
where it would open a block? -/
def Glyph.Escapes (g : Glyph) : Prop :=
  g.char ∈ ['\\', '*', '_', '\x60'] ∨
    (g.guarded = true ∧ (isBlockMarker g.char = true ∨ g.char = '.'))

/-- The characters that stand behind a backslash. -/
def markup : Text := ['\\', '*', '_', '\x60', '#', '>', '+', '-', '.']

/-- Is the character blank? -/
def Glyph.isBlank (g : Glyph) : Bool := Text.isBlank g.char

theorem Glyph.Escapes.mem (h : g.Escapes) : g.char ∈ markup := by
  rcases h with h | ⟨-, h | h⟩
  · simp only [List.mem_cons, List.not_mem_nil, or_false] at h
    rcases h with h | h | h | h <;> rw [h] <;> decide
  · unfold isBlockMarker at h
    simp only [List.contains_cons, Bool.or_eq_true, beq_iff_eq, List.contains_nil,
      Bool.false_eq_true, or_false] at h
    rcases h with h | h | h | h | h <;> rw [h] <;> decide
  · rw [h]
    decide

theorem Glyph.Escapes.isPunctuation (h : g.Escapes) : isPunctuation g.char = true := by
  have hall : markup.all Markdown.isPunctuation = true := by decide
  exact List.all_eq_true.1 hall _ h.mem

theorem Glyph.Escapes.isBlank (h : g.Escapes) : g.isBlank = false := by
  have hall : markup.all (fun c => !Text.isBlank c) = true := by decide
  have hno := List.all_eq_true.1 hall _ h.mem
  rwa [Bool.not_eq_true'] at hno

/-! ## Spelling -/

/-- The text spells the glyphs. -/
inductive Spells : List Glyph → Text → Prop where
  | nil : Spells [] []
  | plain {c : Char} {gs : List Glyph} {out : Text} : c ≠ '\\' → Spells gs out →
      Spells (⟨c, false⟩ :: gs) (c :: out)
  | escaped {g : Glyph} {gs : List Glyph} {out : Text} : g.Escapes → Spells gs out →
      Spells (g :: gs) ('\\' :: g.char :: out)

namespace Spells

theorem append (h : Spells gs t) (h' : Spells hs u) : Spells (gs ++ hs) (t ++ u) := by
  induction h with
  | nil => exact h'
  | plain hc _ ih => exact plain hc ih
  | escaped hg _ ih => exact escaped hg ih

/-- What spells two rows of glyphs falls into what spells the one and what spells the other. -/
theorem append_inv : ∀ {gs : List Glyph} {out : Text}, Spells (gs ++ hs) out →
    ∃ t u, out = t ++ u ∧ Spells gs t ∧ Spells hs u := by
  intro gs
  induction gs with
  | nil => intro out h; exact ⟨[], out, rfl, nil, h⟩
  | cons g gs ih =>
    intro out h
    cases h with
    | plain hc h =>
      obtain ⟨t, u, rfl, ht, hu⟩ := ih h
      exact ⟨_, u, rfl, plain hc ht, hu⟩
    | escaped hg h =>
      obtain ⟨t, u, rfl, ht, hu⟩ := ih h
      exact ⟨_, u, rfl, escaped hg ht, hu⟩

/-- **The characters are read back.** -/
theorem unescape (h : Spells gs out) : Markdown.unescape out = gs.map Glyph.char := by
  induction h with
  | nil => rfl
  | @plain c gs out hc _ ih =>
    rw [List.map_cons, ← ih]
    cases out with
    | nil => rfl
    | cons d rest =>
      rw [Markdown.unescape]
      simp [hc]
  | escaped hg _ ih =>
    rw [Markdown.unescape, List.map_cons, ← ih]
    simp [hg.isPunctuation]

/-- A text without a backslash spells its characters. -/
theorem of_plain : ∀ {t : Text}, '\\' ∉ t → Spells (t.map (⟨·, false⟩)) t := by
  intro t
  induction t with
  | nil => intro _; exact nil
  | cons c cs ih =>
    intro h
    rw [List.mem_cons, not_or] at h
    exact plain (fun e => h.1 e.symm) (ih h.2)

theorem isEmpty_eq (h : Spells gs out) : out.isEmpty = gs.isEmpty := by
  cases h <;> rfl

/-! ### The ends of a text -/

theorem startsBlank_eq (h : Spells gs out) : Text.startsBlank out = gs.head?.any Glyph.isBlank := by
  cases h with
  | nil => rfl
  | plain hc _ => rfl
  | escaped hg _ =>
    have hslash : Text.isBlank '\\' = false := by decide
    change Text.isBlank '\\' = _
    rw [hslash]
    exact hg.isBlank.symm

/-- What spells the last of some glyphs ends in its character. -/
theorem concat_inv (h : Spells (gs ++ [g]) out) :
    ∃ t, Spells gs t ∧ (out = t ++ [g.char] ∨ (out = t ++ ['\\'] ++ [g.char] ∧ g.Escapes)) := by
  obtain ⟨t, u, rfl, ht, hu⟩ := h.append_inv
  refine ⟨t, ht, ?_⟩
  cases hu with
  | plain _ hrest =>
    cases hrest
    exact Or.inl rfl
  | escaped hg hrest =>
    cases hrest
    exact Or.inr ⟨by simp, hg⟩

theorem endsBlank_eq (h : Spells gs out) : Text.endsBlank out = gs.getLast?.any Glyph.isBlank := by
  unfold Text.endsBlank
  rcases List.eq_nil_or_concat gs with rfl | ⟨gs, g, rfl⟩
  · cases h
    rfl
  · rw [List.concat_eq_append] at h
    obtain ⟨t, -, rfl | ⟨rfl, -⟩⟩ := h.concat_inv
    · simp [Glyph.isBlank]
    · simp [Glyph.isBlank]

theorem trimStart (h : Spells gs out) :
    Spells (gs.dropWhile Glyph.isBlank) (Text.trimStart out) := by
  unfold Text.trimStart
  induction h with
  | nil => exact nil
  | @plain c gs out hc h ih =>
    have hsame : Glyph.isBlank ⟨c, false⟩ = Text.isBlank c := rfl
    rw [List.dropWhile_cons, List.dropWhile_cons, hsame]
    split
    · exact ih
    · exact plain hc h
  | @escaped g gs out hg h ih =>
    have hslash : Text.isBlank '\\' = false := by decide
    rw [List.dropWhile_cons, List.dropWhile_cons, hg.isBlank, hslash]
    exact escaped hg h

theorem trimEnd : ∀ {gs : List Glyph} {out : Text}, Spells gs out →
    Spells (gs.rdropWhile Glyph.isBlank) (Text.trimEnd out) := by
  -- `Spells` is read from the start, so the last glyph has to be split off first
  intro gs
  induction gs using List.reverseRecOn with
  | nil => intro out h; cases h; exact nil
  | append_singleton gs g ih =>
    intro out h
    obtain ⟨t, ht, rfl | ⟨rfl, hg⟩⟩ := h.concat_inv
    · rw [List.rdropWhile_concat]
      split
      · rename_i hb
        rw [Text.trimEnd_append_blank hb]
        exact ih ht
      · rename_i hb
        rw [Text.trimEnd_append_visible (Bool.eq_false_iff.2 hb)]
        exact h
    · rw [List.rdropWhile_concat, Text.trimEnd_append_visible hg.isBlank,
        if_neg (ne_true_of_eq_false hg.isBlank)]
      exact h

end Spells

/-! ## Shapes -/

/-- Glyphs without the blank ones on both sides. -/
def trimGlyphs (gs : List Glyph) : List Glyph :=
  (gs.dropWhile Glyph.isBlank).rdropWhile Glyph.isBlank

/-- Trimmed glyphs between two delimiters. -/
def wrapGlyphs (opening closing : Text) (gs : List Glyph) : List Glyph :=
  let t := trimGlyphs gs
  if t.isEmpty then [] else opening.map (⟨·, false⟩) ++ t ++ closing.map (⟨·, false⟩)

theorem Spells.trim (h : Spells gs out) : Spells (trimGlyphs gs) (Text.trim out) :=
  h.trimStart.trimEnd

/-- **Wrapping goes through the spelling.** -/
theorem Spells.wrap {opening closing : Text} (ho : '\\' ∉ opening) (hc : '\\' ∉ closing)
    (h : Spells gs out) :
    Spells (wrapGlyphs opening closing gs) (Markdown.wrap opening closing out) := by
  unfold wrapGlyphs Markdown.wrap
  simp only
  rw [h.trim.isEmpty_eq]
  split
  · exact nil
  · exact ((of_plain ho).append h.trim).append (of_plain hc)

theorem trimGlyphs_char (gs : List Glyph) :
    (trimGlyphs gs).map Glyph.char = Text.trim (gs.map Glyph.char) := by
  have hsame : Text.isBlank ∘ Glyph.char = Glyph.isBlank := rfl
  unfold trimGlyphs Text.trim Text.trimEnd Text.trimStart
  rw [Text.dropEndWhile_eq]
  unfold List.rdropWhile
  rw [List.dropWhile_map, ← List.map_reverse, List.dropWhile_map, hsame, List.map_reverse]

theorem wrapGlyphs_char (opening closing : Text) (gs : List Glyph) :
    (wrapGlyphs opening closing gs).map Glyph.char =
      wrap opening closing (gs.map Glyph.char) := by
  have hplain : ∀ t : Text, (t.map (⟨·, false⟩)).map Glyph.char = t := by
    intro t
    rw [List.map_map]
    exact List.map_id t
  unfold wrapGlyphs wrap
  simp only
  rw [← trimGlyphs_char, List.isEmpty_map]
  split
  · rfl
  · rw [List.map_append, List.map_append, hplain, hplain]

/-! ## Escaped texts -/

theorem Place.guards_cases {p : Place} (h : p.guards c = true) :
    isBlockMarker c = true ∨ c = '.' := by
  cases p with
  | start => exact Or.inl h
  | number => exact Or.inr (eq_of_beq h)
  | inside => cases h

theorem spellGlyph_spells (plain : Text)
    (h : g.guarded = true → isBlockMarker g.char = true ∨ g.char = '.') :
    Spells [g] (spellGlyph plain g) := by
  unfold spellGlyph
  split
  · rename_i hs
    refine Spells.escaped ?_ Spells.nil
    rcases hs with hs | hs | hs
    · exact Or.inl (by rw [hs]; decide)
    · unfold isStarred at hs
      have hmem := List.contains_iff_mem.1 (Bool.and_eq_true_iff.1 hs).1
      exact Or.inl (List.mem_cons_of_mem _ hmem)
    · exact Or.inr ⟨hs, h hs⟩
  · rename_i hs
    rw [not_or, not_or] at hs
    obtain ⟨hslash, -, hguard⟩ := hs
    obtain ⟨c, b⟩ := g
    obtain rfl : b = false := Bool.eq_false_iff.2 hguard
    exact Spells.plain hslash Spells.nil

/-- **An escaped text spells the glyphs of the plain one.** -/
theorem escape_spells (t : Text) : Spells (glyphs t) (escape t) := by
  have key : ∀ (u : Text) (p : Place), Spells (glyphsFrom p u) (spellAll t (glyphsFrom p u)) := by
    intro u
    induction u with
    | nil => intro p; exact Spells.nil
    | cons c cs ih =>
      intro p
      rw [glyphsFrom, spellAll_cons]
      exact (spellGlyph_spells t Place.guards_cases).append (ih (p.next c))
  rw [escape_eq]
  exact key t .start

end HtmlMarkdown.Markdown
