import HtmlMarkdown.Proofs.Markdown.Spelling
import HtmlMarkdown.Proofs.Text.Edges

/-!
# What an escaped text looks like

Escaping adds nothing but backslashes (`mem_escape`). It leaves the ends of a text as they are,
blank or visible, and no block marker stands at the start of an escaped text
(`head?_escape_ne_marker`). Taking the backslashes off again gives the text (`unescape_escape`).
-/

namespace HtmlMarkdown.Markdown

open Text

variable {c : Char} {t : Text}

theorem glyphs_char (t : Text) : (glyphs t).map Glyph.char = t := glyphsFrom_char t .start

/-- **Escaping adds nothing but backslashes.** -/
theorem mem_escape (h : c ∈ escape t) : c = '\\' ∨ c ∈ t := by
  rw [escape_eq] at h
  obtain ⟨g, hg, hc⟩ := List.mem_flatMap.1 h
  have hchar : g.char ∈ t := by
    rw [← glyphs_char t]
    exact List.mem_map_of_mem hg
  rcases spellGlyph_cases t g with hs | hs
  · rw [hs, List.mem_singleton] at hc
    rw [hc]
    exact Or.inr hchar
  · rw [hs] at hc
    rcases List.mem_pair.1 hc with rfl | rfl
    · exact Or.inl rfl
    · exact Or.inr hchar

theorem isEmpty_escape (t : Text) : (escape t).isEmpty = t.isEmpty := by
  rw [(escape_spells t).isEmpty_eq]
  cases t <;> rfl

theorem startsVisible_escape (t : Text) : startsVisible (escape t) = startsVisible t := by
  have hblank : startsBlank (escape t) = startsBlank t := by
    rw [(escape_spells t).startsBlank_eq]
    cases t <;> rfl
  rw [startsVisible_eq, startsVisible_eq, isEmpty_escape, hblank]

theorem endsVisible_escape (t : Text) : endsVisible (escape t) = endsVisible t := by
  have hblank : endsBlank (escape t) = endsBlank t := by
    have hlast : t.getLast? = (glyphs t).getLast?.map Glyph.char := by
      rw [← List.getLast?_map, glyphs_char]
    rw [(escape_spells t).endsBlank_eq, endsBlank, hlast]
    cases (glyphs t).getLast? <;> rfl
  rw [endsVisible_eq, endsVisible_eq, isEmpty_escape, hblank]

/-- **An escaped text starts with no block marker.** -/
theorem head?_escape_ne_marker (h : (escape t).head? = some c) : isBlockMarker c = false := by
  cases t with
  | nil => cases h
  | cons d ds =>
    have hspell : (escape (d :: ds)).head? =
        (spellGlyph (d :: ds) ⟨d, isBlockMarker d⟩).head? := by
      rw [escape_eq]
      change (spellGlyph (d :: ds) ⟨d, isBlockMarker d⟩ ++ _).head? = _
      rcases spellGlyph_cases (d :: ds) ⟨d, isBlockMarker d⟩ with hs | hs <;> rw [hs] <;> rfl
    rw [hspell] at h
    unfold spellGlyph at h
    split at h
    · cases h
      decide
    · rename_i hno
      cases h
      rw [not_or, not_or] at hno
      exact Bool.eq_false_iff.2 hno.2.2

theorem feed_not_mem_escape (h : '\n' ∉ t) : '\n' ∉ escape t := by
  intro hmem
  rcases mem_escape hmem with hc | hc
  · cases hc
  · exact h hc

/-- **A text that is not blank is one line**, escaped, and the line is visible at both ends. -/
theorem escape_line (h : isBlankText t = false) :
    '\n' ∉ escape (trim (collapse t)) ∧ startsVisible (escape (trim (collapse t))) = true ∧
      endsVisible (escape (trim (collapse t))) = true := by
  obtain ⟨hs, he⟩ := trim_collapse_edges h
  rw [startsVisible_escape, endsVisible_escape]
  exact ⟨feed_not_mem_escape (feed_not_mem_trim_collapse t), hs, he⟩

/-! ## Reading an escaped text back -/

/-- **Unescaping undoes escaping**, on every text; so no two texts are escaped alike. -/
theorem unescape_escape : (∀ t, unescape (escape t) = t) ∧ Function.Injective escape := by
  have hback : Function.LeftInverse unescape escape := by
    intro t
    -- a backslash of the output always belongs to the glyph behind it, whichever pass wrote it
    have hspells : Spells (glyphs t) (escape t) := escape_spells t
    rw [hspells.unescape, glyphs_char]
  exact ⟨hback, hback.injective⟩

example : unescape (escape "**x** _y_\n12. \\*") = "**x** _y_\n12. \\*" := by decide

end HtmlMarkdown.Markdown
