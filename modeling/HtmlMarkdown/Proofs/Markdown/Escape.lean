import HtmlMarkdown.Markdown.Escape
import HtmlMarkdown.Proofs.Text.Scan
import Mathlib.Data.List.TakeWhile

/-!
# Escaping in one pass

`escape` changes a text in several passes. What they come to is decided character by character,
by the place in the line: a `Glyph` is a character that knows whether it stands where it would
open a block, and `glyphs` reads a text as glyphs. Each of them gets a backslash or not, by
itself (`escape_eq`).

* `escapeMarkers_eq`: the passes for backslashes and emphasis markers.
* `replaceBlockMarkers`, `replaceListNumbers`: the passes that look at the starts of lines.
-/

namespace HtmlMarkdown.Markdown

/-! ## Glyphs -/

/-- A character of a plain text; `guarded` if it stands where it would open a block. -/
structure Glyph where
  char : Char
  guarded : Bool := false
  deriving DecidableEq, Repr

/-- A place in a line: its start, behind digits at its start, or further in. -/
inductive Place where
  | start
  | number
  | inside
  deriving DecidableEq, Repr

namespace Place

/-- Would the character open a block at this place? -/
def guards : Place → Char → Bool
  | start, c => isBlockMarker c
  | number, c => c == '.'
  | inside, _ => false

/-- The place behind a character. -/
def next (p : Place) (c : Char) : Place :=
  if c = '\n' then start
  else if Text.isDigit c && p != inside then number
  else inside

/-- The place behind the character that was read last. -/
def after (before : Option Char) : Place := if Text.atLineStart before then start else inside

end Place

/-- The glyphs of a text that begins at a place. -/
def glyphsFrom : Place → Text → List Glyph
  | _, [] => []
  | p, c :: cs => ⟨c, p.guards c⟩ :: glyphsFrom (p.next c) cs

/-- **The glyphs of a text.** -/
def glyphs (t : Text) : List Glyph := glyphsFrom .start t

theorem glyphsFrom_char : ∀ (t : Text) (p : Place), (glyphsFrom p t).map Glyph.char = t := by
  intro t
  induction t with
  | nil => intro p; rfl
  | cons c cs ih =>
    intro p
    rw [glyphsFrom, List.map_cons, ih]

/-! ## Escaping in one pass -/

/-- Is the character an emphasis marker that is escaped in this text? -/
def isStarred (plain : Text) (c : Char) : Bool :=
  (['*', '_', '\x60'] : Text).contains c && !Text.contains [c, c] plain

/-- A glyph with its backslash if it needs one. -/
def spellGlyph (plain : Text) (g : Glyph) : Text :=
  if g.char = '\\' ∨ isStarred plain g.char = true ∨ g.guarded = true then ['\\', g.char]
  else [g.char]

theorem escapeMarker_eq (plain : Text) (m : Char) (t : Text) :
    escapeMarker plain m t =
      t.flatMap fun d => if d = m ∧ Text.contains [m, m] plain = false then ['\\', m] else [d] := by
  unfold escapeMarker Text.replaceChar
  cases Text.contains [m, m] plain with
  | true =>
    simp only [if_true, Bool.true_eq_false, and_false, if_false]
    exact (List.flatMap_singleton' t).symm
  | false => simp

/-- The passes for the backslash and the emphasis markers, as one. -/
theorem escapeMarkers_eq (plain : Text) :
    escapeMarker plain '\x60' (escapeMarker plain '_' (escapeMarker plain '*'
      (Text.replaceChar '\\' ['\\', '\\'] plain))) =
      plain.flatMap fun c => spellGlyph plain ⟨c, false⟩ := by
  rw [escapeMarker_eq, escapeMarker_eq, escapeMarker_eq]
  unfold Text.replaceChar
  rw [List.flatMap_assoc, List.flatMap_assoc, List.flatMap_assoc]
  apply List.flatMap_congr
  intro c _
  unfold spellGlyph isStarred
  by_cases h₁ : c = '\\'
  · subst h₁
    simp
  by_cases h₂ : c = '*'
  · subst h₂
    by_cases h : Text.contains ['*', '*'] plain <;> simp [h]
  by_cases h₃ : c = '_'
  · subst h₃
    by_cases h : Text.contains ['_', '_'] plain <;> simp [h]
  by_cases h₄ : c = '\x60'
  · subst h₄
    by_cases h : Text.contains ['\x60', '\x60'] plain <;> simp [h]
  simp [h₁, h₂, h₃, h₄]

/-- A digit is no markup, so it is never escaped. -/
theorem digit_plain {c : Char} (h : Text.isDigit c = true) :
    c ≠ '\\' ∧ c ≠ '.' ∧ c ≠ '\n' ∧ isBlockMarker c = false ∧
      (['*', '_', '\x60'] : Text).contains c = false := by
  have hall : (['\\', '.', '\n', '#', '>', '+', '-', '*', '_', '\x60'] : Text).all
      (fun d => !Text.isDigit d) = true := by decide
  have hne : ∀ d ∈ (['\\', '.', '\n', '#', '>', '+', '-', '*', '_', '\x60'] : Text), c ≠ d := by
    rintro d hd rfl
    have hno := List.all_eq_true.1 hall c hd
    rw [h] at hno
    cases hno
  refine ⟨hne _ (by decide), hne _ (by decide), hne _ (by decide), ?_, ?_⟩
  · unfold isBlockMarker
    simp [hne '#' (by decide), hne '>' (by decide), hne '+' (by decide), hne '-' (by decide),
      hne '*' (by decide)]
  · simp [hne '*' (by decide), hne '_' (by decide), hne '\x60' (by decide)]

theorem spellGlyph_digit (plain : Text) {c : Char} (h : Text.isDigit c = true) :
    spellGlyph plain ⟨c, false⟩ = [c] := by
  obtain ⟨h₁, -, -, -, h₂⟩ := digit_plain h
  unfold spellGlyph isStarred
  rw [h₂]
  simp [h₁]

theorem spellGlyph_stop (plain : Text) : spellGlyph plain ⟨'.', false⟩ = ['.'] := by
  unfold spellGlyph isStarred
  simp

/-- A glyph is spelled as its character, with or without a backslash before it. -/
theorem spellGlyph_cases (plain : Text) (g : Glyph) :
    spellGlyph plain g = [g.char] ∨ spellGlyph plain g = ['\\', g.char] := by
  unfold spellGlyph
  split
  · exact Or.inr rfl
  · exact Or.inl rfl

/-- The glyphs behind a character, with the block markers guarded but no full stop. -/
def markedFrom : Option Char → Text → List Glyph
  | _, [] => []
  | before, c :: cs =>
    ⟨c, Text.atLineStart before && isBlockMarker c⟩ :: markedFrom (some c) cs

/-- The spelling of some glyphs in a text. -/
def spellAll (plain : Text) (gs : List Glyph) : Text := gs.flatMap (spellGlyph plain)

theorem spellAll_cons (plain : Text) (g : Glyph) (gs : List Glyph) :
    spellAll plain (g :: gs) = spellGlyph plain g ++ spellAll plain gs := rfl

theorem spellAll_append (plain : Text) (gs hs : List Glyph) :
    spellAll plain (gs ++ hs) = spellAll plain gs ++ spellAll plain hs := List.flatMap_append

/-! ### Block markers -/

theorem findBlockMarker_step (before : Option Char) (c : Char) (cs : Text) :
    Text.replaceAllFrom findBlockMarker before 0 (c :: cs) =
      (if Text.atLineStart before && isBlockMarker c then ['\\', c] else [c]) ++
        Text.replaceAllFrom findBlockMarker (some c) 0 cs := by
  cases h : Text.atLineStart before && isBlockMarker c with
  | true =>
    have hfind : findBlockMarker before (c :: cs) = some (['\\', c], cs) := if_pos h
    rw [Text.replaceAllFrom_of_some hfind, Nat.sub_self]
    rfl
  | false =>
    have hfind : findBlockMarker before (c :: cs) = none :=
      if_neg (by rw [h]; exact Bool.false_ne_true)
    rw [Text.replaceAllFrom_of_none hfind]
    rfl

theorem replaceBlockMarkers (plain : Text) : ∀ (t : Text) (before : Option Char),
    Text.replaceAllFrom findBlockMarker before 0 (t.flatMap fun c => spellGlyph plain ⟨c, false⟩) =
      spellAll plain (markedFrom before t) := by
  intro t
  induction t with
  | nil => intro before; rfl
  | cons c cs ih =>
    intro before
    rw [markedFrom, spellAll_cons, ← ih (some c), List.flatMap_cons]
    by_cases h : c = '\\' ∨ isStarred plain c = true
    · -- there is a backslash already, and no second one is put before it
      have hfalse : spellGlyph plain ⟨c, false⟩ = ['\\', c] := by
        unfold spellGlyph
        rw [if_pos (h.imp_right Or.inl)]
      have hguard : ∀ b, spellGlyph plain ⟨c, b⟩ = ['\\', c] := by
        intro b
        unfold spellGlyph
        rw [if_pos (h.imp_right Or.inl)]
      have hslash : isBlockMarker '\\' = false := by decide
      have hin : Text.atLineStart (some '\\') = false := by decide
      rw [hfalse, hguard, List.cons_append, findBlockMarker_step, List.cons_append,
        findBlockMarker_step, List.nil_append, hslash, hin]
      simp
    · have hplain : ∀ b, spellGlyph plain ⟨c, b⟩ = if b then ['\\', c] else [c] := by
        intro b
        unfold spellGlyph
        rw [not_or] at h
        simp [h.1, h.2]
      rw [hplain, hplain, if_neg Bool.false_ne_true, List.singleton_append, findBlockMarker_step]

/-! ### List numbers -/

/-- Behind digits a full stop is awaited; where none comes, nothing is guarded. -/
theorem glyphsFrom_number : ∀ {t : Text}, (t.dropWhile Text.isDigit).head? ≠ some '.' →
    glyphsFrom .number t = glyphsFrom .inside t := by
  intro t
  induction t with
  | nil => intro _; rfl
  | cons c cs ih =>
    intro h
    by_cases hc : Text.isDigit c = true
    · rw [List.dropWhile_cons_of_pos hc] at h
      obtain ⟨-, hstop, hfeed, -, -⟩ := digit_plain hc
      simp only [glyphsFrom, Place.guards, Place.next, hfeed, hc, if_false, Bool.true_and]
      simp [ih h, hstop]
    · rw [List.dropWhile_cons_of_neg hc] at h
      have hstop : c ≠ '.' := fun e => h (by rw [e]; rfl)
      simp [glyphsFrom, Place.guards, Place.next, hc, hstop]

theorem glyphsFrom_digits (rest : Text) : ∀ {ds : Text}, (∀ d ∈ ds, Text.isDigit d = true) →
    glyphsFrom .number (ds ++ '.' :: rest) =
      ds.map (⟨·, false⟩) ++ ⟨'.', true⟩ :: glyphsFrom .inside rest := by
  have hdot : Text.isDigit '.' = false := by decide
  intro ds
  induction ds with
  | nil => intro _; simp [glyphsFrom, Place.guards, Place.next, hdot]
  | cons d ds ih =>
    intro h
    have hd := h d List.mem_cons_self
    obtain ⟨-, hstop, hfeed, -, -⟩ := digit_plain hd
    have hplace : Place.next .number d = .number := by simp [Place.next, hfeed, hd]
    rw [List.cons_append, glyphsFrom, hplace, ih fun e he => h e (List.mem_cons_of_mem _ he)]
    simp [Place.guards, hstop]

theorem spellAll_markedFrom_digits (plain rest : Text) : ∀ {ds : Text} (before : Option Char),
    (∀ d ∈ ds, Text.isDigit d = true) →
    spellAll plain (markedFrom before (ds ++ '.' :: rest)) =
      ds ++ '.' :: spellAll plain (markedFrom (some '.') rest) := by
  have hdot : isBlockMarker '.' = false := by decide
  intro ds
  induction ds with
  | nil =>
    intro before _
    rw [List.nil_append, markedFrom, spellAll_cons, hdot, Bool.and_false, spellGlyph_stop]
    rfl
  | cons d ds ih =>
    intro before h
    have hd := h d List.mem_cons_self
    obtain ⟨-, -, -, hmark, -⟩ := digit_plain hd
    rw [List.cons_append, markedFrom, spellAll_cons, hmark, Bool.and_false,
      spellGlyph_digit plain hd, ih _ fun e he => h e (List.mem_cons_of_mem _ he)]
    rfl

theorem spellAll_digits (plain : Text) : ∀ {ds : Text}, (∀ d ∈ ds, Text.isDigit d = true) →
    spellAll plain (ds.map (⟨·, false⟩)) = ds := by
  intro ds
  induction ds with
  | nil => intro _; rfl
  | cons d ds ih =>
    intro h
    rw [List.map_cons, spellAll_cons, spellGlyph_digit plain (h d List.mem_cons_self),
      ih fun e he => h e (List.mem_cons_of_mem _ he)]
    rfl

/-- A full stop behind digits is one of the plain text. -/
theorem head_dropWhile_markedFrom (plain : Text) : ∀ {t : Text} {before : Option Char},
    ((spellAll plain (markedFrom before t)).dropWhile Text.isDigit).head? = some '.' →
    (t.dropWhile Text.isDigit).head? = some '.' := by
  have hslash : Text.isDigit '\\' = false := by decide
  intro t
  induction t with
  | nil => intro before h; exact h
  | cons c cs ih =>
    intro before h
    rw [markedFrom, spellAll_cons] at h
    rcases spellGlyph_cases plain ⟨c, Text.atLineStart before && isBlockMarker c⟩ with hs | hs
    · rw [hs, List.singleton_append] at h
      by_cases hc : Text.isDigit c = true
      · rw [List.dropWhile_cons_of_pos hc] at h ⊢
        exact ih h
      · rw [List.dropWhile_cons_of_neg hc] at h ⊢
        exact h
    · rw [hs, List.cons_append, List.dropWhile_cons_of_neg (by rw [hslash]; decide)] at h
      cases h

theorem findListNumber_match {before : Option Char} (hb : Text.atLineStart before = true)
    {d : Char} {ds rest : Text} (h : ∀ e ∈ d :: ds, Text.isDigit e = true) :
    findListNumber before (d :: (ds ++ '.' :: rest)) =
      some (d :: (ds ++ ['\\', '.']), rest) := by
  have hdot : Text.isDigit '.' = false := by decide
  have htake : (d :: (ds ++ '.' :: rest)).takeWhile Text.isDigit = d :: ds := by
    rw [← List.cons_append, List.takeWhile_append_of_pos h,
      List.takeWhile_cons_of_neg (by rw [hdot]; decide), List.append_nil]
  have hdrop : (d :: (ds ++ '.' :: rest)).dropWhile Text.isDigit = '.' :: rest := by
    rw [← List.cons_append, List.dropWhile_append_of_pos h,
      List.dropWhile_cons_of_neg (by rw [hdot]; decide)]
  unfold findListNumber
  simp only
  rw [if_pos hb, htake, hdrop]
  rfl

theorem findListNumber_none {before : Option Char} {c : Char} {cs : Text}
    (h : Text.atLineStart before = true → Text.isDigit c = true →
      (cs.dropWhile Text.isDigit).head? ≠ some '.') :
    findListNumber before (c :: cs) = none := by
  unfold findListNumber
  simp only
  split
  · rename_i hb
    split
    · rename_i d ds rest htake hdrop
      have hc : Text.isDigit c = true := by
        by_contra hc
        rw [List.takeWhile_cons_of_neg hc] at htake
        cases htake
      rw [List.dropWhile_cons_of_pos hc] at hdrop
      refine absurd ?_ (h hb hc)
      rw [hdrop]
      rfl
    · rfl
  · rfl

/-- A number with its full stop is replaced as a whole. -/
theorem findListNumber_number {before : Option Char} (hb : Text.atLineStart before = true)
    {d : Char} {ds rest : Text} (h : ∀ e ∈ d :: ds, Text.isDigit e = true) :
    Text.replaceAllFrom findListNumber before 0 (d :: (ds ++ '.' :: rest)) =
      d :: (ds ++ '\\' :: '.' :: Text.replaceAllFrom findListNumber (some '.') 0 rest) := by
  have hlength : (ds ++ '.' :: rest).length - rest.length = ds.length + 1 := by
    rw [List.length_append, List.length_cons]
    omega
  rw [Text.replaceAllFrom_of_some (findListNumber_match hb h), hlength, Text.replaceAllFrom_skip]
  simp

/-- Elsewhere a glyph stays as it is spelled. -/
theorem findListNumber_step (plain : Text) {before : Option Char} {g : Glyph} {cs : Text}
    (h : Text.atLineStart before = true → Text.isDigit g.char = true →
      (cs.dropWhile Text.isDigit).head? ≠ some '.') :
    Text.replaceAllFrom findListNumber before 0 (spellGlyph plain g ++ cs) =
      spellGlyph plain g ++ Text.replaceAllFrom findListNumber (some g.char) 0 cs := by
  have hslash : Text.isDigit '\\' = false := by decide
  rcases spellGlyph_cases plain g with hg | hg
  · rw [hg, List.singleton_append, Text.replaceAllFrom_of_none (findListNumber_none h)]
    rfl
  · rw [hg, List.cons_append, Text.replaceAllFrom_of_none (findListNumber_none fun _ hd => ?_),
      List.singleton_append, Text.replaceAllFrom_of_none (findListNumber_none fun hb => ?_)]
    · rfl
    · cases hb
    · rw [hslash] at hd
      cases hd

/-- Unless a number with its full stop starts here, the next place is the one that the character
alone decides. -/
theorem glyphsFrom_next {before : Option Char} {c : Char} {cs : Text}
    (h : Text.atLineStart before = true → Text.isDigit c = true →
      (cs.dropWhile Text.isDigit).head? ≠ some '.') :
    glyphsFrom ((Place.after before).next c) cs = glyphsFrom (Place.after (some c)) cs := by
  have hafter : Place.after (some c) = if c = '\n' then .start else .inside := by
    unfold Place.after Text.atLineStart
    simp
  by_cases hnumber : (Text.isDigit c && Place.after before != .inside) = true
  · obtain ⟨hc, hb⟩ := Bool.and_eq_true_iff.1 hnumber
    obtain ⟨-, -, hfeed, -, -⟩ := digit_plain hc
    have hb' : Text.atLineStart before = true := by
      by_contra hno
      unfold Place.after at hb
      rw [if_neg hno] at hb
      cases hb
    rw [hafter, if_neg hfeed]
    unfold Place.next
    rw [if_neg hfeed, if_pos hnumber]
    exact glyphsFrom_number (h hb' hc)
  · rw [hafter]
    unfold Place.next
    rw [if_neg hnumber]

/-- Digits at the start of a text that a full stop follows. -/
theorem exists_number {c : Char} {cs : Text} (hc : Text.isDigit c = true)
    (h : (cs.dropWhile Text.isDigit).head? = some '.') :
    ∃ ds rest, cs = ds ++ '.' :: rest ∧ ∀ e ∈ c :: ds, Text.isDigit e = true := by
  obtain ⟨rest, hrest⟩ := List.head?_eq_some_iff.1 h
  refine ⟨cs.takeWhile Text.isDigit, rest, ?_, ?_⟩
  · rw [← hrest, List.takeWhile_append_dropWhile]
  · intro e he
    rcases List.mem_cons.1 he with rfl | he
    · exact hc
    · exact List.mem_takeWhile_imp he

/-- A number at the start of a line is spelled with a backslash before its full stop. -/
theorem spellAll_number (plain : Text) {before : Option Char}
    (hb : Text.atLineStart before = true) {c : Char} {ds : Text}
    (h : ∀ e ∈ c :: ds, Text.isDigit e = true) (rest : Text) :
    spellAll plain (glyphsFrom (Place.after before) (c :: (ds ++ '.' :: rest))) =
      c :: (ds ++ '\\' :: '.' :: spellAll plain (glyphsFrom .inside rest)) := by
  have hc := h c List.mem_cons_self
  have hds : ∀ e ∈ ds, Text.isDigit e = true := fun e he => h e (List.mem_cons_of_mem _ he)
  obtain ⟨-, -, hfeed, hmark, -⟩ := digit_plain hc
  have hplace : (Place.after before).next c = .number := by
    unfold Place.after Place.next
    simp [hb, hfeed, hc]
  have hguard : (Place.after before).guards c = false := by
    unfold Place.after
    rw [if_pos hb]
    exact hmark
  have hstop : spellGlyph plain ⟨'.', true⟩ = ['\\', '.'] := by simp [spellGlyph]
  rw [glyphsFrom, hplace, hguard, glyphsFrom_digits rest hds, spellAll_cons,
    spellGlyph_digit plain hc, spellAll_append, spellAll_digits plain hds, spellAll_cons, hstop]
  rfl

/-- **The pass for list numbers** guards the full stops that the other passes have left. -/
theorem replaceListNumbers (plain : Text) : ∀ (k : Nat) (t : Text) (before : Option Char),
    t.length ≤ k →
    Text.replaceAllFrom findListNumber before 0 (spellAll plain (markedFrom before t)) =
      spellAll plain (glyphsFrom (Place.after before) t) := by
  -- a match takes several characters at once, so the induction is on the length
  intro k
  induction k with
  | zero =>
    intro t before h
    rw [List.length_eq_zero_iff.1 (Nat.le_zero.1 h)]
    rfl
  | succ k ih =>
    intro t before hk
    cases t with
    | nil => rfl
    | cons c cs =>
      rw [List.length_cons] at hk
      by_cases hnumber : Text.atLineStart before = true ∧ Text.isDigit c = true ∧
          (cs.dropWhile Text.isDigit).head? = some '.'
      · obtain ⟨hb, hc, hhead⟩ := hnumber
        obtain ⟨ds, rest, rfl, hdigits⟩ := exists_number hc hhead
        have hlength : rest.length ≤ k := by
          rw [List.length_append, List.length_cons] at hk
          omega
        rw [← List.cons_append, spellAll_markedFrom_digits plain rest before hdigits,
          List.cons_append, List.cons_append, findListNumber_number hb hdigits,
          ih rest _ hlength, spellAll_number plain hb hdigits]
        rfl
      · have hno : Text.atLineStart before = true → Text.isDigit c = true →
            (cs.dropWhile Text.isDigit).head? ≠ some '.' :=
          fun hb hc hhead => hnumber ⟨hb, hc, hhead⟩
        have hguards : (Place.after before).guards c =
            (Text.atLineStart before && isBlockMarker c) := by
          unfold Place.after
          cases Text.atLineStart before <;> rfl
        rw [markedFrom, spellAll_cons, findListNumber_step plain fun hb hc hhead =>
          hno hb hc (head_dropWhile_markedFrom plain hhead), ih cs _ (by omega), glyphsFrom,
          spellAll_cons, hguards, glyphsFrom_next hno]

/-- **Escaping in one pass**: every glyph is spelled by itself. -/
theorem escape_eq (plain : Text) : escape plain = spellAll plain (glyphs plain) := by
  unfold escape Text.replaceAll
  simp only
  rw [escapeMarkers_eq, replaceBlockMarkers, replaceListNumbers plain _ _ _ le_rfl]
  rfl

end HtmlMarkdown.Markdown
