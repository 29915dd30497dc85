import HtmlMarkdown.Proofs.Convert.PlainLayout

/-!
# What of a paragraph comes from its texts

A conversion puts delimiters around the text of a paragraph and spaces between its elements. A
`Mark` is a glyph of the output that knows which of the two it belongs to. `paragraphMarks` lays a
paragraph out in marks, as a conversion does; without what was put in, but with all blank space,
they make the text that is `kept`.

* `convert_paragraph_spells`: **a paragraph of texts and emphasized texts is converted, and the
  output spells the glyphs of its marks.**
* `kept_wrapMarks`: of the text between two delimiters all but the blank space at its ends is kept.
-/

namespace HtmlMarkdown

open Document

/-- The tags of emphasis. -/
def Tag.emphasis : List String := ["b", "strong", "em", "i"]

namespace Node

/-- The node is a text, with nothing below it. -/
structure IsBareText (n : Node) : Prop where
  isText : n.isText = true
  children : n.children = []

/-- The node is an element for emphasis with texts only. -/
structure IsEmphasized (n : Node) : Prop where
  tag_mem : n.tag ∈ Tag.emphasis
  children : ∀ c ∈ n.children, c.IsBareText

/-- **The node is a paragraph of texts and emphasized texts.** -/
structure IsParagraph (n : Node) : Prop where
  tag_eq : n.tag = "p"
  children : ∀ c ∈ n.children, c.IsBareText ∨ c.IsEmphasized

instance (n : Node) : Decidable n.IsBareText :=
  decidable_of_iff (n.isText = true ∧ n.children.isEmpty = true)
    ⟨fun h => ⟨h.1, List.isEmpty_iff.1 h.2⟩, fun h => ⟨h.1, List.isEmpty_iff.2 h.2⟩⟩

instance (n : Node) : Decidable n.IsEmphasized :=
  decidable_of_iff (n.tag ∈ Tag.emphasis ∧ ∀ c ∈ n.children, c.IsBareText)
    ⟨fun h => ⟨h.1, h.2⟩, fun h => ⟨h.1, h.2⟩⟩

instance (n : Node) : Decidable n.IsParagraph :=
  decidable_of_iff (n.tag = "p" ∧ ∀ c ∈ n.children, c.IsBareText ∨ c.IsEmphasized)
    ⟨fun h => ⟨h.1, h.2⟩, fun h => ⟨h.1, h.2⟩⟩

variable {n p : Node}

theorem IsBareText.data (h : n.IsBareText) : ∃ t, n.data = .text t := by
  have hn := h.isText
  unfold Node.isText at hn
  split at hn
  · exact ⟨_, by assumption⟩
  · cases hn

theorem IsBareText.isElement (h : n.IsBareText) : n.isElement = false := by
  obtain ⟨t, hd⟩ := h.data
  rw [Node.isElement, hd]

theorem IsBareText.isInline (h : n.IsBareText) : Convert.isInline n = false := by
  rw [Convert.isInline, h.isElement, Bool.false_and]

theorem IsEmphasized.isElement (h : n.IsEmphasized) : n.isElement = true := by
  have hne : ∀ tag ∈ Tag.emphasis, tag ≠ "" := by decide
  exact Node.isElement_of_tag rfl (hne _ h.tag_mem)

theorem IsEmphasized.isOpen (h : n.IsEmphasized) : n.IsOpen := by
  have hopen : ∀ tag ∈ Tag.emphasis, Tag.isIgnored tag = false := by decide
  exact ⟨h.isElement, hopen _ h.tag_mem⟩

theorem IsEmphasized.isInline (h : n.IsEmphasized) : Convert.isInline n = true := by
  have hinline : ∀ tag ∈ Tag.emphasis, Tag.isInline tag = true := by decide
  rw [Convert.isInline, h.isElement, hinline _ h.tag_mem, Bool.true_and]

theorem IsParagraph.isOpen (h : n.IsParagraph) : n.IsOpen := by
  refine ⟨Node.isElement_of_tag h.tag_eq (by decide), ?_⟩
  rw [h.tag_eq]
  decide

end Node

namespace Convert

open Markdown Text

/-! ## Marks -/

/-- A glyph of the output; `own` if it comes from a text of the document, and not from what a
conversion puts around texts or between them. -/
structure Mark where
  glyph : Glyph
  own : Bool
  deriving DecidableEq, Repr

/-- Is the character blank? -/
def Mark.isBlank (m : Mark) : Bool := m.glyph.isBlank

/-- The marks of a text. -/
def ownMarks (t : Text) : List Mark := (Markdown.glyphs t).map (⟨·, true⟩)

/-- The marks of what a conversion puts in. -/
def addedMarks (t : Text) : List Mark := t.map fun c => ⟨⟨c, false⟩, false⟩

/-- Marks without the blank ones on both sides. -/
def trimMarks (ms : List Mark) : List Mark :=
  (ms.dropWhile Mark.isBlank).rdropWhile Mark.isBlank

/-- Trimmed marks between two delimiters. -/
def wrapMarks (opening closing : Text) (ms : List Mark) : List Mark :=
  let t := trimMarks ms
  if t.isEmpty then [] else addedMarks opening ++ t ++ addedMarks closing

/-- **The text without what was put in**: the characters that come from texts, and all blank space
between them. -/
def kept (ms : List Mark) : Text :=
  (ms.filter fun m => m.own || m.isBlank).map fun m => m.glyph.char

/-- The marks of an element's children so far, and whether the last one was inline. -/
structure MarkRow where
  marks : List Mark := []
  afterInline : Bool := false

namespace MarkRow

/-- The space that is put between the row and what comes next, if any. -/
def gap (r : MarkRow) (inline : Bool) (ms : List Mark) : Text :=
  if inline && r.afterInline && !r.marks.getLast?.any Mark.isBlank && !ms.head?.any Mark.isBlank
  then [' '] else []

/-- Put a child's marks behind the others, with a space between two inline elements. -/
def add (r : MarkRow) (inline : Bool) (ms : List Mark) : MarkRow :=
  if ms.isEmpty then r
  else { marks := r.marks ++ addedMarks (r.gap inline ms) ++ ms, afterInline := inline }

/-- The row without knowing where its glyphs come from. -/
def laid (r : MarkRow) : Laid := { glyphs := r.marks.map Mark.glyph, afterInline := r.afterInline }

end MarkRow

/-- Put the marks of nodes one after the other, behind what is there already. -/
def markOnto (mark : Node → List Mark) (r : MarkRow) (nodes : List Node) : MarkRow :=
  nodes.foldl (fun r c => r.add (isInline c) (mark c)) r

/-- The marks of a text node. -/
def textMarks (n : Node) : List Mark :=
  match n.data with
  | .text t => ownMarks (flowed n t)
  | _ => []

/-- What stands on both sides of emphasized text. -/
def delimiter (tag : String) : Text := if tag ∈ ["strong", "b"] then "**" else "*"

/-- The marks of a text or an emphasized text. -/
def phraseMarks (n : Node) : List Mark :=
  if n.isElement then
    wrapMarks (delimiter n.tag) (delimiter n.tag) (markOnto textMarks {} n.children).marks
  else textMarks n

/-- **The marks of a paragraph.** -/
def paragraphMarks (p : Node) : List Mark :=
  wrapMarks ['\n'] ['\n', '\n'] (markOnto phraseMarks {} p.children).marks

variable {ms ns : List Mark} {t : Text} {r : MarkRow} {n p c : Node} {mark : Node → List Mark}

/-! ## The output spells the marks -/

theorem ownMarks_glyph (t : Text) : (ownMarks t).map Mark.glyph = Markdown.glyphs t := by
  rw [ownMarks, List.map_map]
  exact List.map_id _

theorem addedMarks_glyph (t : Text) : (addedMarks t).map Mark.glyph = t.map (⟨·, false⟩) := by
  rw [addedMarks, List.map_map]
  rfl

theorem trimMarks_glyph (ms : List Mark) :
    (trimMarks ms).map Mark.glyph = trimGlyphs (ms.map Mark.glyph) := by
  have hsame : Glyph.isBlank ∘ Mark.glyph = Mark.isBlank := rfl
  unfold trimMarks trimGlyphs List.rdropWhile
  rw [List.dropWhile_map, ← List.map_reverse, List.dropWhile_map, hsame, List.map_reverse]

theorem wrapMarks_glyph (opening closing : Text) (ms : List Mark) :
    (wrapMarks opening closing ms).map Mark.glyph =
      wrapGlyphs opening closing (ms.map Mark.glyph) := by
  unfold wrapMarks wrapGlyphs
  simp only
  rw [← trimMarks_glyph, List.isEmpty_map]
  split
  · rfl
  · rw [List.map_append, List.map_append, addedMarks_glyph, addedMarks_glyph]

theorem MarkRow.add_laid (r : MarkRow) (inline : Bool) (ms : List Mark) :
    (r.add inline ms).laid = r.laid.add inline (ms.map Mark.glyph) := by
  have hlast : (r.marks.map Mark.glyph).getLast?.any Glyph.isBlank =
      r.marks.getLast?.any Mark.isBlank := by
    rw [List.getLast?_map, Option.any_map]
    rfl
  have hhead : (ms.map Mark.glyph).head?.any Glyph.isBlank = ms.head?.any Mark.isBlank := by
    rw [List.head?_map, Option.any_map]
    rfl
  unfold MarkRow.add Laid.add MarkRow.laid MarkRow.gap
  simp only [List.isEmpty_map, hlast, hhead]
  split
  · rfl
  · simp only [List.map_append, addedMarks_glyph]
    split <;> rfl

/-- A row of nodes that are rendered as their marks is rendered as the marks of the row. -/
theorem renderOnto_marks {levels : Nat} {cs : List Node}
    (h : ∀ c ∈ cs, ∃ out, render Setup.plain levels c = .ok out ∧
      Spells ((mark c).map Mark.glyph) out) :
    ∀ {r : MarkRow} {j : Joined}, SpellsJoined r.laid j →
      ∃ j', renderOnto Setup.plain levels j cs = .ok j' ∧
        SpellsJoined (markOnto mark r cs).laid j' := by
  induction cs with
  | nil => intro r j hj; exact ⟨j, rfl, hj⟩
  | cons c cs ih =>
    intro r j hj
    obtain ⟨out, hout, hspells⟩ := h c List.mem_cons_self
    rw [renderOnto_cons_ok hout]
    refine ih (fun c' hc' => h c' (List.mem_cons_of_mem _ hc')) ?_
    rw [MarkRow.add_laid]
    exact hj.add rfl hspells _

/-- An element with delimiters around what is in it. -/
theorem render_wrapMarks {levels : Nat} {opening closing : Text} (hopen : n.IsOpen)
    (ho : '\\' ∉ opening) (hc : '\\' ∉ closing)
    (hfinish : ∀ content, Setup.plain.finish (Setup.plain.ruleFor n.tag) n content =
      wrap opening closing content)
    (h : ∀ c ∈ n.children, ∃ out, render Setup.plain levels c = .ok out ∧
      Spells ((mark c).map Mark.glyph) out) :
    ∃ out, render Setup.plain (levels + 1) n = .ok out ∧
      Spells ((wrapMarks opening closing (markOnto mark {} n.children).marks).map Mark.glyph) out :=
    by
  obtain ⟨j, hj, hspells⟩ := renderOnto_marks h (r := {}) (j := {}) ⟨Spells.nil, rfl⟩
  refine ⟨wrap opening closing j.out, ?_, ?_⟩
  · rw [render_element hopen, hj, Except.map, hfinish]
  · rw [wrapMarks_glyph]
    exact hspells.out.wrap ho hc

theorem render_textMarks (levels : Nat) (h : n.IsBareText) :
    ∃ out, render Setup.plain levels n = .ok out ∧ Spells ((textMarks n).map Mark.glyph) out := by
  obtain ⟨t, hd⟩ := h.data
  refine ⟨_, render_text hd, ?_⟩
  rw [textMarks, hd]
  simp only
  rw [ownMarks_glyph]
  exact text_spells rfl n t

/-- Emphasis puts delimiters around trimmed content. -/
theorem finish_emphasis {tag : String} (h : tag ∈ Tag.emphasis) (n : Node) (content : Text) :
    Setup.plain.finish (Setup.plain.ruleFor tag) n content =
      wrap (delimiter tag) (delimiter tag) content := by
  rw [Setup.ruleFor_plain, Rule.General.find?_eq]
  simp only [Tag.emphasis, List.mem_cons, List.not_mem_nil, or_false] at h
  rcases h with rfl | rfl | rfl | rfl <;> rfl

theorem render_phraseMarks (levels : Nat) (h : n.IsBareText ∨ n.IsEmphasized) :
    ∃ out, render Setup.plain (levels + 1) n = .ok out ∧
      Spells ((phraseMarks n).map Mark.glyph) out := by
  rcases h with h | h
  · rw [phraseMarks, if_neg (by rw [h.isElement]; exact Bool.false_ne_true)]
    exact render_textMarks _ h
  · have hdelimiter : ∀ tag ∈ Tag.emphasis, '\\' ∉ delimiter tag := by decide
    rw [phraseMarks, if_pos h.isElement]
    exact render_wrapMarks h.isOpen (hdelimiter _ h.tag_mem) (hdelimiter _ h.tag_mem)
      (finish_emphasis h.tag_mem n) fun c hc => render_textMarks levels (h.children c hc)

/-- **A paragraph is converted, and the output spells its marks.** -/
theorem convert_paragraph_spells (hp : p.IsParagraph) :
    ∃ out, Setup.plain.convert p = .ok out ∧ Spells ((paragraphMarks p).map Mark.glyph) out := by
  rw [convert_eq_render, maxLevels]
  refine render_wrapMarks hp.isOpen (by decide) (by decide) (fun content => ?_)
    fun c hc => render_phraseMarks 510 (hp.children c hc)
  rw [hp.tag_eq, Setup.ruleFor_plain, Rule.General.find?_paragraph, Setup.finish_paragraph]
  rfl

/-! ## What is kept -/

theorem kept_append (ms ns : List Mark) : kept (ms ++ ns) = kept ms ++ kept ns := by
  unfold kept
  rw [List.filter_append, List.map_append]

theorem kept_ownMarks (t : Text) : kept (ownMarks t) = t := by
  have hown : (ownMarks t).filter (fun m => m.own || m.isBlank) = ownMarks t := by
    rw [List.filter_eq_self]
    intro m hm
    obtain ⟨g, -, rfl⟩ := List.mem_map.1 hm
    rfl
  have hchar : (fun m : Mark => m.glyph.char) = Glyph.char ∘ Mark.glyph := rfl
  rw [kept, hown, hchar, ← List.map_map, ownMarks_glyph]
  exact glyphsFrom_char t .start

/-- Delimiters are not kept. -/
theorem kept_addedMarks_visible (h : visible t = t) : kept (addedMarks t) = [] := by
  unfold kept
  rw [List.map_eq_nil_iff, List.filter_eq_nil_iff]
  intro m hm
  obtain ⟨c, hc, rfl⟩ := List.mem_map.1 hm
  rw [← h] at hc
  simpa [Mark.isBlank, Glyph.isBlank] using List.of_mem_filter hc

/-- Of blank marks only blank space is kept. -/
theorem isBlankText_kept (h : ∀ m ∈ ms, m.isBlank = true) : isBlankText (kept ms) = true := by
  unfold kept isBlankText
  rw [List.all_map, List.all_eq_true]
  exact fun m hm => h m (List.mem_of_mem_filter hm)

theorem kept_of_own (h : ∀ m ∈ ms, m.own = true) :
    kept ms = (ms.map Mark.glyph).map Glyph.char := by
  unfold kept
  rw [List.filter_eq_self.2 (fun m hm => by rw [h m hm, Bool.true_or]), List.map_map]
  rfl

/-- Trimming takes blank marks off at both ends. -/
theorem trimMarks_split (ms : List Mark) :
    ∃ front behind, ms = front ++ trimMarks ms ++ behind ∧
      (∀ m ∈ front, m.isBlank = true) ∧ ∀ m ∈ behind, m.isBlank = true := by
  refine ⟨ms.takeWhile Mark.isBlank, (ms.dropWhile Mark.isBlank).rtakeWhile Mark.isBlank, ?_,
    fun m => List.mem_takeWhile_imp, fun m => List.mem_rtakeWhile_imp⟩
  rw [trimMarks, List.append_assoc, List.rdropWhile_append_rtakeWhile,
    List.takeWhile_append_dropWhile]

/-- What is kept of marks is what is kept of the trimmed ones, with blank space around it. -/
theorem kept_eq_between (ms : List Mark) :
    ∃ v w, isBlankText v = true ∧ isBlankText w = true ∧ kept ms = v ++ kept (trimMarks ms) ++ w := by
  obtain ⟨front, behind, hsplit, hfront, hbehind⟩ := trimMarks_split ms
  refine ⟨kept front, kept behind, isBlankText_kept hfront, isBlankText_kept hbehind, ?_⟩
  conv_lhs => rw [hsplit, kept_append, kept_append]

/-- And so is what is kept between blank delimiters. -/
theorem kept_wrapMarks_eq_between {opening closing : Text} (ho : isBlankText opening = true)
    (hc : isBlankText closing = true) (ms : List Mark) :
    ∃ v w, isBlankText v = true ∧ isBlankText w = true ∧
      kept (wrapMarks opening closing ms) = v ++ kept (trimMarks ms) ++ w := by
  have hadded : ∀ u : Text, isBlankText u = true → isBlankText (kept (addedMarks u)) = true := by
    intro u hu
    refine isBlankText_kept fun m hm => ?_
    obtain ⟨c, hmem, rfl⟩ := List.mem_map.1 hm
    exact List.all_eq_true.1 hu c hmem
  unfold wrapMarks
  simp only
  split
  · rename_i hempty
    rw [List.isEmpty_iff.1 hempty]
    exact ⟨[], [], rfl, rfl, rfl⟩
  · exact ⟨_, _, hadded _ ho, hadded _ hc, by rw [kept_append, kept_append]⟩

theorem trimMarks_own (h : ∀ m ∈ ms, m.own = true) : ∀ m ∈ trimMarks ms, m.own = true := by
  obtain ⟨front, behind, hsplit, -⟩ := trimMarks_split ms
  intro m hm
  refine h m ?_
  rw [hsplit]
  simp [hm]

/-- **Of the text between two delimiters all but the blank space at its ends is kept.** -/
theorem kept_wrapMarks {opening closing : Text} (ho : visible opening = opening)
    (hc : visible closing = closing) (h : ∀ m ∈ ms, m.own = true) :
    kept (wrapMarks opening closing ms) = trim (kept ms) := by
  have htrim : kept (trimMarks ms) = trim (kept ms) := by
    rw [kept_of_own h, kept_of_own (trimMarks_own h), trimMarks_glyph, trimGlyphs_char]
  unfold wrapMarks
  simp only
  rw [← htrim]
  split
  · rename_i hempty
    rw [List.isEmpty_iff.1 hempty]
  · rw [kept_append, kept_append, kept_addedMarks_visible ho, kept_addedMarks_visible hc,
      List.nil_append, List.append_nil]

/-- Where nothing is kept, there are no delimiters either. -/
theorem wrapMarks_eq_nil {opening closing : Text} (h : ∀ m ∈ ms, m.own = true)
    (hkept : trim (kept ms) = []) : wrapMarks opening closing ms = [] := by
  have htrim : trimMarks ms = [] := by
    rwa [kept_of_own h, ← trimGlyphs_char, ← trimMarks_glyph, List.map_eq_nil_iff,
      List.map_eq_nil_iff] at hkept
  unfold wrapMarks
  rw [htrim]
  rfl

end Convert

end HtmlMarkdown
