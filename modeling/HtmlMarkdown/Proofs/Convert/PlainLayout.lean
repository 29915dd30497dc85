import HtmlMarkdown.Proofs.Convert.Content
import HtmlMarkdown.Proofs.Markdown.LineStart

/-!
# Text at the start of a line

Block markers are escaped text by text, before the texts are trimmed and put together; so a marker
is caught only if it stands at the start of its own text. Whether text turns into block structure
is read off the plain layout of a document: `layoutOf` lays its texts out like a conversion does,
but as glyphs, without a backslash.

* `render_spells`: **the rendering of a node spells its layout**, where there are only paragraphs,
  divisions, spans, line breaks, and strong and emphasized text.
* `convert_no_block_iff`: no line of the output opens a block if and only if no line of the layout
  does by its bare characters.
* `convert_opens_heading`: a blank that a paragraph trims hides a marker from its text.
-/

namespace HtmlMarkdown

open Document

/-- The tags of the elements that wrap text: a body, blocks without a marker of their own, and
emphasis. -/
def Tag.wrapping : List String := ["body", "p", "div", "span", "b", "i", "br"]

/-- All elements at and below the node are of those tags. -/
def Node.IsSimple (n : Node) : Prop :=
  ∀ m, n.doc.Above n.id m → (n.doc.node m).isElement = true →
    (n.doc.node m).tag ∈ Tag.wrapping

theorem Node.IsSimple.child {n c : Node} (h : n.IsSimple) (hc : c ∈ n.children) : c.IsSimple := by
  obtain ⟨id, hid, rfl⟩ := List.mem_map.1 hc
  intro m hm he
  exact h m (Relation.ReflTransGen.head (mem_children.1 hid) hm) he

theorem Node.IsSimple.tag_mem {n : Node} (h : n.IsSimple) (he : n.isElement = true) :
    n.tag ∈ Tag.wrapping := h n.id Relation.ReflTransGen.refl he

theorem Tag.isIgnored_wrapping : ∀ tag ∈ Tag.wrapping, Tag.isIgnored tag = false := by decide

/-- An element of a simple node is descended into. -/
theorem Node.IsSimple.isOpen {n : Node} (h : n.IsSimple) (he : n.isElement = true) : n.IsOpen :=
  ⟨he, Tag.isIgnored_wrapping _ (h.tag_mem he)⟩

namespace Convert

open Markdown Text

/-! ## The layout -/

/-- The layouts of an element's children so far, and whether the last one was inline. -/
structure Laid where
  glyphs : List Glyph := []
  afterInline : Bool := false

/-- Put a child's layout behind the others, with a space between two inline elements. -/
def Laid.add (l : Laid) (inline : Bool) (gs : List Glyph) : Laid :=
  if gs.isEmpty then l
  else
    let space := inline && l.afterInline && !l.glyphs.getLast?.any Glyph.isBlank &&
      !gs.head?.any Glyph.isBlank
    { glyphs := l.glyphs ++ (if space then [⟨' ', false⟩] else []) ++ gs, afterInline := inline }

/-- Lay nodes out one after the other, behind what is there already. -/
def layOnto (lay : Node → List Glyph) (l : Laid) (nodes : List Node) : Laid :=
  nodes.foldl (fun l c => l.add (isInline c) (lay c)) l

/-- What an element makes of the layout of its children. -/
def shape (tag : String) (gs : List Glyph) : List Glyph :=
  if tag = "p" then wrapGlyphs "\n" "\n\n" gs
  else if tag = "div" then wrapGlyphs "" "\n" gs
  else if tag = "b" then wrapGlyphs "**" "**" gs
  else if tag = "i" then wrapGlyphs "*" "*" gs
  else if tag = "br" then [⟨'\n', false⟩]
  else gs

/-- **The plain layout of a node**, `levels` levels of elements deep. -/
def layoutOf : (levels : Nat) → Node → List Glyph
  | levels, n =>
    match n.data with
    | .text t => glyphs (flowed n t)
    | .comment _ => []
    | .element tag _ =>
      match levels with
      | 0 => []
      | levels + 1 => shape tag (layOnto (layoutOf levels) {} n.children).glyphs

theorem layoutOf_text {levels : Nat} {n : Node} {t : Text} (h : n.data = .text t) :
    layoutOf levels n = glyphs (flowed n t) := by
  unfold layoutOf
  rw [h]

theorem layoutOf_comment {levels : Nat} {n : Node} {t : Text} (h : n.data = .comment t) :
    layoutOf levels n = [] := by
  unfold layoutOf
  rw [h]

theorem layoutOf_element {levels : Nat} {n : Node} (h : n.IsOpen) :
    layoutOf (levels + 1) n = shape n.tag (layOnto (layoutOf levels) {} n.children).glyphs := by
  obtain ⟨attributes, hd⟩ := h.data
  conv_lhs => unfold layoutOf
  rw [hd]

/-! ## Rendering spells the layout -/

/-- The joined renderings spell the joined layouts. -/
structure SpellsJoined (l : Laid) (j : Joined) : Prop where
  out : Spells l.glyphs j.out
  afterInline : l.afterInline = j.afterInline

theorem SpellsJoined.add {o : Options} (ho : o.preserveWhitespace = false) {l : Laid} {j : Joined}
    (h : SpellsJoined l j) {gs : List Glyph} {r : Text} (hr : Spells gs r) (inline : Bool) :
    SpellsJoined (l.add inline gs) (j.add o inline r) := by
  unfold Laid.add Joined.add
  rw [hr.isEmpty_eq, h.out.endsBlank_eq, hr.startsBlank_eq, h.afterInline, ho, Bool.not_false,
    Bool.and_true]
  have hspace : ∀ b : Bool,
      Spells (if b then [⟨' ', false⟩] else []) (if b then [' '] else []) := by
    intro b
    cases b with
    | true => exact Spells.plain (by decide) Spells.nil
    | false => exact Spells.nil
  split
  · exact h
  · exact ⟨(h.out.append (hspace _)).append hr, rfl⟩

/-- The setup with default options, outside of mail. -/
def Setup.plain : Setup := ⟨.standard, {}, false⟩

theorem Setup.ruleFor_plain (tag : String) :
    Setup.plain.ruleFor tag = Rule.General.rules.find? tag := Setup.ruleFor_standard {} tag

theorem finish_spells {tag : String} (h : tag ∈ Tag.wrapping) {gs : List Glyph} {content : Text}
    (n : Node) (hc : Spells gs content) :
    Spells (shape tag gs) (Setup.plain.finish (Setup.plain.ruleFor tag) n content) := by
  rw [Setup.ruleFor_plain, Rule.General.find?_eq]
  simp only [Tag.wrapping, List.mem_cons, List.not_mem_nil, or_false] at h
  rcases h with rfl | rfl | rfl | rfl | rfl | rfl | rfl
  · exact hc
  · exact hc.wrap (by decide) (by decide)
  · exact hc.wrap (by decide) (by decide)
  · exact hc
  · exact hc.wrap (by decide) (by decide)
  · exact hc.wrap (by decide) (by decide)
  · exact Spells.plain (by decide) Spells.nil

/-- **The rendering of a simple node spells its layout.** -/
theorem render_spells : ∀ (levels : Nat) (n : Node) (out : Text),
    render Setup.plain levels n = .ok out → n.IsSimple → Spells (layoutOf levels n) out := by
  apply render_induction
  · intro levels n out hopen h hn
    rcases Node.not_isOpen hopen with ⟨t, hd⟩ | ⟨t, hd⟩ | ⟨tag, attributes, hd, hi⟩
    · rw [render_text hd] at h
      cases h
      rw [layoutOf_text hd]
      exact text_spells rfl n t
    · rw [render_comment hd] at h
      cases h
      rw [layoutOf_comment hd]
      exact Spells.nil
    · exact absurd (hn.isOpen (by rw [Node.isElement, hd])) hopen
  · intro levels n j hopen ih hrow hn
    have hjoined : SpellsJoined (layOnto (layoutOf levels) {} n.children) j :=
      renderOnto_keeps _ (fun c hc r hr _ _ hl => hl.add rfl (ih c hc r hr (hn.child hc)) _)
        ⟨Spells.nil, rfl⟩ hrow
    rw [layoutOf_element hopen]
    exact finish_spells (hn.tag_mem hopen.1) n hjoined.out

/-! ## Lines that open a block -/

/-- **When text turns into block structure.** Of a simple node, with default options and outside of
mail, no line of the output opens a heading, a quote or a list if and only if no line of the
layout does, read up to the first character that stands as a marker at the start of its own
text. -/
theorem convert_no_block_iff {n : Node} (hn : n.IsSimple) {out : Text}
    (hout : Setup.plain.convert n = .ok out) :
    (∀ line ∈ linesOf out, opensBlock line = false) ↔
      ∀ line ∈ glyphLines (layoutOf maxLevels n), opensBlock (bare line) = false := by
  rw [convert_eq_render] at hout
  exact (render_spells maxLevels n out hout hn).no_block_iff

theorem convert_no_block_iff_paragraph :
    Setup.plain.convert (Document.ofRoot "p" [] [.text "# x"]).root = .ok "\n\\# x\n\n" ∧
      ((∀ line ∈ linesOf "\n\\# x\n\n", opensBlock line = false) ↔
        ∀ line ∈ glyphLines (layoutOf maxLevels (Document.ofRoot "p" [] [.text "# x"]).root),
          opensBlock (bare line) = false) := by
  have hout : Setup.plain.convert (Document.ofRoot "p" [] [.text "# x"]).root =
      .ok "\n\\# x\n\n" := (convert_paragraph rfl {}).trans rfl
  have htag : ((Document.ofRoot "p" [] [.text "# x"]).node 0).tag = "p" := rfl
  refine ⟨hout, convert_no_block_iff (fun m _ he => ?_) hout⟩
  match m with
  | 0 =>
    change ((Document.ofRoot "p" [] [.text "# x"]).node 0).tag ∈ Tag.wrapping
    rw [htag]
    decide
  | 1 => cases he
  | m + 2 => cases he

/-- A paragraph with one text in a span. -/
def spanned (t : Text) : Document := Document.ofRoot "p" [] [.element "span" [] [.text t]]

theorem convert_spanned (t : Text) :
    Setup.plain.convert (spanned t).root = .ok (separated (text ((spanned t).node 2) t {})) := by
  have htag : (spanned t).root.tag = "p" := rfl
  have hopen : (spanned t).root.IsOpen := ⟨rfl, by rw [htag]; decide⟩
  have hchildren : (spanned t).root.children = [(spanned t).node 1] := rfl
  have htag₁ : ((spanned t).node 1).tag = "span" := rfl
  have hopen₁ : ((spanned t).node 1).IsOpen := ⟨rfl, by rw [htag₁]; decide⟩
  have hchildren₁ : ((spanned t).node 1).children = [(spanned t).node 2] := rfl
  have htext : ((spanned t).node 2).data = .text t := rfl
  have hrule : Setup.plain.ruleFor "p" = some Rule.General.paragraph := by
    rw [Setup.ruleFor_plain, Rule.General.find?_paragraph]
  have hrule₁ : Setup.plain.ruleFor "span" = none := by
    rw [Setup.ruleFor_plain, Rule.General.find?_styled (by decide)]
  have hspan : render Setup.plain 511 ((spanned t).node 1) =
      .ok (text ((spanned t).node 2) t {}) := by
    rw [render_only hopen₁ hchildren₁ (render_text htext), htag₁, hrule₁, Setup.finish_none]
    rfl
  rw [convert_eq_render, maxLevels, render_only hopen hchildren hspan, htag, hrule,
    Setup.finish_paragraph]

/-- The blank before the marker is trimmed by the paragraph, after the text was escaped. -/
theorem convert_opens_heading :
    (∀ id, ((spanned " # x").node id).isElement = true →
        ((spanned " # x").node id).tag ∈ ["p", "div", "span", "b", "i", "br"]) ∧
      Setup.plain.convert (spanned " # x").root = .ok "\n# x\n\n" ∧
      ∃ line ∈ linesOf "\n# x\n\n", opensBlock line = true := by
  have htag : ((spanned " # x").node 0).tag = "p" := rfl
  have htag₁ : ((spanned " # x").node 1).tag = "span" := rfl
  refine ⟨fun id he => ?_, (convert_spanned " # x").trans rfl, "# x", by decide, by decide⟩
  match id with
  | 0 =>
    rw [htag]
    decide
  | 1 =>
    rw [htag₁]
    decide
  | 2 => cases he
  | id + 3 => cases he

end Convert

end HtmlMarkdown
