import HtmlMarkdown.Proofs.Convert.OneVisit
import HtmlMarkdown.Proofs.Markdown.Spelling
import HtmlMarkdown.Proofs.Rule.Standard

/-!
# A conversion keeps the text

Outside of mail, and where only blocks without a form of their own take part, all that can be seen
of a document's texts is in the output, once and in order. The text of a node is the text of its
children in order (`shownText_eq`); every piece of the output carries the text it was made of
(`Carries`), through escaping, trimming and joining.

* `Document.shownText`: the texts at and below a node without an ignored element above them.
* `render_carries`: **the rendering of a node carries its shown text.**
* `convert_keeps_text`: the visible characters of the output are those of the document's texts.
-/

namespace HtmlMarkdown

open Document

/-! ## The text that is shown -/

/-- No ignored element lies above the node. -/
def Node.isShown (n : Node) : Bool := n.ancestors.all fun a => !Tag.isIgnored a.tag

namespace Document

/-- The texts at and below a node without an ignored element above them, in document order. -/
def shownText (d : Document) (id : Nat) : Text :=
  ((id :: d.descendants id).filter fun m => (d.node m).isShown).flatMap d.ownText

variable {d : Document} {p c m id : Nat}

theorem isShown_iff : (d.node id).isShown = true ↔
    ∀ a, a ≠ id → d.Above a id → Tag.isIgnored (d.node a).tag = false := by
  have hmem : ∀ a, a ≠ id ∧ d.Above a id ↔ a ∈ d.ancestors id := fun a => mem_ancestors.symm
  unfold Node.isShown Node.ancestors
  rw [List.all_map, List.all_eq_true]
  simp only [Function.comp_apply, Bool.not_eq_true']
  exact ⟨fun h a hne ha => h a ((hmem a).1 ⟨hne, ha⟩), fun h a ha =>
    have := (hmem a).2 ha
    h a this.1 this.2⟩

theorem isShown_root (d : Document) : d.root.isShown = true := by
  have hnil : d.ancestors rootId = [] := ancestors_of_none (parent?_root d)
  unfold Node.isShown Node.ancestors
  have : d.root.doc.ancestors d.root.id = [] := hnil
  rw [this]
  rfl

theorem ownText_text {t : Text} (h : (d.node id).data = .text t) : d.ownText id = t := by
  change d.data id = .text t at h
  rw [ownText, h]

theorem ownText_comment {t : Text} (h : (d.node id).data = .comment t) : d.ownText id = [] := by
  change d.data id = .comment t at h
  rw [ownText, h]

theorem ownText_element {tag : String} {attributes : Attributes}
    (h : (d.node id).data = .element tag attributes) : d.ownText id = [] := by
  change d.data id = .element tag attributes at h
  rw [ownText, h]

/-- The children of a shown node are shown unless it is ignored. -/
theorem isShown_child (h : (d.node p).isShown = true) (hp : Tag.isIgnored (d.node p).tag = false)
    (hc : d.Parent p c) : (d.node c).isShown = true := by
  rw [isShown_iff] at h ⊢
  intro a hne ha
  obtain ⟨q, hq, haq⟩ := ha.of_ne hne
  rw [hq.unique hc] at haq
  by_cases hap : a = p
  · rw [hap]
    exact hp
  · exact h a hap haq

/-- Below an ignored element nothing is shown. -/
theorem shownText_eq_nil (hp : Tag.isIgnored (d.node p).tag = true) (hc : d.Parent p c) :
    d.shownText c = [] := by
  unfold shownText
  rw [List.filter_eq_nil_iff.2, List.flatMap_nil]
  intro m hm hshown
  have hcm : d.Above c m := by
    rcases List.mem_cons.1 hm with rfl | hm
    · exact Relation.ReflTransGen.refl
    · exact (mem_descendants.1 hm).2
  have h1 := hc.lt
  have h2 := hcm.le
  have hno := isShown_iff.1 hshown p (by omega) (Relation.ReflTransGen.head hc hcm)
  rw [hp] at hno
  cases hno

/-- **The text of a shown node is its own and that of its children**, in order. -/
theorem shownText_eq (h : (d.node id).isShown = true) :
    d.shownText id = d.ownText id ++ (d.children id).flatMap d.shownText := by
  have hrow : ∀ cs : List Nat,
      ((cs.flatMap fun c => c :: d.descendants c).filter fun m => (d.node m).isShown).flatMap
        d.ownText = cs.flatMap d.shownText := by
    intro cs
    induction cs with
    | nil => rfl
    | cons c cs ih =>
      rw [List.flatMap_cons, List.filter_append, List.flatMap_append, ih]
      rfl
  rw [shownText, descendants_eq, List.filter_cons, if_pos h, List.flatMap_cons, hrow]

end Document

/-! ## Carrying a text -/

namespace Text

theorem visible_of_blank {t : Text} (h : isBlankText t = true) : visible t = [] :=
  visible_eq_nil_iff.2 h

/-- Blank delimiters do not show. -/
theorem visible_wrap {opening closing : Text} (ho : isBlankText opening = true)
    (hc : isBlankText closing = true) (t : Text) :
    visible (Markdown.wrap opening closing t) = visible t := by
  unfold Markdown.wrap
  simp only
  split
  · rename_i h
    rw [← visible_trim t, List.isEmpty_iff.1 h]
  · rw [visible_append, visible_append, visible_of_blank ho, visible_of_blank hc, visible_trim,
      List.nil_append, List.append_nil]

/-- A backslash can be seen. -/
theorem not_mem_of_blank {t : Text} (h : isBlankText t = true) : '\\' ∉ t := by
  have hslash : isBlank '\\' = false := by decide
  intro hmem
  rw [List.all_eq_true.1 h _ hmem] at hslash
  cases hslash

end Text

namespace Convert

open Markdown Text

/-- **The output carries the visible text `ink`**: as it is where white space is preserved, and
otherwise in the glyphs that it spells. -/
def Carries (o : Options) (out ink : Text) : Prop :=
  if o.preserveWhitespace = true then visible out = ink
  else ∃ gs, Spells gs out ∧ visible (gs.map Glyph.char) = ink

namespace Carries

variable {o : Options} {t u out ink jnk : Text}

theorem nil (o : Options) : Carries o [] [] := by
  unfold Carries
  split
  · rfl
  · exact ⟨[], Spells.nil, rfl⟩

theorem append (h : Carries o t ink) (h' : Carries o u jnk) : Carries o (t ++ u) (ink ++ jnk) := by
  unfold Carries at *
  split
  · rename_i ho
    rw [if_pos ho] at h h'
    rw [visible_append, h, h']
  · rename_i ho
    rw [if_neg ho] at h h'
    obtain ⟨gs, hgs, rfl⟩ := h
    obtain ⟨hs, hhs, rfl⟩ := h'
    exact ⟨gs ++ hs, hgs.append hhs, by rw [List.map_append, visible_append]⟩

/-- Blank space carries nothing. -/
theorem of_blank (o : Options) (h : isBlankText t = true) : Carries o t [] := by
  unfold Carries
  split
  · exact visible_of_blank h
  · refine ⟨t.map (⟨·, false⟩), Spells.of_plain (not_mem_of_blank h), ?_⟩
    rw [List.map_map]
    change visible (t.map id) = []
    rw [List.map_id, visible_of_blank h]

theorem eq_nil (h : Carries o [] ink) : ink = [] := by
  unfold Carries at h
  split at h
  · exact h.symm
  · obtain ⟨gs, hgs, rfl⟩ := h
    cases hgs
    rfl

/-- Wrapping into blank delimiters goes through. -/
theorem wrap {opening closing : Text} (ho : isBlankText opening = true)
    (hc : isBlankText closing = true) (h : Carries o out ink) :
    Carries o (Markdown.wrap opening closing out) ink := by
  unfold Carries at *
  split
  · rename_i hp
    rw [if_pos hp] at h
    rw [visible_wrap ho hc, h]
  · rename_i hp
    rw [if_neg hp] at h
    obtain ⟨gs, hgs, rfl⟩ := h
    refine ⟨_, hgs.wrap (not_mem_of_blank ho) (not_mem_of_blank hc), ?_⟩
    rw [wrapGlyphs_char, visible_wrap ho hc]

/-- What is carried is read off again. -/
theorem visible_eq (h : Carries o out ink) :
    visible (if o.preserveWhitespace then out else unescape out) = ink := by
  unfold Carries at h
  split at h
  · rename_i hp
    rw [if_pos hp]
    exact h
  · rename_i hp
    obtain ⟨gs, hgs, rfl⟩ := h
    rw [if_neg hp, hgs.unescape]

end Carries

/-! ## Every piece carries its text -/

/-- The text of a text node as it flows: white space collapsed, and trimmed at the edges of the
block around it. -/
def flowed (n : Node) (t : Text) : Text :=
  let t := collapse t
  let inBlock := n.parent?.any fun p => Tag.isBlock p.tag
  let t := if inBlock && atEdge n.prev? then trimStart t else t
  if inBlock && atEdge n.next? then trimEnd t else t

theorem text_preserved {o : Options} (ho : o.preserveWhitespace = true) (n : Node) (t : Text) :
    text n t o = t := if_pos ho

/-- Where white space is not preserved, a text node is its flowed text, escaped. -/
theorem text_spells {o : Options} (ho : o.preserveWhitespace = false) (n : Node) (t : Text) :
    Spells (glyphs (flowed n t)) (text n t o) := by
  have heq : text n t o = escape (flowed n t) :=
    if_neg (by rw [ho]; exact Bool.false_ne_true)
  rw [heq]
  exact escape_spells _

/-- **A text that fills its block** is written on one line and trimmed. -/
theorem text_of_edges {o : Options} (ho : o.preserveWhitespace = false) {n p : Node}
    (hparent : n.parent? = some p) (hblock : Tag.isBlock p.tag = true)
    (hprev : atEdge n.prev? = true) (hnext : atEdge n.next? = true) (t : Text) :
    text n t o = escape (trim (collapse t)) := by
  unfold text
  simp [ho, hparent, hblock, hprev, hnext, trim]

theorem visible_flowed (n : Node) (t : Text) : visible (flowed n t) = visible t := by
  unfold flowed
  simp only
  -- the trims at the edges of a block, each made or not
  split <;> split <;> simp only [visible_trimEnd, visible_trimStart, visible_collapse]

theorem text_carries (n : Node) (t : Text) (o : Options) : Carries o (text n t o) (visible t) := by
  unfold Carries
  split
  · rename_i ho
    rw [text_preserved ho]
  · rename_i ho
    refine ⟨_, text_spells (Bool.eq_false_iff.2 ho) n t, ?_⟩
    unfold glyphs
    rw [glyphsFrom_char, visible_flowed]

theorem Carries.add {o : Options} {j : Joined} {r ink jnk : Text} (hj : Carries o j.out jnk)
    (hr : Carries o r ink) (inline : Bool) : Carries o (j.add o inline r).out (jnk ++ ink) := by
  unfold Joined.add
  split
  · rename_i hempty
    rw [List.isEmpty_iff.1 hempty] at hr
    rw [hr.eq_nil, List.append_nil]
    exact hj
  · have hspace : ∀ b : Bool, Carries o (if b then [' '] else []) [] := by
      intro b
      cases b with
      | true => exact Carries.of_blank o (by decide)
      | false => exact Carries.nil o
    have := (hj.append (hspace (inline && j.afterInline && !o.preserveWhitespace &&
      !Text.endsBlank j.out && !Text.startsBlank r))).append hr
    rw [List.append_nil] at this
    exact this

/-- A row of nodes carries what each of them does. -/
theorem renderOnto_carries {s : Setup} {levels : Nat} (ink : Node → Text) {cs : List Node}
    {j : Joined} (hcs : ∀ c ∈ cs, ∀ r, render s levels c = .ok r → Carries s.options r (ink c))
    (hrow : renderOnto s levels {} cs = .ok j) : Carries s.options j.out (cs.flatMap ink) := by
  rw [List.flatMap_eq_foldl]
  exact renderOnto_keeps (R := fun jnk j => Carries s.options j.out jnk)
    (fun jnk c => jnk ++ ink c) (fun c hc r hr _ _ hj => hj.add (hcs c hc r hr) _)
    (Carries.nil s.options) hrow

/-- The tags without a general rule, and those whose rule changes blank space only. -/
def Transparent (tag : String) : Prop :=
  Rule.General.rules.lookup? tag = none ∨
    tag ∈ "p" :: (Rule.General.containerTags ++ ["ul", "ol", "tr", "td", "th"])

theorem Transparent.finish {tag : String} (h : Transparent tag) {o : Options} {content ink : Text}
    (n : Node) (hc : Carries o content ink) :
    Carries o ((Setup.mk .standard o false).finish ((Setup.mk .standard o false).ruleFor tag) n
      content) ink := by
  rw [Setup.ruleFor_standard]
  rcases h with h | h
  · rw [Rule.General.find?_eq_none h]
    exact hc
  rw [List.mem_cons, List.mem_append] at h
  rcases h with rfl | h | h
  · rw [Rule.General.find?_paragraph]
    exact hc.wrap (by decide) (by decide)
  · rw [Rule.General.find?_container tag h]
    exact hc.wrap (by decide) (by decide)
  simp only [List.mem_cons, List.not_mem_nil, or_false] at h
  rcases h with rfl | rfl | rfl | rfl | rfl
  · rw [Rule.General.find?_list "ul" (by decide)]
    exact hc.wrap (by decide) (by decide)
  · rw [Rule.General.find?_list "ol" (by decide)]
    exact hc.wrap (by decide) (by decide)
  · rw [Rule.General.find?_tableRow]
    exact hc.wrap (by decide) (by decide)
  · rw [Rule.General.find?_tableCell "td" (by decide)]
    exact hc.wrap (by decide) (by decide)
  · rw [Rule.General.find?_tableCell "th" (by decide)]
    exact hc.wrap (by decide) (by decide)

section

variable {d : Document} {o : Options}

/-- A node that is not descended into shows its own text, and nothing of what is below it. -/
theorem leaf_carries (hleaf : ∀ id, d.children id ≠ [] → (d.node id).isElement = true)
    {s : Setup} {levels id : Nat} {out : Text} (hopen : ¬ (d.node id).IsOpen)
    (hshown : (d.node id).isShown = true) (h : render s levels (d.node id) = .ok out) :
    Carries s.options out (visible (d.shownText id)) := by
  have hbare : (d.node id).isElement = false → (d.children id).flatMap d.shownText = [] := by
    intro he
    have hnil : d.children id = [] := by
      by_contra hne
      rw [hleaf id hne] at he
      cases he
    rw [hnil, List.flatMap_nil]
  rw [shownText_eq hshown]
  rcases Node.not_isOpen hopen with ⟨t, hd⟩ | ⟨t, hd⟩ | ⟨tag, attributes, hd, hi⟩
  · rw [hbare (by rw [Node.isElement, hd]), ownText_text hd, List.append_nil]
    rw [render_text hd] at h
    cases h
    exact text_carries _ t s.options
  · rw [hbare (by rw [Node.isElement, hd]), ownText_comment hd]
    rw [render_comment hd] at h
    cases h
    exact Carries.nil s.options
  · have htag : Tag.isIgnored (d.node id).tag = true := by
      rw [Node.tag, hd]
      exact hi
    have hnone : (d.children id).flatMap d.shownText = [] := by
      rw [List.flatMap_eq_nil_iff]
      intro c hc
      exact shownText_eq_nil htag (mem_children.1 hc)
    rw [hnone, ownText_element hd]
    rw [render_ignored hd hi] at h
    cases h
    exact Carries.nil s.options

/-- **The rendering of a node carries its shown text**, if only elements have children and what is
shown is ignored or transparent. -/
theorem render_carries (hleaf : ∀ id, d.children id ≠ [] → (d.node id).isElement = true)
    (hplain : ∀ id, (d.node id).isElement = true → (d.node id).isShown = true →
      Tag.isIgnored (d.node id).tag = true ∨ Transparent (d.node id).tag) :
    ∀ (levels : Nat) (n : Node) (out : Text),
      render (Setup.mk .standard o false) levels n = .ok out →
      n.doc = d → n.isShown = true → Carries o out (visible (d.shownText n.id)) := by
  apply render_induction
  · rintro levels n out hopen h rfl hshown
    exact leaf_carries hleaf hopen hshown h
  · rintro levels n j hopen ih hrow rfl hshown
    have htransparent : Transparent n.tag := by
      rcases hplain n.id hopen.1 hshown with hi | ht
      · have hopen' : Tag.isIgnored (n.doc.node n.id).tag = false := hopen.2
        rw [hopen'] at hi
        cases hi
      · exact ht
    obtain ⟨attributes, hd⟩ := hopen.data
    -- each child is shown, so the row carries what the children show
    have hchildren := renderOnto_carries (fun c => visible (n.doc.shownText c.id))
      (fun c hc r hr => by
        obtain ⟨id, hid, rfl⟩ := List.mem_map.1 hc
        exact ih _ hc r hr rfl (isShown_child hshown hopen.2 (mem_children.1 hid))) hrow
    apply htransparent.finish
    rw [shownText_eq hshown, ownText_element hd, List.nil_append, visible_flatMap]
    rw [Node.children, List.flatMap_map] at hchildren
    exact hchildren

/-- **No text is lost, doubled or moved.** Outside of mail, if only elements have children and every
element that is not below an ignored one is ignored or transparent, a conversion of the document
shows the texts without an ignored element above them, character by character and in document
order; blank space aside, and as `unescape` reads the output where white space is not preserved. -/
theorem convert_keeps_text (hleaf : ∀ id, d.children id ≠ [] → (d.node id).isElement = true)
    (hplain : ∀ id, (d.node id).isElement = true → (d.node id).isShown = true →
      Tag.isIgnored (d.node id).tag = true ∨ Transparent (d.node id).tag)
    {out : Text} (hout : (Setup.mk .standard o false).convert d.root = .ok out) :
    visible (if o.preserveWhitespace then out else unescape out) =
      visible (d.shownText rootId) := by
  rw [convert_eq_render] at hout
  exact (render_carries hleaf hplain maxLevels d.root out hout rfl (isShown_root d)).visible_eq

/-- A division with a paragraph, a script and a text. -/
def division : Document :=
  Document.ofRoot "div" [] [.element "p" [] [.text "1. *a*"], .element "script" [] [.text "x"],
    .text " b "]

theorem convert_division :
    (Setup.mk .standard {} false).convert division.root = .ok "1\\. \\*a\\*\n\n b\n" := by
  have htag : division.root.tag = "div" := rfl
  have hopen : division.root.IsOpen := ⟨rfl, by rw [htag]; decide⟩
  have htag₁ : (division.node 1).tag = "p" := rfl
  have hopen₁ : (division.node 1).IsOpen := ⟨rfl, by rw [htag₁]; decide⟩
  have hchildren : division.root.children = [division.node 1, division.node 3, division.node 5] :=
    rfl
  have hparagraph : render (Setup.mk .standard {} false) 511 (division.node 1) =
      .ok "\n1\\. \\*a\\*\n\n" := by
    rw [render_only (c := division.node 2) hopen₁ rfl (render_text rfl), htag₁,
      Setup.ruleFor_standard, Rule.General.find?_paragraph]
    rfl
  have hscript : render (Setup.mk .standard {} false) 511 (division.node 3) = .ok [] :=
    render_ignored rfl (by decide)
  have htext : render (Setup.mk .standard {} false) 511 (division.node 5) = .ok " b" :=
    (render_text rfl).trans rfl
  rw [convert_eq_render, maxLevels, render_element hopen, hchildren, renderOnto_cons_ok hparagraph,
    renderOnto_cons_ok hscript, renderOnto_cons_ok htext, renderOnto_nil, htag,
    Setup.ruleFor_standard, Rule.General.find?_container "div" (by decide)]
  rfl

theorem convert_keeps_text_division :
    visible (unescape "1\\. \\*a\\*\n\n b\n") = visible (division.shownText rootId) := by
  have htag : (division.node 0).tag = "div" := rfl
  have htag₁ : (division.node 1).tag = "p" := rfl
  have htag₃ : (division.node 3).tag = "script" := rfl
  refine convert_keeps_text (o := {}) ?_ ?_ convert_division
  · intro id hne
    match id with
    | 0 | 1 | 3 => rfl
    | 2 | 4 | 5 => exact absurd rfl hne
    | id + 6 => exact absurd (children_eq_nil_of_le (Nat.le_add_left _ _)) hne
  · intro id he _
    match id with
    | 0 =>
      rw [htag]
      exact Or.inr (Or.inr (by decide))
    | 1 =>
      rw [htag₁]
      exact Or.inr (Or.inr (by decide))
    | 3 =>
      rw [htag₃]
      exact Or.inl (by decide)
    | 2 | 4 | 5 => cases he
    | id + 6 => cases he

end

end Convert

end HtmlMarkdown
