import HtmlMarkdown.Proofs.Convert.Depth
import HtmlMarkdown.Proofs.Convert.PlainLayout
import HtmlMarkdown.Proofs.Document.InnerText
import HtmlMarkdown.Proofs.Document.Relatives

/-!
# Words at the edges of blocks

The inner text of a node puts every block between line breaks. A conversion puts one behind a
division, and around a paragraph, but none before a division and none for a block that is blank; and
it trims the texts beside a block. So words that are apart in the inner text may run together in the
output.

* `laid`: what a conversion makes of divisions, paragraphs and texts, before escaping.
* `Abuts`: what stands before a node runs into it, over the edge of an element.
* `seam_iff`: between two children words run together exactly there.
* `convert_words_iff`: **the words of the output are those of the inner text if and only if no
  children of an element abut.**
-/

namespace HtmlMarkdown

open Document

/-- All nodes at and below the node are texts, divisions and paragraphs. -/
def Node.IsFlow (n : Node) : Prop :=
  ∀ m, n.doc.Above n.id m → (∃ t, (n.doc.node m).data = .text t) ∨
    ((n.doc.node m).isElement = true ∧ (n.doc.node m).tag ∈ ["div", "p"])

namespace Node.IsFlow

variable {n c : Node}

theorem child (h : n.IsFlow) (hc : c ∈ n.children) : c.IsFlow := by
  obtain ⟨id, hid, rfl⟩ := List.mem_map.1 hc
  intro m hm
  exact h m (Relation.ReflTransGen.head (mem_children.1 hid) hm)

/-- A node is a text, or it is descended into. -/
theorem cases (h : n.IsFlow) :
    (∃ t, n.data = .text t) ∨ (n.IsOpen ∧ n.tag ∈ ["div", "p"]) := by
  have hopen : ∀ tag ∈ ["div", "p"], Tag.isIgnored tag = false := by decide
  rcases h n.id Relation.ReflTransGen.refl with ht | ⟨he, htag⟩
  · exact Or.inl ht
  · exact Or.inr ⟨⟨he, hopen _ htag⟩, htag⟩

/-- A node that is not descended into is a text. -/
theorem text_of_not_open (h : n.IsFlow) (hopen : ¬ n.IsOpen) : ∃ t, n.data = .text t := by
  rcases h.cases with ht | ⟨ho, -⟩
  · exact ht
  · exact absurd ho hopen

theorem tag_mem (h : n.IsFlow) (hopen : n.IsOpen) : n.tag ∈ ["div", "p"] := by
  rcases h.cases with ⟨t, hd⟩ | ⟨-, htag⟩
  · have he := hopen.1
    rw [Node.isElement, hd] at he
    cases he
  · exact htag

theorem isInline_eq (h : n.IsFlow) : Convert.isInline n = false := by
  have hblock : ∀ tag ∈ ["div", "p"], Tag.isInline tag = false := by decide
  unfold Convert.isInline
  by_cases hopen : n.IsOpen
  · rw [hblock _ (h.tag_mem hopen), Bool.and_false]
  · obtain ⟨t, hd⟩ := h.text_of_not_open hopen
    rw [Node.isElement, hd, Bool.false_and]

end Node.IsFlow

namespace Markdown

/-- The text with backslashes where it needs them. -/
def Writes (out t : Text) : Prop := ∃ gs, Spells gs out ∧ gs.map Glyph.char = t

namespace Writes

variable {out out' t t' : Text}

theorem nil : Writes [] [] := ⟨[], Spells.nil, rfl⟩

theorem append (h : Writes out t) (h' : Writes out' t') : Writes (out ++ out') (t ++ t') := by
  obtain ⟨gs, hgs, rfl⟩ := h
  obtain ⟨hs, hhs, rfl⟩ := h'
  exact ⟨gs ++ hs, hgs.append hhs, List.map_append⟩

theorem wrap {opening closing : Text} (ho : '\\' ∉ opening) (hc : '\\' ∉ closing)
    (h : Writes out t) : Writes (Markdown.wrap opening closing out)
      (Markdown.wrap opening closing t) := by
  obtain ⟨gs, hgs, rfl⟩ := h
  exact ⟨_, hgs.wrap ho hc, wrapGlyphs_char ..⟩

theorem eq_nil (h : Writes [] t) : t = [] := by
  obtain ⟨gs, hgs, rfl⟩ := h
  cases hgs
  rfl

theorem unescape (h : Writes out t) : Markdown.unescape out = t := by
  obtain ⟨gs, hgs, rfl⟩ := h
  exact hgs.unescape

end Writes

end Markdown

namespace Convert

open Markdown Text

/-! ## What is laid down -/

/-- What an element makes of the texts of its children. -/
def laidNode (d : Document) (id : Nat) (parts : List Text) : Text :=
  match d.data id with
  | .text t => flowed (d.node id) t
  | .comment _ => []
  | .element tag _ => if tag = "p" then separated parts.flatten else block parts.flatten

/-- **What a conversion makes of texts, divisions and paragraphs**, before escaping. -/
def laid (n : Node) : Text := n.doc.fold (laidNode n.doc) n.id

variable {n p u : Node} {before after : List Node}

theorem laid_text {t : Text} (h : n.data = .text t) : laid n = flowed n t := by
  change n.doc.data n.id = .text t at h
  unfold laid
  rw [fold_eq, laidNode, h]
  rfl

theorem laid_element (h : n.IsOpen) :
    laid n = if n.tag = "p" then separated (n.children.flatMap laid)
      else block (n.children.flatMap laid) := by
  obtain ⟨attributes, hd⟩ := h.data
  have hparts : n.children.flatMap laid =
      ((n.doc.children n.id).map (n.doc.fold (laidNode n.doc))).flatten := by
    unfold Node.children
    rw [List.flatMap_map]
    rfl
  have hnode : ∀ parts, laidNode n.doc n.id parts =
      if n.tag = "p" then separated parts.flatten else block parts.flatten := by
    change n.doc.data n.id = .element n.tag attributes at hd
    intro parts
    rw [laidNode, hd]
  rw [hparts]
  unfold laid
  rw [fold_eq, hnode]

/-- Divisions and paragraphs trim what is in them and put line breaks around it. -/
theorem finish_flow {tag : String} (h : tag ∈ ["div", "p"]) (n : Node) (t : Text) :
    Setup.plain.finish (Setup.plain.ruleFor tag) n t =
      if tag = "p" then separated t else block t := by
  rw [Setup.ruleFor_plain]
  simp only [List.mem_cons, List.not_mem_nil, or_false] at h
  rcases h with rfl | rfl
  · rw [Rule.General.find?_container "div" (by decide)]
    rfl
  · rw [Rule.General.find?_paragraph]
    rfl

/-- What is laid down is what is written. -/
theorem render_writes : ∀ (levels : Nat) (n : Node) (out : Text),
    render Setup.plain levels n = .ok out → n.IsFlow → Writes out (laid n) := by
  apply render_induction
  · intro levels n out hopen h hn
    obtain ⟨t, hd⟩ := hn.text_of_not_open hopen
    rw [render_text hd] at h
    cases h
    rw [laid_text hd]
    exact ⟨_, text_spells rfl n t, glyphsFrom_char _ _⟩
  · intro levels n j hopen ih hrow hn
    -- no child is inline, so no space is put between two of them
    have hchildren : Writes j.out (n.children.flatMap laid) ∧ j.afterInline = false := by
      rw [List.flatMap_eq_foldl]
      refine renderOnto_keeps (fun t c => t ++ laid c) (fun c hc r hr t j hj => ?_)
        (R := fun t j => Writes j.out t ∧ j.afterInline = false) ⟨Writes.nil, rfl⟩ hrow
      have hr' := ih c hc r hr (hn.child hc)
      rw [(hn.child hc).isInline_eq]
      unfold Joined.add
      split
      · rename_i hempty
        rw [List.isEmpty_iff.1 hempty] at hr'
        rw [hr'.eq_nil, List.append_nil]
        exact hj
      · exact ⟨by simpa using hj.1.append hr', rfl⟩
    rw [laid_element hopen, finish_flow (hn.tag_mem hopen)]
    split
    · exact hchildren.1.wrap (by decide) (by decide)
    · exact hchildren.1.wrap (by decide) (by decide)

/-- The words of an element are those of its children. -/
theorem words_laid (h : n.IsOpen) : words (laid n) = words (n.children.flatMap laid) := by
  rw [laid_element h]
  split <;> exact words_wrap (by decide) (by decide) _

/-- What an element lays down ends in a line break. -/
theorem endsVisible_laid (h : n.IsOpen) : endsVisible (laid n) = false := by
  have hwrap : ∀ opening closing content : Text,
      endsVisible (wrap opening (closing ++ ['\n']) content) = false := by
    intro opening closing content
    unfold wrap
    simp only
    split
    · rfl
    · rw [← List.append_assoc, endsVisible_concat]
      rfl
  rw [laid_element h]
  split
  · exact hwrap ['\n'] ['\n'] _
  · exact hwrap [] [] _

theorem spread_element (hn : n.IsFlow) (h : n.IsOpen) :
    n.spread = '\n' :: (n.children.flatMap Node.spread ++ ['\n']) := by
  have hblock : ∀ tag ∈ ["div", "p"], tag ≠ "br" ∧ Tag.isBlock tag = true := by decide
  obtain ⟨attributes, hd⟩ := h.data
  have htag := hblock _ (hn.tag_mem h)
  exact Node.spread_block hd htag.1 htag.2

theorem words_spread (hn : n.IsFlow) (h : n.IsOpen) :
    words n.spread = words (n.children.flatMap Node.spread) := by
  rw [spread_element hn h, words_cons_blank (by decide), words_concat_blank (by decide)]

/-- The inner text of an element starts and ends in a line break, so this must be a text. -/
theorem text_of_spread (hn : n.IsFlow)
    (h : n.spread = [] ∨ startsVisible n.spread = true ∨ endsVisible n.spread = true) :
    ∃ t, n.data = .text t := by
  refine hn.text_of_not_open fun hopen => ?_
  have hfeed : isBlank '\n' = true := by decide
  rw [spread_element hn hopen, ← List.cons_append, startsVisible_append (List.cons_ne_nil _ _),
    startsVisible_cons, endsVisible_concat, hfeed] at h
  simp at h

/-- What can be seen is the same on both sides. -/
theorem visible_laid : ∀ n : Node, n.IsFlow → visible (laid n) = visible n.spread := by
  rintro ⟨d, id⟩
  refine d.tree_induction
    (P := fun id => (d.node id).IsFlow → visible (laid (d.node id)) = visible (d.node id).spread)
    ?_ id
  intro id ih hn
  by_cases hopen : (d.node id).IsOpen
  · have hchildren : visible ((d.node id).children.flatMap laid) =
        visible ((d.node id).children.flatMap Node.spread) := by
      rw [visible_flatMap, visible_flatMap]
      apply List.flatMap_congr
      intro c hc
      obtain ⟨cid, hcid, rfl⟩ := List.mem_map.1 hc
      exact ih cid hcid (hn.child hc)
    have hlaid : visible (laid (d.node id)) = visible ((d.node id).children.flatMap laid) := by
      rw [laid_element hopen]
      split <;> exact visible_wrap (by decide) (by decide) _
    have hbreak : visible ['\n'] = [] := rfl
    rw [hlaid, hchildren, spread_element hn hopen, ← List.singleton_append, visible_append,
      visible_append, hbreak, List.nil_append, List.append_nil]
  · obtain ⟨t, hd⟩ := hn.text_of_not_open hopen
    rw [laid_text hd, Node.spread_text hd, visible_flowed]

/-! ## The edges of a text -/

/-- A text that starts or ends visibly is not trimmed there. -/
theorem startsVisible_flowed {t : Text} (h : startsVisible t = true) :
    startsVisible (flowed n t) = true := by
  rw [← startsVisible_collapse] at h
  unfold flowed
  simp only
  have hstart : ∀ b : Bool, (if b then trimStart (collapse t) else collapse t) = collapse t := by
    intro b
    cases b with
    | true => exact trimStart_of_starts h
    | false => rfl
  rw [hstart]
  split
  · rwa [startsVisible_trimEnd]
  · exact h

theorem endsVisible_flowed {t : Text} (h : endsVisible t = true) :
    endsVisible (flowed n t) = true := by
  rw [← endsVisible_collapse] at h
  have hends : ∀ b : Bool,
      endsVisible (if b then trimStart (collapse t) else collapse t) = true := by
    intro b
    cases b with
    | true => exact (endsVisible_trimStart _).trans h
    | false => exact h
  unfold flowed
  simp only
  split
  · rw [trimEnd_of_ends (hends _)]
    exact hends _
  · exact hends _

theorem words_flowed (n : Node) (t : Text) : words (flowed n t) = words t := by
  unfold flowed
  simp only
  split <;> split <;> simp only [words_trimEnd, words_trimStart, words_collapse]

theorem flowed_nil (n : Node) : flowed n [] = [] := by
  unfold flowed
  simp only
  split <;> split <;> rfl

/-- Behind a text that is not at the edge of its block its end stays as it is. -/
theorem endsVisible_of_flowed {t : Text} (hedge : atEdge n.next? = false) :
    endsVisible (flowed n t) = endsVisible t := by
  unfold flowed
  simp only [hedge, Bool.and_false, Bool.false_eq_true, if_false]
  rw [← endsVisible_collapse t]
  split
  · exact endsVisible_trimStart _
  · rfl

theorem startsVisible_of_flowed {t : Text} (hedge : atEdge n.prev? = false) :
    startsVisible (flowed n t) = startsVisible t := by
  unfold flowed
  simp only [hedge, Bool.and_false, Bool.false_eq_true, if_false]
  rw [← startsVisible_collapse t]
  split
  · exact startsVisible_trimEnd _
  · rfl

theorem flowed_eq_nil {t : Text} (hprev : atEdge n.prev? = false)
    (hnext : atEdge n.next? = false) (h : flowed n t = []) : t = [] := by
  unfold flowed at h
  simp only [hprev, hnext, Bool.and_false, Bool.false_eq_true, if_false] at h
  exact collapse_eq_nil_iff.1 h

/-- Beside a text a text is not at the edge of its block. -/
theorem atEdge_text {t : Text} (h : n.data = .text t) : atEdge (some n) = false := by
  have htag : n.tag = "" := by rw [Node.tag, h]
  unfold atEdge
  rw [Option.all_some, htag]
  decide

/-! ## Two children -/

/-- **What stands before a node runs into it**: that ends visibly, the node starts visibly, and what
lies between leaves nothing behind; but one of them is an element, or the node is. -/
def Abuts (before : List Node) (u : Node) : Prop :=
  ∃ front between, before = front ++ between ∧ endsVisible (front.flatMap laid) = true ∧
    (∀ b ∈ between, laid b = []) ∧ startsVisible (laid u) = true ∧
    ∃ m ∈ u :: between, m.isElement = true

/-- Children of the node abut. -/
def RunsTogether (n : Node) : Prop :=
  ∃ before u after, n.children = before ++ u :: after ∧ Abuts before u

/-- Where visible characters meet in the inner text, they meet in the output. -/
theorem meets_laid (hbefore : ∀ c ∈ before, c.IsFlow) (hu : u.IsFlow)
    (h : meets (before.flatMap Node.spread) u.spread = true) :
    meets (before.flatMap laid) (laid u) = true := by
  obtain ⟨hends, hstarts⟩ := Bool.and_eq_true_iff.1 h
  refine Bool.and_eq_true_iff.2 ⟨?_, ?_⟩
  · -- what ends visibly in the inner text is a text, and so is what leaves nothing behind it
    obtain ⟨front, c, behind, rfl, hc, hbehind⟩ := endsVisible_flatMap_iff.1 hends
    refine endsVisible_flatMap_iff.2 ⟨front, c, behind, rfl, ?_, fun b hb => ?_⟩
    · obtain ⟨t, hd⟩ := text_of_spread (hbefore c (by simp)) (Or.inr (Or.inr hc))
      rw [Node.spread_text hd] at hc
      rw [laid_text hd]
      exact endsVisible_flowed hc
    · have hnil := hbehind b hb
      obtain ⟨t, hd⟩ := text_of_spread (hbefore b (by simp [hb])) (Or.inl hnil)
      rw [Node.spread_text hd] at hnil
      rw [laid_text hd, hnil, flowed_nil]
  · obtain ⟨t, hd⟩ := text_of_spread hu (Or.inr (Or.inl hstarts))
    rw [Node.spread_text hd] at hstarts
    rw [laid_text hd]
    exact startsVisible_flowed hstarts

/-- Texts in a row meet in the inner text if they do in the output: none of them is trimmed where it
stands beside another. -/
theorem meets_spread_of_texts {front between : List Node} {t : Node}
    (h : p.children = front ++ t :: between ++ u :: after)
    (htexts : ∀ m ∈ t :: u :: between, ∃ s, m.data = .text s)
    (hends : endsVisible (laid t) = true) (hbetween : ∀ b ∈ between, laid b = [])
    (hstarts : startsVisible (laid u) = true) :
    meets ((front ++ t :: between).flatMap Node.spread) u.spread = true := by
  have hprev : ∀ {l : List Node}, (∀ m ∈ l, m ∈ between) →
      atEdge (front ++ t :: l).getLast? = false := by
    intro l hl
    obtain ⟨m, hm⟩ : ∃ m, (t :: l).getLast? = some m := ⟨_, List.getLast?_cons⟩
    obtain ⟨s, hd⟩ := htexts m (by
      have := List.mem_of_getLast? hm
      rcases List.mem_cons.1 this with rfl | hm
      · simp
      · simp [hl m hm])
    rw [List.getLast?_append_of_ne_nil _ (List.cons_ne_nil t l), hm]
    exact atEdge_text hd
  have hnext : ∀ {l : List Node}, (∀ m ∈ l, m ∈ between) →
      atEdge (l ++ u :: after).head? = false := by
    intro l hl
    cases l with
    | nil =>
      obtain ⟨s, hd⟩ := htexts u (by simp)
      exact atEdge_text hd
    | cons m l =>
      obtain ⟨s, hd⟩ := htexts m (by simp [hl m (by simp)])
      exact atEdge_text hd
  refine Bool.and_eq_true_iff.2 ⟨endsVisible_flatMap_iff.2 ⟨front, t, between, rfl, ?_, ?_⟩, ?_⟩
  · obtain ⟨s, hd⟩ := htexts t (by simp)
    have hsplit : p.children = front ++ t :: (between ++ u :: after) := by simpa using h
    rw [laid_text hd, endsVisible_of_flowed (by rw [Node.next?_eq hsplit]; exact hnext fun _ => id)]
      at hends
    rwa [Node.spread_text hd]
  · intro b hb
    obtain ⟨s, hd⟩ := htexts b (by simp [hb])
    have hnil := hbetween b hb
    obtain ⟨left, right, rfl⟩ := List.append_of_mem hb
    have hsplit : p.children = (front ++ t :: left) ++ b :: (right ++ u :: after) := by
      simpa using h
    rw [laid_text hd] at hnil
    rw [Node.spread_text hd]
    refine flowed_eq_nil ?_ ?_ hnil
    · rw [Node.prev?_eq hsplit]
      exact hprev fun m hm => by simp [hm]
    · rw [Node.next?_eq hsplit]
      exact hnext fun m hm => by simp [hm]
  · obtain ⟨s, hd⟩ := htexts u (by simp)
    rw [laid_text hd, startsVisible_of_flowed (by rw [Node.prev?_eq h]; exact hprev fun _ => id)]
      at hstarts
    rwa [Node.spread_text hd]

/-- **Words run together exactly where children abut.** -/
theorem seam_iff (hp : p.IsFlow) (h : p.children = before ++ u :: after) :
    (meets (before.flatMap laid) (laid u) = true ∧
      meets (before.flatMap Node.spread) u.spread = false) ↔ Abuts before u := by
  have hflow : ∀ c ∈ before ++ u :: after, c.IsFlow := fun c hc => hp.child (by rwa [h])
  constructor
  · rintro ⟨hmeets, hapart⟩
    obtain ⟨hends, hstarts⟩ := Bool.and_eq_true_iff.1 hmeets
    obtain ⟨front, t, between, rfl, ht, hbetween⟩ := endsVisible_flatMap_iff.1 hends
    refine ⟨front ++ [t], between, by simp, ?_, hbetween, hstarts, ?_⟩
    · exact endsVisible_flatMap_iff.2
        ⟨front, t, [], rfl, ht, fun b hb => absurd hb List.not_mem_nil⟩
    · -- were all of them texts, they would meet in the inner text as well
      by_contra hno
      have htexts : ∀ m ∈ t :: u :: between, ∃ s, m.data = .text s := by
        intro m hm
        rcases List.mem_cons.1 hm with rfl | hm'
        · refine (hflow m (by simp)).text_of_not_open fun hopen => ?_
          rw [endsVisible_laid hopen] at ht
          cases ht
        · refine (hflow m ?_).text_of_not_open fun hopen => hno ⟨m, hm', hopen.1⟩
          rcases List.mem_cons.1 hm' with rfl | hm'
          · simp
          · simp [hm']
      rw [meets_spread_of_texts h htexts ht hbetween hstarts] at hapart
      cases hapart
  · rintro ⟨front, between, rfl, hends, hbetween, hstarts, m, hm, he⟩
    refine ⟨?_, Bool.eq_false_iff.2 fun hmeets => ?_⟩
    · rw [List.flatMap_append, List.flatMap_eq_nil_iff.2 hbetween, List.append_nil]
      exact Bool.and_eq_true_iff.2 ⟨hends, hstarts⟩
    obtain ⟨hends', hstarts'⟩ := Bool.and_eq_true_iff.1 hmeets
    have hopen : ∀ c ∈ front ++ between ++ u :: after, c.isElement = true →
        ¬ ∃ t, c.data = .text t := by
      rintro c - hc ⟨t, hd⟩
      rw [Node.isElement, hd] at hc
      cases hc
    rcases List.mem_cons.1 hm with rfl | hm
    · exact hopen m (by simp) he (text_of_spread (hflow m (by simp)) (Or.inr (Or.inl hstarts')))
    · -- behind the line breaks of the element there is nothing that can be seen
      have hblank : isBlankText (between.flatMap Node.spread) = true := by
        rw [← visible_eq_nil_iff, visible_flatMap, List.flatMap_eq_nil_iff]
        intro b hb
        rw [← visible_laid b (hflow b (by simp [hb])), hbetween b hb]
        rfl
      have hne : between.flatMap Node.spread ≠ [] := by
        intro hnil
        have hm' := List.flatMap_eq_nil_iff.1 hnil m hm
        exact hopen m (by simp [hm]) he (text_of_spread (hflow m (by simp [hm])) (Or.inl hm'))
      rw [List.flatMap_append, endsVisible_append _ hne, endsVisible_of_blank hblank] at hends'
      cases hends'

/-! ## A row of children, and a tree -/

/-- **Along a row of children** words run together in one of them, or where one abuts. -/
theorem row_joins (hp : p.IsFlow) (below : Node → Prop)
    (hchild : ∀ c ∈ p.children, Joins (below c) (laid c) c.spread) :
    Joins (∃ front u rest, p.children = front ++ u :: rest ∧ (below u ∨ Abuts front u))
      (p.children.flatMap laid) (p.children.flatMap Node.spread) := by
  refine Joins.flatMap hchild (fun front u rest h => ?_) fun front u rest h => seam_iff hp h
  have hflow : ∀ c ∈ front ++ u :: rest, c.IsFlow := fun c hc => hp.child (by rwa [h])
  exact meets_laid (fun c hc => hflow c (by simp [hc])) (hflow u (by simp))

/-- An element below which children abut, or at which they do. -/
theorem exposed_runs_iff (hopen : n.IsOpen) :
    (∃ front u rest, n.children = front ++ u :: rest ∧
        ((∃ k m, Exposed u k m ∧ RunsTogether m) ∨ Abuts front u)) ↔
      ∃ k m, Exposed n k m ∧ RunsTogether m := by
  constructor
  · rintro ⟨front, u, rest, hsplit, ⟨k, m, hm, hruns⟩ | habuts⟩
    · exact ⟨k + 1, m, hm.of_child hopen (by rw [hsplit]; simp), hruns⟩
    · exact ⟨0, n, Exposed.here hopen, front, u, rest, hsplit, habuts⟩
  · rintro ⟨k, m, hm, hruns⟩
    cases k with
    | zero =>
      cases hm
      obtain ⟨front, u, rest, hsplit, habuts⟩ := hruns
      exact ⟨front, u, rest, hsplit, Or.inr habuts⟩
    | succ k =>
      obtain ⟨c, hc, hcm⟩ := hm.succ_inv
      obtain ⟨front, rest, hsplit⟩ := List.append_of_mem hc
      exact ⟨front, c, rest, hsplit, Or.inl ⟨k, m, hcm, hruns⟩⟩

/-- **At and below a node** words run together where children abut. -/
theorem laid_joins : ∀ n : Node, n.IsFlow →
    Joins (∃ k m, Exposed n k m ∧ RunsTogether m) (laid n) n.spread := by
  rintro ⟨d, id⟩
  refine d.tree_induction (P := fun id => (d.node id).IsFlow →
    Joins (∃ k m, Exposed (d.node id) k m ∧ RunsTogether m) (laid (d.node id))
      (d.node id).spread) ?_ id
  intro id ih hn
  by_cases hopen : (d.node id).IsOpen
  · have hrow := row_joins hn (fun c => ∃ k m, Exposed c k m ∧ RunsTogether m)
      (fun c hc => by
        obtain ⟨cid, hcid, rfl⟩ := List.mem_map.1 hc
        exact ih cid hcid (hn.child hc))
    exact hrow.congr (words_laid hopen) (words_spread hn hopen) (exposed_runs_iff hopen)
  · obtain ⟨t, hd⟩ := hn.text_of_not_open hopen
    refine Or.inl ⟨?_, ?_⟩
    · rw [laid_text hd, Node.spread_text hd, words_flowed]
    · rintro ⟨k, m, hm, -⟩
      exact hopen hm.top_isOpen

/-- **When words run together.** Where there are only divisions, paragraphs and texts, with default
options and outside of mail, the output has the words of the inner text if and only if no children
of an element abut. -/
theorem convert_words_iff {n : Node} (hn : n.IsFlow) {out : Text}
    (hout : Setup.plain.convert n = .ok out) :
    words (unescape out) = words n.innerText ↔
      ∀ k m, Exposed n k m → ¬ RunsTogether m := by
  rw [convert_eq_render] at hout
  rw [(render_writes maxLevels n out hout hn).unescape, Node.words_innerText,
    (laid_joins n hn).words_eq_iff]
  push Not
  rfl

/-- A division with a paragraph between two texts. -/
def around : Document :=
  Document.ofRoot "div" [] [.text "a ", .element "p" [] [.text "b\nc"], .text "d"]

theorem convert_words_iff_around :
    around.root.IsFlow ∧ Setup.plain.convert around.root = .ok "a\nb c\n\nd\n" ∧
      (words (unescape "a\nb c\n\nd\n") = words around.root.innerText ↔
        ∀ k m, Exposed around.root k m → ¬ RunsTogether m) := by
  have htag : around.root.tag = "div" := rfl
  have htag₂ : (around.node 2).tag = "p" := rfl
  have hflow : around.root.IsFlow := by
    intro m _
    match m with
    | 0 => exact Or.inr ⟨rfl, by decide⟩
    | 2 => exact Or.inr ⟨rfl, by decide⟩
    | 1 | 3 | 4 => exact Or.inl ⟨_, rfl⟩
    | m + 5 => exact Or.inl ⟨_, rfl⟩
  have hout : Setup.plain.convert around.root = .ok "a\nb c\n\nd\n" := by
    have hchildren : around.root.children = [around.node 1, around.node 2, around.node 4] := rfl
    have hparagraph : render Setup.plain 511 (around.node 2) = .ok "\nb c\n\n" := by
      rw [render_only (c := around.node 3) ⟨rfl, by rw [htag₂]; decide⟩ rfl (render_text rfl),
        htag₂, finish_flow (by decide)]
      rfl
    rw [convert_eq_render, maxLevels, render_element ⟨rfl, by rw [htag]; decide⟩, hchildren,
      renderOnto_cons_ok (render_text rfl), renderOnto_cons_ok hparagraph,
      renderOnto_cons_ok (render_text rfl), renderOnto_nil, htag, Except.map,
      finish_flow (by decide)]
    rfl
  exact ⟨hflow, hout, convert_words_iff hflow hout⟩

/-- A division with a text and a division in it. -/
def beside : Document :=
  Document.ofRoot "div" [] [.text "a", .element "div" [] [.text "b"]]

/-- No line break is put before the inner division, so its text runs into the one before it. -/
theorem convert_runs_together :
    beside.root.IsFlow ∧ Setup.plain.convert beside.root = .ok "ab\n" ∧
      words (unescape "ab\n") ≠ words beside.root.innerText := by
  have htag : beside.root.tag = "div" := rfl
  have htag₂ : (beside.node 2).tag = "div" := rfl
  have hflow : beside.root.IsFlow := by
    intro m _
    match m with
    | 0 => exact Or.inr ⟨rfl, by decide⟩
    | 2 => exact Or.inr ⟨rfl, by decide⟩
    | 1 | 3 => exact Or.inl ⟨_, rfl⟩
    | m + 4 => exact Or.inl ⟨_, rfl⟩
  have hout : Setup.plain.convert beside.root = .ok "ab\n" := by
    have hchildren : beside.root.children = [beside.node 1, beside.node 2] := rfl
    have hinner : render Setup.plain 511 (beside.node 2) = .ok "b\n" := by
      rw [render_only (c := beside.node 3) ⟨rfl, by rw [htag₂]; decide⟩ rfl (render_text rfl),
        htag₂, finish_flow (by decide)]
      rfl
    rw [convert_eq_render, maxLevels, render_element ⟨rfl, by rw [htag]; decide⟩, hchildren,
      renderOnto_cons_ok (render_text rfl), renderOnto_cons_ok hinner, renderOnto_nil, htag,
      Except.map, finish_flow (by decide)]
    rfl
  refine ⟨hflow, hout, by decide⟩

end Convert

end HtmlMarkdown
