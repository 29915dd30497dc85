import HtmlMarkdown.Proofs.Document.InnerText
import HtmlMarkdown.Proofs.Document.Remembered
import HtmlMarkdown.Proofs.Markdown.Lines

/-!
# The two texts of a node

`Node.text` puts the texts below a node one after the other, `Node.innerText` lays them out in
lines. They differ in blank space only, as long as an element does not remember a text that it had
before.

* `visible_spread`: the layout adds blank space to the texts, and nothing else.
* `trimmedLines_trim`: trimming leaves lines that are trimmed as they are.
* `visible_innerText`: **what can be seen of both.**
-/

namespace HtmlMarkdown

open Text

/-! ## Lines that are trimmed -/

namespace Markdown

variable {c : Char} {t : Text} {ls : List Text}

/-- No line has blank space at its ends. -/
def TrimmedLines (t : Text) : Prop := ∀ l ∈ linesOf t, trim l = l

/-- A line that is trimmed has a visible character at either end. -/
theorem not_blank_of_trim {l : Text} (h : trim (c :: l) = c :: l) : isBlank c = false := by
  rcases trim_edges (c :: l) with hnil | ⟨hstart, -⟩
  · rw [hnil] at h
    cases h
  · rw [h, startsVisible_cons] at hstart
    simpa using hstart

theorem not_blank_of_trim_concat {l : Text} (h : trim (l ++ [c]) = l ++ [c]) :
    isBlank c = false := by
  rcases trim_edges (l ++ [c]) with hnil | ⟨-, hend⟩
  · rw [hnil] at h
    simp at h
  · rw [h, endsVisible_concat] at hend
    simpa using hend

theorem trimmedLines_trimStart (h : TrimmedLines t) : TrimmedLines (trimStart t) := by
  induction t with
  | nil => exact h
  | cons c cs ih =>
    cases hc : isBlank c with
    | false => rwa [trimStart_of_starts (by simp [hc])]
    | true =>
      rw [trimStart_cons_blank hc]
      by_cases hfeed : c = '\n'
      · refine ih fun l hl => h l ?_
        rw [hfeed, linesOf_feed]
        exact List.mem_cons_of_mem _ hl
      · -- otherwise the blank character stands at the start of the first line
        cases hlines : linesOf cs with
        | nil => exact absurd hlines (linesOf_ne_nil cs)
        | cons l ls =>
          have hfirst : c :: l ∈ linesOf (c :: cs) := by
            rw [linesOf_cons, if_neg hfeed, hlines]
            exact List.mem_cons_self
          rw [not_blank_of_trim (h _ hfirst)] at hc
          cases hc

theorem trimmedLines_trimEnd (h : TrimmedLines t) : TrimmedLines (trimEnd t) := by
  induction t using List.reverseRecOn with
  | nil => exact h
  | append_singleton cs c ih =>
    cases hc : isBlank c with
    | false => rwa [trimEnd_append_visible hc]
    | true =>
      rw [trimEnd_append_blank hc]
      by_cases hfeed : c = '\n'
      · refine ih fun l hl => h l ?_
        rw [hfeed, linesOf_append_feed]
        exact List.mem_append_left _ hl
      · -- otherwise the blank character stands at the end of the last line
        obtain ⟨y, l, rfl, hy, hl⟩ := exists_last_line cs
        have hline : linesOf (l ++ [c]) = [l ++ [c]] := by
          refine linesOf_line ?_
          rw [List.mem_append, List.mem_singleton, not_or]
          exact ⟨hl, fun e => hfeed e.symm⟩
        have hlast : l ++ [c] ∈ linesOf (y ++ l ++ [c]) := by
          rcases hy with rfl | ⟨u, rfl⟩
          · rw [List.nil_append, hline]
            exact List.mem_singleton_self _
          · rw [List.append_assoc, List.append_assoc, List.singleton_append, linesOf_append_feed,
              hline]
            exact List.mem_append_right _ (List.mem_singleton_self _)
        rw [not_blank_of_trim_concat (h _ hlast)] at hc
        cases hc

/-- **Trimming leaves trimmed lines as they are.** -/
theorem trimmedLines_trim (h : TrimmedLines t) : TrimmedLines (trim t) :=
  trimmedLines_trimEnd (trimmedLines_trimStart h)

theorem trimmedLines_joinLines (hfeed : ∀ l ∈ ls, '\n' ∉ l) (h : ∀ l ∈ ls, trim l = l) :
    TrimmedLines (joinLines ls) := by
  by_cases hne : ls = []
  · subst hne
    intro l hl
    rw [List.mem_singleton.1 hl]
    rfl
  · intro l hl
    rw [linesOf_joinLines hne hfeed] at hl
    exact h l hl

end Markdown

namespace Document

variable {d : Document} {id : Nat}

/-- Below a node that is no element there is no text. -/
theorem currentText_eq_nil (hleaf : ∀ id, d.children id ≠ [] → (d.node id).isElement = true)
    (h : (d.node id).isElement = false) : d.currentText id = [] := by
  have hnil : d.children id = [] := by
    by_contra hne
    rw [hleaf id hne] at h
    cases h
  rw [currentText_eq, hnil, List.flatMap_nil]

/-- **The layout adds blank space to the texts**, and nothing else. -/
theorem visible_spread (hleaf : ∀ id, d.children id ≠ [] → (d.node id).isElement = true)
    (hbreak : ∀ id, (d.node id).tag = "br" → d.children id = []) :
    ∀ id, visible (d.spread id) = visible (d.ownText id ++ d.currentText id) := by
  refine d.tree_induction fun id ih => ?_
  have hbelow : visible ((d.children id).flatMap d.spread) = visible (d.currentText id) := by
    rw [currentText_eq, visible_flatMap, visible_flatMap]
    exact List.flatMap_congr ih
  cases hdata : d.data id with
  | text t =>
    have hcurrent := currentText_eq_nil hleaf (by rw [Node.isElement, Node.data, node, hdata])
    rw [spread_text hdata, hcurrent, ownText, hdata, List.append_nil]
  | comment t =>
    have hcurrent := currentText_eq_nil hleaf (by rw [Node.isElement, Node.data, node, hdata])
    rw [spread_comment hdata, hcurrent, ownText, hdata, List.append_nil]
  | element tag attributes =>
    have hown : d.ownText id = [] := ownText_of_element (isElement_node.2 ⟨_, _, hdata⟩)
    have hfeed : ∀ t, visible ('\n' :: t) = visible t := fun t => visible_append ['\n'] t
    rw [hown, List.nil_append, ← hbelow]
    by_cases hbr : tag = "br"
    · subst hbr
      have hnil : d.children id = [] := hbreak id (by rw [Node.tag, Node.data, node, hdata])
      rw [spread_break hdata, hnil, List.flatMap_nil]
      rfl
    by_cases hblock : Tag.isBlock tag = true
    · rw [spread_block hdata hbr hblock, hfeed, visible_append, hfeed]
      exact List.append_nil _
    · rw [spread_inline hdata hbr hblock]

/-- **What can be seen of the two texts of a node.** The inner text shows the texts at and below
the node. So does its other text, unless the node is an element that remembers a text with other
visible characters. The lines of the inner text are trimmed, and no line break stands at its
ends. -/
theorem visible_innerText (hleaf : ∀ id, d.children id ≠ [] → (d.node id).isElement = true)
    (hbreak : ∀ id, (d.node id).tag = "br" → d.children id = []) (id : Nat) :
    let inner := (d.node id).innerText
    visible inner = visible (d.ownText id ++ d.currentText id) ∧
    (visible inner = visible (d.text id) ↔
      ((d.node id).isElement = true → ∀ t, d.remembered? id = some t →
        visible t = visible (d.currentText id))) ∧
    (∀ l ∈ Markdown.linesOf inner, trim l = l) ∧
    inner.head? ≠ some '\n' ∧ inner.getLast? ≠ some '\n' := by
  intro inner
  have hinner : visible inner = visible (d.ownText id ++ d.currentText id) := by
    rw [← visible_spread hleaf hbreak, ← flatten_words, ← flatten_words, Node.words_innerText]
    rfl
  refine ⟨hinner, ?_, ?_, ?_⟩
  · rw [hinner]
    cases helement : (d.node id).isElement with
    | false =>
      rw [text_of_not_element helement, currentText_eq_nil hleaf helement, List.append_nil]
      exact iff_of_true rfl fun h => absurd h Bool.false_ne_true
    | true =>
      rw [text_of_element helement, ownText_of_element helement, List.nil_append]
      cases d.remembered? id with
      | none => simp
      | some t => simp [eq_comm]
  · have hlines : ∀ l ∈ ((lines (Node.innerOnto d d.size [] id).reverse).map trim),
        '\n' ∉ l ∧ trim l = l := by
      intro l hl
      obtain ⟨l', hl', rfl⟩ := List.mem_map.1 hl
      exact ⟨fun h => Markdown.feed_not_mem_of_mem_lines hl' (mem_of_mem_trim h), trim_trim l'⟩
    exact Markdown.trimmedLines_trim (Markdown.trimmedLines_joinLines
      (fun l hl => (hlines l hl).1) fun l hl => (hlines l hl).2)
  · have hfeed : isBlank '\n' = true := by decide
    have hedges : inner = [] ∨ startsVisible inner = true ∧ endsVisible inner = true := trim_edges _
    rcases hedges with hnil | ⟨hstart, hend⟩
    · rw [hnil]
      exact ⟨nofun, nofun⟩
    · constructor
      · intro h
        rw [startsVisible, h, Option.any_some, hfeed] at hstart
        cases hstart
      · intro h
        rw [endsVisible, h, Option.any_some, hfeed] at hend
        cases hend

/-- Two paragraphs and a line break between them. -/
theorem visible_innerText_paragraphs :
    let log := [.element 0 "p" [], .text 1 " a ".toList, .element 0 "br" [], .element 0 "p" [],
      .text 4 "b".toList]
    let d := (Document.new "div" []).extendAll log
    (∀ id, d.children id ≠ [] → (d.node id).isElement = true) ∧
      (∀ id, (d.node id).tag = "br" → d.children id = []) ∧
      visible (d.node 0).innerText = "ab".toList ∧ d.text 0 = " a b".toList := by
  intro log d
  have hleaf : ∀ id, d.children id ≠ [] → (d.node id).isElement = true := by
    intro id hne
    match id with
    | 0 | 1 | 4 => rfl
    | 2 | 3 | 5 => exact absurd rfl hne
    | id + 6 => exact absurd (children_eq_nil_of_le (Nat.le_add_left _ _)) hne
  have hbreak : ∀ id, (d.node id).tag = "br" → d.children id = [] := by
    intro id htag
    match id with
    | 0 | 1 | 4 => exact absurd htag (by decide)
    | 2 | 3 | 5 => rfl
    | id + 6 => exact children_eq_nil_of_le (Nat.le_add_left _ _)
  obtain ⟨hinner, -⟩ := visible_innerText hleaf hbreak 0
  refine ⟨hleaf, hbreak, ?_, by decide⟩
  rw [hinner]
  decide

/-- **An element that was asked for its text before** answers with what it had then. -/
theorem visible_innerText_asked :
    let d := ((Document.new "div" []).askText 0).2.appendText 0 "x".toList
    (∀ id, d.children id ≠ [] → (d.node id).isElement = true) ∧
      (∀ id, (d.node id).tag = "br" → d.children id = []) ∧
      visible (d.node 0).innerText = "x".toList ∧ visible (d.text 0) = [] := by
  intro d
  refine ⟨fun id hne => ?_, fun id htag => ?_, by decide, by decide⟩
  · match id with
    | 0 => rfl
    | 1 => exact absurd rfl hne
    | id + 2 => exact absurd (children_eq_nil_of_le (Nat.le_add_left _ _)) hne
  · match id with
    | 0 => exact absurd htag (by decide)
    | 1 => rfl
    | id + 2 => exact children_eq_nil_of_le (Nat.le_add_left _ _)

end Document

end HtmlMarkdown
