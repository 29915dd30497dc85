import HtmlMarkdown.Proofs.Document.Order
import HtmlMarkdown.Proofs.Text.Words

/-!
# The words of the inner text

`innerText` begins a line at every block, but never two at once, and trims what it has. None of
that matters to the words: they are those of `spread`, where every block simply stands between two
line breaks.

* `Alike`: two texts have the same words, also whatever is put behind them.
* `words_innerText`: **the words of the inner text.**
-/

namespace HtmlMarkdown

namespace Text

variable {t u v : Text}

/-- The texts have the same words and go on in the same way. -/
def Alike (t u : Text) : Prop := words t = words u ∧ endsVisible t = endsVisible u

namespace Alike

theorem refl (t : Text) : Alike t t := ⟨rfl, rfl⟩

theorem trans (h : Alike t u) (h' : Alike u v) : Alike t v :=
  ⟨h.1.trans h'.1, h.2.trans h'.2⟩

/-- **Whatever is put behind them,** they have the same words. -/
theorem append (h : Alike t u) (v : Text) : Alike (t ++ v) (u ++ v) := by
  constructor
  · rw [words_append, words_append, meets, meets, h.1, h.2]
  · by_cases hv : v = []
    · rw [hv, List.append_nil, List.append_nil]
      exact h.2
    · rw [endsVisible_append t hv, endsVisible_append u hv]

/-- Behind a line break no second one is needed. -/
theorem freshLine {out : Text} (h : Alike out.reverse u) :
    Alike (Node.freshLine out).reverse (u ++ ['\n']) := by
  have hbreak : ∀ t, words (t ++ ['\n']) = words t := words_concat_blank (by decide)
  have hends : ∀ t, endsVisible (t ++ ['\n']) = false := fun t => endsVisible_concat t '\n'
  unfold Node.freshLine
  split
  · rename_i rest
    rw [List.reverse_cons] at h ⊢
    exact ⟨by rw [h.1, hbreak], by rw [hends, hends]⟩
  · rw [List.reverse_cons]
    exact h.append _

end Alike

end Text

namespace Document

open Text

variable {d : Document} {levels id : Nat}

/-- What a node makes of the texts of its children: a block puts line breaks around them. -/
def spreadNode (d : Document) (id : Nat) (parts : List Text) : Text :=
  match d.data id with
  | .text t => t
  | .comment _ => []
  | .element tag _ =>
    if tag = "br" then ['\n']
    else if Tag.isBlock tag then '\n' :: (parts.flatten ++ ['\n'])
    else parts.flatten

/-- **The text at and below a node**, every block between two line breaks. -/
def spread (d : Document) (id : Nat) : Text := d.fold d.spreadNode id

theorem spread_eq (d : Document) (id : Nat) :
    d.spread id = d.spreadNode id ((d.children id).map d.spread) := d.fold_eq _ id

theorem spread_text {t : Text} (h : d.data id = .text t) : d.spread id = t := by
  rw [spread_eq, spreadNode, h]

theorem spread_comment {t : Text} (h : d.data id = .comment t) : d.spread id = [] := by
  rw [spread_eq, spreadNode, h]

theorem spread_break {attributes : Attributes} (h : d.data id = .element "br" attributes) :
    d.spread id = ['\n'] := by
  rw [spread_eq, spreadNode, h]
  rfl

theorem spread_block {tag : String} {attributes : Attributes}
    (h : d.data id = .element tag attributes) (hbr : tag ≠ "br")
    (hblock : Tag.isBlock tag = true) :
    d.spread id = '\n' :: ((d.children id).flatMap d.spread ++ ['\n']) := by
  rw [spread_eq, spreadNode, h]
  simp only [if_neg hbr, if_pos hblock, List.flatMap]

theorem spread_inline {tag : String} {attributes : Attributes}
    (h : d.data id = .element tag attributes) (hbr : tag ≠ "br")
    (hblock : ¬ Tag.isBlock tag = true) :
    d.spread id = (d.children id).flatMap d.spread := by
  rw [spread_eq, spreadNode, h]
  simp only [if_neg hbr, if_neg hblock, List.flatMap]

/-- Along a row of nodes the text of each is put behind the others. -/
theorem foldl_innerOnto_alike {cs : List Nat}
    (h : ∀ c ∈ cs, ∀ out,
      Alike (Node.innerOnto d levels out c).reverse (out.reverse ++ d.spread c)) :
    ∀ out, Alike (cs.foldl (Node.innerOnto d levels) out).reverse
      (out.reverse ++ cs.flatMap d.spread) := by
  induction cs with
  | nil =>
    intro out
    rw [List.flatMap_nil, List.append_nil]
    exact Alike.refl _
  | cons c cs ih =>
    intro out
    have hrest := ih (fun c' hc' => h c' (List.mem_cons_of_mem _ hc'))
      (Node.innerOnto d levels out c)
    rw [List.foldl_cons, List.flatMap_cons, ← List.append_assoc]
    exact hrest.trans ((h c List.mem_cons_self out).append _)

theorem innerOnto_alike : ∀ (levels id : Nat), d.size ≤ id + levels → ∀ out,
    Alike (Node.innerOnto d levels out id).reverse (out.reverse ++ d.spread id) := by
  intro levels
  induction levels with
  | zero =>
    intro id h out
    have hsize : d.slots.size ≤ id := h
    have hdata : d.data id = .text [] := by
      unfold data
      rw [Array.getElem?_eq_none hsize]
      rfl
    rw [spread_text hdata, List.append_nil]
    exact Alike.refl _
  | succ levels ih =>
    intro id h out
    have hchildren : ∀ out,
        Alike ((d.children id).foldl (Node.innerOnto d levels) out).reverse
          (out.reverse ++ (d.children id).flatMap d.spread) :=
      foldl_innerOnto_alike fun c hc => ih c (by have := (mem_children.1 hc).lt; omega)
    unfold Node.innerOnto
    cases hd : d.data id with
    | text t =>
      simp only
      rw [spread_text hd, List.reverse_append, List.reverse_reverse]
      exact Alike.refl _
    | comment t =>
      rw [spread_comment hd, List.append_nil]
      exact Alike.refl _
    | element tag attributes =>
      simp only
      by_cases hbr : tag = "br"
      · subst hbr
        rw [if_pos rfl, spread_break hd, List.reverse_cons]
        exact Alike.refl _
      rw [if_neg hbr]
      by_cases hblock : Tag.isBlock tag = true
      · -- the line before the block is there already if nothing or a line break stands before it
        have hbefore : Alike (if out.isEmpty then out else Node.freshLine out).reverse
            (out.reverse ++ ['\n']) := by
          cases out with
          | nil => exact ⟨rfl, rfl⟩
          | cons c cs => exact (Alike.refl _).freshLine
        rw [if_pos hblock, spread_block hd hbr hblock]
        have hinside := (hchildren _).trans (hbefore.append ((d.children id).flatMap d.spread))
        have hblock' := hinside.freshLine
        simpa only [List.append_assoc, List.cons_append, List.nil_append] using hblock'
      · rw [if_neg hblock, spread_inline hd hbr hblock]
        exact hchildren out

end Document

namespace Node

open Text

variable {n : Node}

/-- The text at and below the node, every block between two line breaks. -/
def spread (n : Node) : Text := n.doc.spread n.id

theorem spread_text {t : Text} (h : n.data = .text t) : n.spread = t := Document.spread_text h

theorem spread_block {tag : String} {attributes : Attributes}
    (h : n.data = .element tag attributes) (hbr : tag ≠ "br") (hblock : Tag.isBlock tag = true) :
    n.spread = '\n' :: (n.children.flatMap spread ++ ['\n']) := by
  have hchildren : n.children.flatMap spread = (n.doc.children n.id).flatMap n.doc.spread := by
    unfold children
    rw [List.flatMap_map]
    rfl
  rw [hchildren]
  exact Document.spread_block h hbr hblock

/-- **The words of the inner text** are those of the texts, with every block between line breaks. -/
theorem words_innerText (n : Node) : words n.innerText = words n.spread := by
  have halike := Document.innerOnto_alike n.doc.size n.id (Nat.le_add_left _ _) []
  unfold innerText
  simp only
  rw [words_trim, words_joinLines, List.flatMap_map]
  simp only [words_trim]
  rw [words_lines]
  exact halike.1

end Node

end HtmlMarkdown
