import HtmlMarkdown.Proofs.Convert.Content
import HtmlMarkdown.Proofs.Document.Relatives
import HtmlMarkdown.Proofs.Markdown.Escaped
import HtmlMarkdown.Proofs.Markdown.QuoteLevel
import HtmlMarkdown.Proofs.Rule.Mail

/-!
# The level of a text in nested mail quotes

In mail two elements quote: a block quote marks the lines that are not quoted yet with its depth,
and a quoted division puts one more marker in front of every line (`quotedBy`). In a chain of them
around a text (`QuoteChain`) the innermost one comes first, and every block quote further out finds
its lines quoted already. So the level of the text is the number of divisions, with the depth of the
innermost element added if that is a block quote (`chainLevel`).

* `leveledLines_chain`: what a chain of quotes makes of unquoted lines.
* `convert_quote_level_iff`: **every element of the chain adds one level if and only if the text
  stands in a block quote or no element of the chain is one.**
-/

namespace HtmlMarkdown

open Markdown Text

namespace Convert

variable {o : Options} {n x top : Node} {cs inner : List Node} {r t : Text}

/-- The built-in rules, in mail. -/
def Setup.mail (o : Options) : Setup := ⟨.standard, o, true⟩

/-- Does the element quote what is in it? A block quote does, and a division that is marked as a
quoted reply and is no signature. -/
def IsQuoting (n : Node) : Prop :=
  n.tag = "blockquote" ∨
    (n.tag = "div" ∧ Rule.Mail.isSignature n = false ∧ Rule.Mail.isQuoted n = true)

/-- **Nested quotes around a text**: the outermost one and those inside, of which each holds the
next one alone, and the last one holds the text. -/
inductive QuoteChain (x : Node) : Node → List Node → Prop where
  | innermost {n : Node} : IsQuoting n → n.children = [x] → QuoteChain x n []
  | around {n c : Node} {cs : List Node} : IsQuoting n → n.children = [c] → QuoteChain x c cs →
      QuoteChain x n (c :: cs)

/-! ## One quote -/

/-- **What a quoting element makes of its content.** -/
def quotedBy (n : Node) (content : Text) : Text :=
  if n.tag = "blockquote" then quote (n.depthIn "blockquote" + 1) content else quoteAround content

theorem IsQuoting.tag_mem (h : IsQuoting n) : n.tag ∈ ["blockquote", "div"] := by
  rcases h with htag | ⟨htag, -⟩ <;> rw [htag] <;> decide

theorem IsQuoting.isOpen (h : IsQuoting n) : n.IsOpen := by
  have htags : ∀ tag ∈ ["blockquote", "div"], tag ≠ "" ∧ Tag.isIgnored tag = false := by decide
  obtain ⟨hne, hignored⟩ := htags _ h.tag_mem
  exact ⟨Node.isElement_of_tag rfl hne, hignored⟩

theorem finish_quoting (ho : o.preserveEmailQuotes = true) (h : IsQuoting n) (content : Text) :
    (Setup.mail o).finish ((Setup.mail o).ruleFor n.tag) n content = quotedBy n content := by
  have hrule : ∀ {tag rule}, Rule.Mail.rules.find? tag = some rule →
      (Setup.mail o).ruleFor tag = some rule := by
    intro tag rule hfind
    refine (Setup.ruleFor_builtin (lookup?_empty tag)).trans ?_
    rw [if_pos rfl, hfind]
    rfl
  unfold quotedBy
  rcases h with htag | ⟨htag, hsign, hquoted⟩
  · have hfind : Rule.Mail.rules.find? "blockquote" = some Rule.Mail.blockquote := by
      rw [Rule.Mail.find?_eq]
      rfl
    rw [htag, hrule hfind, if_pos rfl]
    have hkeep : (!o.preserveEmailQuotes && Rule.Mail.hasQuoteMarker n) = false := by
      rw [ho]
      rfl
    have haction : (Setup.mail o).finish (some Rule.Mail.blockquote) n content =
        if !o.preserveEmailQuotes && Rule.Mail.hasQuoteMarker n then []
        else Rule.blockQuote n content := rfl
    rw [haction, hkeep, Nat.add_comm]
    rfl
  · have hfind : Rule.Mail.rules.find? "div" = some Rule.Mail.division := by
      rw [Rule.Mail.find?_eq]
      rfl
    rw [htag, hrule hfind, if_neg (by decide)]
    have haction : (Setup.mail o).finish (some Rule.Mail.division) n content =
        if Rule.Mail.isSignature n then
          if o.handleEmailSignatures then wrap "\n\n---\n\n" "\n\n" content else []
        else if Rule.Mail.isQuoted n then
          if o.preserveEmailQuotes then quoteAround content else []
        else if Rule.Mail.isOutlookWrapper n then content
        else block content := rfl
    rw [haction, hsign, hquoted, ho]
    rfl

/-! ## A chain of quotes -/

/-- **A chain is rendered from the text outwards**, if there are levels enough for its elements. -/
theorem render_chain (ho : o.preserveEmailQuotes = true)
    (hx : ∀ levels, render (Setup.mail o) levels x = .ok r) (h : QuoteChain x n cs) :
    ∀ levels, (cs.length < levels →
        render (Setup.mail o) levels n = .ok ((n :: cs).foldr quotedBy r)) ∧
      (levels ≤ cs.length → render (Setup.mail o) levels n = .error (.tooDeep maxLevels)) := by
  induction h with
  | @innermost n hn hc =>
    intro levels
    cases levels with
    | zero => exact ⟨nofun, fun _ => render_bottom hn.isOpen⟩
    | succ k =>
      refine ⟨fun _ => ?_, nofun⟩
      rw [render_only hn.isOpen hc (hx k), finish_quoting ho hn]
      rfl
  | @around n c cs hn hc h ih =>
    intro levels
    cases levels with
    | zero => exact ⟨nofun, fun _ => render_bottom hn.isOpen⟩
    | succ k =>
      obtain ⟨hok, herror⟩ := ih k
      refine ⟨fun hlt => ?_, fun hle => ?_⟩
      · rw [render_only hn.isOpen hc (hok (Nat.lt_of_succ_lt_succ hlt)), finish_quoting ho hn]
        rfl
      · rw [render_element hn.isOpen, hc,
          renderOnto_cons_error (herror (Nat.le_of_succ_le_succ hle))]
        rfl

/-- The level of a text in a chain of quotes: one for every division, and the depth of the innermost
element if that is a block quote. -/
def chainLevel : Node → List Node → Nat
  | n, [] => if n.tag = "blockquote" then n.depthIn "blockquote" + 1 else 1
  | n, c :: cs => chainLevel c cs + if n.tag = "blockquote" then 0 else 1

theorem deepen_deepen (j k : Nat) (ls : List (Nat × Text)) :
    (ls.map (deepen j)).map (deepen k) = ls.map (deepen (j + k)) := by
  rw [List.map_map]
  refine List.map_congr_left fun line _ => ?_
  exact Prod.ext (Nat.add_assoc _ _ _) rfl

/-- **What a chain makes of unquoted lines**: they get the level of the chain, and a marker. -/
theorem leveledLines_chain (h : QuoteChain x n cs) (hr : Unmarked r) :
    AllMarked ((n :: cs).foldr quotedBy r) ∧
      leveledLines ((n :: cs).foldr quotedBy r) =
        (leveledLines r).map (deepen (chainLevel n cs)) := by
  induction h with
  | @innermost n hn hc =>
    rw [List.foldr_cons, List.foldr_nil, quotedBy, chainLevel]
    split
    · exact ⟨allMarked_quote (Nat.succ_pos _) r, leveledLines_quote hr⟩
    · exact ⟨allMarked_quoteAround r, leveledLines_quoteAround r⟩
  | @around n c cs hn hc h ih =>
    obtain ⟨hmarked, hlines⟩ := ih
    rw [List.foldr_cons, quotedBy, chainLevel]
    split
    · exact ⟨allMarked_quote (Nat.succ_pos _) _, (leveledLines_quote_marked hmarked).trans hlines⟩
    · rw [leveledLines_quoteAround, hlines, deepen_deepen]
      exact ⟨allMarked_quoteAround _, rfl⟩

/-- Is the node right inside a block quote? -/
def InBlockquote (x : Node) : Prop := ∃ p, x.parent? = some p ∧ p.tag = "blockquote"

/-- The level of a chain, by what its innermost element is. -/
theorem chainLevel_eq (h : QuoteChain x n cs) :
    (InBlockquote x → chainLevel n cs = n.depthIn "blockquote" + (n :: cs).length) ∧
      (¬ InBlockquote x → chainLevel n cs = (n :: cs).countP (·.tag ≠ "blockquote")) := by
  induction h with
  | @innermost n hn hc =>
    have hin : InBlockquote x ↔ n.tag = "blockquote" := by
      unfold InBlockquote
      rw [Node.parent?_child (n := n) (by rw [hc]; exact List.mem_cons_self)]
      simp
    rw [hin, chainLevel]
    refine ⟨fun htag => ?_, fun htag => ?_⟩
    · rw [if_pos htag, List.length_singleton]
    · rw [if_neg htag, List.countP_singleton]
      simp [htag]
  | @around n c cs hn hc h ih =>
    obtain ⟨hin, hout⟩ := ih
    rw [chainLevel]
    refine ⟨fun hx => ?_, fun hx => ?_⟩
    · have hdepth : c.depthIn "blockquote" = _ := Node.depthIn_child (n := n)
        (by rw [hc]; exact List.mem_cons_self)
      rw [hin hx, hdepth, List.length_cons, List.length_cons, List.length_cons]
      split <;> omega
    · rw [hout hx, List.countP_cons (a := n)]
      by_cases htag : n.tag = "blockquote" <;> simp [htag]

/-- **Which chains give every element a level.** -/
theorem chainLevel_eq_length_iff (h : QuoteChain x top inner)
    (htop : top.hasAncestor "blockquote" = false) :
    chainLevel top inner = (top :: inner).length ↔
      InBlockquote x ∨ ∀ n ∈ top :: inner, n.tag ≠ "blockquote" := by
  obtain ⟨hin, hout⟩ := chainLevel_eq h
  by_cases hx : InBlockquote x
  · rw [hin hx, Node.depthIn_eq_zero_iff.2 htop, Nat.zero_add]
    exact iff_of_true rfl (Or.inl hx)
  · rw [hout hx, List.countP_eq_length]
    simp [hx]

/-! ## The text in the chain -/

/-- **The lines of a text as they are written**: its own ones if white space is kept, and otherwise
a single one, escaped. -/
def ownLines (o : Options) (t : Text) : List Text :=
  if o.preserveWhitespace then bareLines t else [escape (trim (collapse t))]

theorem ownLines_ne_nil (o : Options) (ht : isBlankText t = false) : ownLines o t ≠ [] := by
  unfold ownLines
  split
  · unfold bareLines
    rw [Ne, List.map_eq_nil_iff, filled_eq_nil_iff, ht]
    exact Bool.false_ne_true
  · exact List.cons_ne_nil _ _

theorem QuoteChain.exists_innermost (h : QuoteChain x n cs) :
    ∃ p, IsQuoting p ∧ p.children = [x] := by
  induction h with
  | innermost hn hc => exact ⟨_, hn, hc⟩
  | around _ _ _ ih => exact ih

/-- The text in a chain is written line by line. -/
theorem bareLines_text (h : QuoteChain x n cs) (ht : isBlankText t = false) :
    bareLines (text x t o) = ownLines o t := by
  obtain ⟨p, hp, hc⟩ := h.exists_innermost
  cases ho : o.preserveWhitespace with
  | true =>
    unfold text ownLines
    rw [ho]
    rfl
  | false =>
    have hblock : ∀ tag ∈ ["blockquote", "div"], Tag.isBlock tag = true := by decide
    have hparent := Node.parent?_child (n := p) (by rw [hc]; exact List.mem_cons_self)
    have hsplit : p.children = [] ++ x :: [] := hc
    have hprev : x.prev? = none := Node.prev?_eq hsplit
    have hnext : x.next? = none := Node.next?_eq hsplit
    have hflat : text x t o = escape (trim (collapse t)) :=
      text_of_edges ho hparent (hblock _ hp.tag_mem) (by rw [hprev]; rfl) (by rw [hnext]; rfl) t
    obtain ⟨hfeed, hs, he⟩ := escape_line ht
    unfold ownLines
    rw [hflat, bareLines_line hfeed hs he, ho]
    rfl

/-- **The lines of the text get the level of the chain**, unless one of them starts as a quote. -/
theorem leveledLines_text (h : QuoteChain x n cs) (ht : isBlankText t = false)
    (hbare : ∀ l ∈ ownLines o t, l.head? ≠ some '>') :
    leveledLines ((n :: cs).foldr quotedBy (text x t o)) =
      (ownLines o t).map fun l => (chainLevel n cs, l) := by
  have hown := bareLines_text (o := o) h ht
  rw [← hown] at hbare
  have hunmarked := unmarked_iff.2 hbare
  rw [(leveledLines_chain h hunmarked).2, leveledLines_of_unmarked hunmarked, hown, List.map_map]
  refine List.map_congr_left fun l _ => ?_
  exact Prod.ext (Nat.zero_add _) rfl

/-- **Every element of a chain of quotes adds one level** to the lines of the text in it, if and
only if no line starts as a quote itself, and the text stands in a block quote or no element of the
chain is one. The chain is rendered as long as it is not too deep. -/
theorem convert_quote_level_iff (ho : o.preserveEmailQuotes = true) (h : QuoteChain x top inner)
    (htop : top.hasAncestor "blockquote" = false) (hx : x.data = .text t)
    (ht : isBlankText t = false) :
    ((top :: inner).length ≤ maxLevels → ∃ out, (Setup.mail o).convert top = .ok out) ∧
      ∀ out, (Setup.mail o).convert top = .ok out →
        (leveledLines out = (ownLines o t).map (fun l => ((top :: inner).length, l)) ↔
          (∀ l ∈ ownLines o t, l.head? ≠ some '>') ∧
            (InBlockquote x ∨ ∀ n ∈ top :: inner, n.tag ≠ "blockquote")) := by
  have hrender : ∀ levels, render (Setup.mail o) levels x = .ok (text x t o) :=
    fun _ => render_text hx
  obtain ⟨hok, herror⟩ := render_chain ho hrender h maxLevels
  rw [← convert_eq_render] at hok herror
  refine ⟨fun hle => ⟨_, hok hle⟩, fun out hout => ?_⟩
  have hlt : inner.length < maxLevels := by
    by_contra hge
    rw [herror (Nat.le_of_not_lt hge)] at hout
    cases hout
  rw [hok hlt] at hout
  cases hout
  rw [← chainLevel_eq_length_iff h htop]
  constructor
  · intro heq
    have hbare : ∀ l ∈ ownLines o t, l.head? ≠ some '>' := by
      intro l hl
      have hmem := List.mem_map_of_mem (f := fun l => ((top :: inner).length, l)) hl
      rw [← heq] at hmem
      exact head?_of_mem_leveledLines hmem
    rw [leveledLines_text h ht hbare] at heq
    obtain ⟨l, ls, hown⟩ := List.exists_cons_of_ne_nil (ownLines_ne_nil o ht)
    rw [hown] at heq
    exact ⟨hbare, (Prod.ext_iff.1 (List.cons.inj heq).1).1⟩
  · rintro ⟨hbare, hlevel⟩
    rw [leveledLines_text h ht hbare, hlevel]

/-! ## Two chains of two -/

/-- A quoted division with a block quote in it. -/
def replyOutside : Document :=
  Document.ofRoot "div" [("class", "gmail_quote")] [.element "blockquote" [] [.text "a"]]

/-- A block quote with a quoted division in it. -/
def replyInside : Document :=
  Document.ofRoot "blockquote" [] [.element "div" [("class", "gmail_quote")] [.text "a"]]

/-- The block quote marks the text, and the division puts its marker before that. -/
theorem convert_quote_level_iff_outside :
    ({} : Options).preserveEmailQuotes = true ∧
      QuoteChain (replyOutside.node 2) replyOutside.root [replyOutside.node 1] ∧
      replyOutside.root.hasAncestor "blockquote" = false ∧
      (Setup.mail {}).convert replyOutside.root = .ok "\n> > a\n\n" ∧
      (leveledLines "\n> > a\n\n" = (ownLines {} "a").map (fun l => (2, l)) ↔
        (∀ l ∈ ownLines {} "a", l.head? ≠ some '>') ∧
          (InBlockquote (replyOutside.node 2) ∨
            ∀ n ∈ [replyOutside.root, replyOutside.node 1], n.tag ≠ "blockquote")) := by
  have hchain : QuoteChain (replyOutside.node 2) replyOutside.root [replyOutside.node 1] :=
    .around (Or.inr ⟨rfl, by decide, by decide⟩) rfl (.innermost (Or.inl rfl) rfl)
  have hout : (Setup.mail {}).convert replyOutside.root = .ok "\n> > a\n\n" := by
    rw [convert_eq_render,
      (render_chain rfl (fun _ => render_text rfl) hchain maxLevels).1 (by decide)]
    rfl
  exact ⟨rfl, hchain, rfl, hout, (convert_quote_level_iff rfl hchain rfl rfl rfl).2 _ hout⟩

/-- The division puts a marker before the text, and the block quote finds it quoted already. -/
theorem convert_quote_level_inside :
    QuoteChain (replyInside.node 2) replyInside.root [replyInside.node 1] ∧
      replyInside.root.hasAncestor "blockquote" = false ∧
      (Setup.mail {}).convert replyInside.root = .ok "\n> a\n\n" ∧
      leveledLines "\n> a\n\n" ≠ (ownLines {} "a").map (fun l => (2, l)) := by
  have hchain : QuoteChain (replyInside.node 2) replyInside.root [replyInside.node 1] :=
    .around (Or.inl rfl) rfl (.innermost (Or.inr ⟨rfl, by decide, by decide⟩) rfl)
  refine ⟨hchain, rfl, ?_, by decide⟩
  rw [convert_eq_render,
    (render_chain rfl (fun _ => render_text rfl) hchain maxLevels).1 (by decide)]
  rfl

end Convert

end HtmlMarkdown
