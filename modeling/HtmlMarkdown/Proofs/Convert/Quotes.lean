import HtmlMarkdown.Proofs.Convert.PlainLayout
import HtmlMarkdown.Proofs.Document.Relatives
import HtmlMarkdown.Proofs.Markdown.Escaped
import HtmlMarkdown.Proofs.Markdown.Quoted

/-!
# The lines of nested quotes

Every quote reads the rendered lines of what is in it and marks those that are not quoted yet with
its own depth, so a line is marked once, by the innermost quote around its text. In a tree of quotes
and paragraphs (`Node.IsQuotes`) each text has a line of its own as long as something is said
between it and the next text; a paragraph or a quote that says nothing writes nothing either, and
the texts on its two sides run together.

* `ownLine?`, `quotedLine?`: the line of a text, bare and behind the markers of its depth.
* `Leads`, `Meet`: which texts of a row of nodes run together.
* `QuotesOut`, `RowOut`: what a node, and a row of nodes, leaves behind.
* `convert_quote_lines_iff`: **the lines of the output are those of the texts if and only if no two
  texts meet.**
-/

namespace HtmlMarkdown

open Document

/-- **A tree of quotes and paragraphs** with texts and comments in them, where a text has no text
and no comment beside it. -/
structure Node.IsQuotes (n : Node) : Prop where
  tag_mem : ∀ m ∈ n :: n.descendants, m.isElement = true → m.tag ∈ ["blockquote", "p"]
  bare : ∀ m ∈ n :: n.descendants, m.isElement = false → m.children = []
  apart : ∀ m ∈ n :: n.descendants, m.isText = true →
    m.prev?.all Node.isElement = true ∧ m.next?.all Node.isElement = true

namespace Node.IsQuotes

variable {n c : Node}

theorem child (h : n.IsQuotes) (hc : c ∈ n.children) : c.IsQuotes := by
  have hmem : ∀ m ∈ c :: c.descendants, m ∈ n :: n.descendants :=
    fun m hm => mem_subtree_trans (mem_subtree_child hc) hm
  exact ⟨fun m hm => h.tag_mem m (hmem m hm), fun m hm => h.bare m (hmem m hm),
    fun m hm => h.apart m (hmem m hm)⟩

theorem tag_self (h : n.IsQuotes) (he : n.isElement = true) : n.tag ∈ ["blockquote", "p"] :=
  h.tag_mem n List.mem_cons_self he

theorem isOpen (h : n.IsQuotes) (he : n.isElement = true) : n.IsOpen := by
  have hignored : ∀ tag ∈ ["blockquote", "p"], Tag.isIgnored tag = false := by decide
  exact ⟨he, hignored _ (h.tag_self he)⟩

theorem isInline_eq (h : n.IsQuotes) : Convert.isInline n = false := by
  have hinline : ∀ tag ∈ ["blockquote", "p"], Tag.isInline tag = false := by decide
  unfold Convert.isInline
  cases he : n.isElement with
  | false => rfl
  | true => rw [hinline _ (h.tag_self he), Bool.and_false]

/-- Beside a text there is nothing, or a block. -/
theorem atEdge_of_sibling {s : Option Node} (h : n.IsQuotes) (hs : ∀ m ∈ s, m ∈ n.children)
    (he : s.all Node.isElement = true) : Convert.atEdge s = true := by
  have hblock : ∀ tag ∈ ["blockquote", "p"], Tag.isBlock tag = true := by decide
  cases s with
  | none => rfl
  | some m => exact hblock _ ((h.child (hs m rfl)).tag_self he)

end Node.IsQuotes

namespace Convert

open Markdown Text

/-! ## The lines of texts -/

/-- **What a text says**, on one line and escaped. A blank text says nothing. -/
def ownLine? (n : Node) : Option Text :=
  match n.data with
  | .text t => if isBlankText t then none else some (escape (trim (collapse t)))
  | _ => none

/-- **The line of a text that is not blank**: a marker for every quote above it, and what it
says. -/
def quotedLine? (n : Node) : Option Text :=
  (ownLine? n).map fun line => List.replicate (n.depthIn "blockquote") '>' ++ ' ' :: line

/-- The line of a text within the quotes above a place. It has no marker yet if there are no others
above the text. -/
def lineWithin? (base : Nat) (n : Node) : Option Text :=
  if n.depthIn "blockquote" = base then ownLine? n else quotedLine? n

/-- The lines of the texts at and below a node. -/
def linesWithin (base : Nat) (n : Node) : List Text :=
  (n :: n.descendants).filterMap (lineWithin? base)

/-- No text at or below the node says anything. -/
def Silent (n : Node) : Prop := ∀ m ∈ n :: n.descendants, ownLine? m = none

/-- The first of the nodes that is not silent is a text. -/
inductive Leads : List Node → Prop where
  | text {t : Node} {after : List Node} : (ownLine? t).isSome → Leads (t :: after)
  | behind {c : Node} {after : List Node} : Silent c → Leads after → Leads (c :: after)

/-- **Two texts of a row of nodes meet**: both say something, and nothing is said between them. -/
inductive Meet : List Node → Prop where
  | here {t : Node} {after : List Node} : (ownLine? t).isSome → Leads after → Meet (t :: after)
  | later {c : Node} {after : List Node} : Meet after → Meet (c :: after)

variable {n p c m : Node} {l r t u : Text} {rs : List Text} {cs : List Node} {base levels : Nat}

/-- What a text says is a line that starts and ends visibly, and not as a quote. -/
theorem ownLine_spec (h : ownLine? n = some l) :
    '\n' ∉ l ∧ endsVisible l = true ∧ StartsUnquoted l := by
  unfold ownLine? at h
  split at h
  · rename_i t ht
    split at h
    · cases h
    · rename_i hblank
      cases h
      obtain ⟨hfeed, hs, he⟩ := escape_line (Bool.eq_false_iff.2 hblank)
      refine ⟨hfeed, he, ?_⟩
      cases hl : escape (trim (collapse t)) with
      | nil =>
        rw [hl] at hs
        cases hs
      | cons c cs =>
        rw [hl] at hs
        refine ⟨c, cs, rfl, by simpa using hs, ?_⟩
        -- a marker at the start of a text is escaped
        rintro rfl
        have hmarker := head?_escape_ne_marker (congrArg List.head? hl)
        revert hmarker
        decide
  · cases h

theorem ownLine?_eq_none (h : ∀ t, n.data ≠ .text t) : ownLine? n = none := by
  unfold ownLine?
  split
  · rename_i t ht
    exact absurd ht (h t)
  · rfl

theorem ownLine?_element (h : n.isElement = true) : ownLine? n = none := by
  refine ownLine?_eq_none fun t ht => ?_
  rw [Node.isElement, ht] at h
  cases h

theorem lineWithin?_eq_none (h : ownLine? n = none) : lineWithin? base n = none := by
  unfold lineWithin? quotedLine?
  rw [h]
  exact ite_self _

theorem lineWithin?_isSome : (lineWithin? base n).isSome = (ownLine? n).isSome := by
  unfold lineWithin? quotedLine?
  split <;> simp

/-- **A silent node is expected to leave no line.** -/
theorem linesWithin_eq_nil_iff : linesWithin base n = [] ↔ Silent n := by
  unfold linesWithin Silent
  rw [List.filterMap_eq_nil_iff]
  refine forall₂_congr fun m _ => ?_
  rw [← Option.not_isSome_iff_eq_none, lineWithin?_isSome, Option.not_isSome_iff_eq_none]

theorem linesWithin_element (h : n.isElement = true) :
    linesWithin base n = n.children.flatMap (linesWithin base) := by
  unfold linesWithin
  rw [List.filterMap_cons_none (lineWithin?_eq_none (ownLine?_element h)), Node.descendants_eq,
    List.filterMap_flatMap]

theorem linesWithin_leaf (h : n.children = []) :
    linesWithin base n = (lineWithin? base n).toList := by
  unfold linesWithin
  rw [Node.descendants_eq, h, List.flatMap_nil, List.filterMap_cons, List.filterMap_nil]
  cases lineWithin? base n <;> rfl

/-! ## The depth of a quote -/

/-- **A quote marks a text that no deeper one has marked**, and leaves the others. -/
theorem lineWithin?_quote (h : base + 1 ≤ n.depthIn "blockquote") :
    lineWithin? base n = (lineWithin? (base + 1) n).map (quoteLine (base + 1)) := by
  have hbase : n.depthIn "blockquote" ≠ base := by omega
  unfold lineWithin? quotedLine?
  rw [if_neg hbase]
  cases hline : ownLine? n with
  | none => split <;> rfl
  | some l =>
    obtain ⟨-, -, hstart⟩ := ownLine_spec hline
    -- the innermost quote of a text marks it, and the marker keeps the others off
    split
    · rename_i hdepth
      rw [Option.map_some, Option.map_some, quoteLine_unquoted hstart, hdepth]
    · obtain ⟨k, hk⟩ : ∃ k, n.depthIn "blockquote" = k + 1 := ⟨n.depthIn "blockquote" - 1, by omega⟩
      rw [Option.map_some, Option.map_some, hk, List.replicate_succ, List.cons_append,
        quoteLine_quoted]

theorem linesWithin_quote (h : base + 1 ≤ n.depthIn "blockquote") :
    linesWithin base n = (linesWithin (base + 1) n).map (quoteLine (base + 1)) := by
  unfold linesWithin
  rw [List.map_filterMap]
  refine List.filterMap_congr fun m hm => ?_
  exact lineWithin?_quote (h.trans (Node.depthIn_le hm))

/-! ## Rows of nodes -/

/-- Two texts meet somewhere at or below the node. -/
def MeetsBelow (n : Node) : Prop := ∃ m ∈ n :: n.descendants, Meet m.children

theorem Meet.exists_text (h : Meet cs) : ∃ t ∈ cs, (ownLine? t).isSome := by
  induction h with
  | @here t _ ht _ => exact ⟨t, List.mem_cons_self, ht⟩
  | later _ ih =>
    obtain ⟨t, hmem, ht⟩ := ih
    exact ⟨t, List.mem_cons_of_mem _ hmem, ht⟩

/-- Where nothing is said no texts meet. -/
theorem Silent.not_meetsBelow (h : Silent n) : ¬ MeetsBelow n := by
  rintro ⟨m, hm, hmeet⟩
  obtain ⟨t, ht, hsome⟩ := hmeet.exists_text
  rw [h t (Node.mem_subtree_trans hm (Node.mem_subtree_child ht))] at hsome
  cases hsome

theorem not_meetsBelow_leaf (h : n.children = []) : ¬ MeetsBelow n := by
  rintro ⟨m, hm, hmeet⟩
  rw [Node.descendants_eq, h, List.flatMap_nil, List.mem_singleton] at hm
  rw [hm, h] at hmeet
  cases hmeet

theorem meetsBelow_iff : MeetsBelow n ↔ (∃ c ∈ n.children, MeetsBelow c) ∨ Meet n.children := by
  unfold MeetsBelow
  rw [Node.descendants_eq, List.exists_mem_cons_iff, or_comm]
  simp only [List.mem_flatMap]
  constructor
  · rintro (⟨m, ⟨c, hc, hm⟩, hmeet⟩ | hmeet)
    · exact Or.inl ⟨c, hc, m, hm, hmeet⟩
    · exact Or.inr hmeet
  · rintro (⟨c, hc, m, hm, hmeet⟩ | hmeet)
    · exact Or.inl ⟨m, ⟨c, hc, hm⟩, hmeet⟩
    · exact Or.inr hmeet

/-- A text comes first, or it is behind what is silent. -/
theorem leads_cons_iff :
    Leads (c :: cs) ↔ (ownLine? c).isSome ∨ (Silent c ∧ Leads cs) := by
  constructor
  · intro h
    cases h with
    | text hc => exact Or.inl hc
    | behind hc hcs => exact Or.inr ⟨hc, hcs⟩
  · rintro (hc | ⟨hc, hcs⟩)
    · exact Leads.text hc
    · exact Leads.behind hc hcs

theorem meet_cons_iff :
    Meet (c :: cs) ↔ ((ownLine? c).isSome ∧ Leads cs) ∨ Meet cs := by
  constructor
  · intro h
    cases h with
    | here hc hcs => exact Or.inl ⟨hc, hcs⟩
    | later hcs => exact Or.inr hcs
  · rintro (⟨hc, hcs⟩ | hcs)
    · exact Meet.here hc hcs
    · exact Meet.later hcs

/-- **What an element leaves behind**: the lines of its texts, between line breaks. -/
structure QuotesOut (n : Node) (r : Text) : Prop where
  merges : Merges (MeetsBelow n) (contents r) (linesWithin (n.depthIn "blockquote") n)
  neat : Neat r
  opens : Opens r
  ends : Ends r
  silent : Silent n → r = []

/-- What a node of a row leaves behind. -/
inductive Piece : Node → Text → Prop where
  | silent {c : Node} : Silent c → Piece c []
  | text {c : Node} {l : Text} : ownLine? c = some l → c.children = [] → Piece c l
  | element {c : Node} {r : Text} : ownLine? c = none → ¬ Silent c → QuotesOut c r → Piece c r

/-- **What a row of nodes leaves behind**: the lines of its texts, of which the first starts the row
or is behind a line break. -/
structure RowOut (base : Nat) (cs : List Node) (u : Text) : Prop where
  merges : Merges ((∃ c ∈ cs, MeetsBelow c) ∨ Meet cs) (contents u)
    (cs.flatMap (linesWithin base))
  neat : Neat u
  silent : (∀ c ∈ cs, Silent c) → u = []
  start : (Leads cs ∧ StartsUnquoted u) ∨ (¬ Leads cs ∧ Opens u)

namespace RowOut

theorem nil : RowOut base [] [] where
  merges := Merges.nil.congr (by
    refine iff_of_false not_false ?_
    rintro (⟨c, hc, -⟩ | h)
    · cases hc
    · cases h)
  neat := Neat.nil
  silent _ := rfl
  start := Or.inr ⟨(by intro h; cases h), Or.inl rfl⟩

/-- A silent node leaves no trace. -/
theorem cons_silent (hc : Silent c) (h : RowOut base cs u) : RowOut base (c :: cs) u := by
  have hline : ownLine? c = none := hc c List.mem_cons_self
  have hleads : Leads (c :: cs) ↔ Leads cs := by simp [leads_cons_iff, hline, hc]
  have hmeet : Meet (c :: cs) ↔ Meet cs := by simp [meet_cons_iff, hline]
  refine ⟨?_, h.neat, fun hcs => h.silent fun c' hc' => hcs c' (List.mem_cons_of_mem _ hc'), ?_⟩
  · rw [List.flatMap_cons, linesWithin_eq_nil_iff.2 hc, List.nil_append]
    refine h.merges.congr ?_
    rw [hmeet, List.exists_mem_cons_iff]
    simp [hc.not_meetsBelow]
  · rw [hleads]
    exact h.start

/-- An element has its own lines. -/
theorem cons_element (hline : ownLine? c = none) (hc : ¬ Silent c) (hr : QuotesOut c r)
    (hdepth : c.depthIn "blockquote" = base) (h : RowOut base cs u) :
    RowOut base (c :: cs) (r ++ u) := by
  have hleads : ¬ Leads (c :: cs) := by simp [leads_cons_iff, hline, hc]
  have hmeet : Meet (c :: cs) ↔ Meet cs := by simp [meet_cons_iff, hline]
  have hne : r ≠ [] := by
    rintro rfl
    exact hc (linesWithin_eq_nil_iff.1 (hr.merges.eq_nil_iff.1 rfl))
  refine ⟨?_, Neat.append_of_filled (filled_append_of_ends hr.ends u) hr.neat h.neat,
    fun hcs => absurd (hcs c List.mem_cons_self) hc, Or.inr ⟨hleads, ?_⟩⟩
  · rw [contents_append_of_ends hr.ends, List.flatMap_cons, ← hdepth]
    refine (hr.merges.append (by rw [hdepth]; exact h.merges)).congr ?_
    rw [hmeet, List.exists_mem_cons_iff, or_assoc]
  · obtain ⟨v, hv⟩ := hr.opens.resolve_left hne
    exact Or.inr ⟨v ++ u, by rw [hv]; rfl⟩

/-- **A text has a line of its own, unless the row goes on with another text.** -/
theorem cons_text (hline : ownLine? c = some l) (hnone : c.children = [])
    (hdepth : c.depthIn "blockquote" = base) (h : RowOut base cs u) :
    RowOut base (c :: cs) (l ++ u) := by
  obtain ⟨hfeed, hend, hstart⟩ := ownLine_spec hline
  have hleads : Leads (c :: cs) := Leads.text (by rw [hline]; rfl)
  have hmeet : Meet (c :: cs) ↔ Leads cs ∨ Meet cs := by simp [meet_cons_iff, hline]
  have hbelow : (∃ c' ∈ c :: cs, MeetsBelow c') ↔ ∃ c' ∈ cs, MeetsBelow c' := by
    rw [List.exists_mem_cons_iff]
    simp [not_meetsBelow_leaf hnone]
  have hlines : linesWithin base c = [l] := by
    rw [linesWithin_leaf hnone, lineWithin?, if_pos hdepth, hline]
    rfl
  refine ⟨?_, ?_, fun hcs => ?_, Or.inl ⟨hleads, hstart.append u⟩⟩
  · rw [List.flatMap_cons, hlines, List.singleton_append, hbelow, hmeet]
    -- either another text goes on in this line, or a line break ends it
    rcases h.start with ⟨hlead, hu⟩ | ⟨hlead, hopens⟩
    · obtain ⟨hpos, hlength⟩ := contents_run hfeed hstart hu
      exact h.merges.lost (by omega) hlength l (Or.inr (Or.inl hlead))
    · have hown : contents l = [l] := by
        unfold contents
        rw [linesOf_line hfeed, List.filter_cons_of_pos hstart.isContent, List.filter_nil]
      have hself : Merges False [l] [l] := Or.inl ⟨rfl, not_false⟩
      rw [contents_append_of_opens hopens, hown]
      refine (hself.append h.merges).congr ?_
      rw [false_or]
      simp [hlead]
  · rcases h.start with ⟨-, hu⟩ | ⟨-, hopens⟩
    · exact Neat.run hfeed hstart hu h.neat
    · exact Neat.append_of_filled (filled_append_of_opens hopens _)
        (Neat.line hfeed hstart.visible hend) h.neat
  · have hnoline := hcs c List.mem_cons_self c List.mem_cons_self
    rw [hline] at hnoline
    cases hnoline

end RowOut

/-- **A row of nodes leaves its lines behind.** -/
theorem row_out (hdepth : ∀ c ∈ cs, c.depthIn "blockquote" = base)
    (h : List.Forall₂ Piece cs rs) : RowOut base cs rs.flatten := by
  induction h with
  | nil => exact RowOut.nil
  | @cons c r cs rs hpiece _ ih =>
    have hrest := ih fun c' hc' => hdepth c' (List.mem_cons_of_mem _ hc')
    have hc := hdepth c List.mem_cons_self
    rw [List.flatten_cons]
    cases hpiece with
    | silent hs => exact RowOut.cons_silent hs hrest
    | text hline hnone => exact RowOut.cons_text hline hnone hc hrest
    | element hline hs hr => exact RowOut.cons_element hline hs hr hc hrest

/-! ## One node -/

theorem Silent.child (h : Silent n) (hc : c ∈ n.children) : Silent c :=
  fun m hm => h m (Node.mem_subtree_trans (Node.mem_subtree_child hc) hm)

theorem silent_leaf (hnone : n.children = []) (hline : ownLine? n = none) : Silent n := by
  intro m hm
  rw [Node.descendants_eq, hnone, List.flatMap_nil, List.mem_singleton] at hm
  rwa [hm]

/-- A paragraph has the lines of what is in it. -/
theorem quotesOut_paragraph (htag : n.tag = "p")
    (h : RowOut (n.depthIn "blockquote") n.children u) : QuotesOut n (separated u) := by
  have he : n.isElement = true := Node.isElement_of_tag htag (by decide)
  obtain ⟨hcontents, hneat⟩ := contents_separated h.neat
  refine ⟨?_, hneat, opens_separated u, ends_separated u, fun hs => ?_⟩
  · rw [hcontents, linesWithin_element he]
    exact h.merges.congr meetsBelow_iff.symm
  · rw [h.silent fun c hc => hs.child hc, separated_nil]

/-- **A quote has them too**, and marks those that are not quoted yet. -/
theorem quotesOut_quote (htag : n.tag = "blockquote")
    (h : RowOut (n.depthIn "blockquote" + 1) n.children u) :
    QuotesOut n (quote (n.depthIn "blockquote" + 1) u) := by
  have he : n.isElement = true := Node.isElement_of_tag htag (by decide)
  obtain ⟨hcontents, hneat⟩ := contents_quote (Nat.succ_pos _) h.neat
  refine ⟨?_, hneat, opens_quote _ u, ends_quote _ u, fun hs => ?_⟩
  · have hlines : linesWithin (n.depthIn "blockquote") n =
        (n.children.flatMap (linesWithin (n.depthIn "blockquote" + 1))).map
          (quoteLine (n.depthIn "blockquote" + 1)) := by
      rw [linesWithin_element he, List.map_flatMap]
      refine List.flatMap_congr fun c hc => linesWithin_quote ?_
      rw [Node.depthIn_child hc, if_pos htag]
    rw [hcontents, hlines]
    exact (h.merges.map _).congr meetsBelow_iff.symm
  · rw [h.silent fun c hc => hs.child hc]
    exact quote_of_trim_nil rfl

theorem finish_blockquote (n : Node) (content : Text) :
    Setup.plain.finish (Setup.plain.ruleFor "blockquote") n content =
      quote (n.depthIn "blockquote" + 1) content := by
  rw [Setup.ruleFor_plain, Rule.General.find?_blockquote, Nat.add_comm]
  rfl

theorem finish_p (n : Node) (content : Text) :
    Setup.plain.finish (Setup.plain.ruleFor "p") n content = separated content := by
  rw [Setup.ruleFor_plain, Rule.General.find?_paragraph, Setup.finish_paragraph]

/-- A text fills its place between two blocks. -/
theorem text_in_quotes (hp : p.IsQuotes) (hopen : p.isElement = true) (hc : c ∈ p.children)
    (hdata : c.data = .text t) :
    Convert.text c t Setup.plain.options = escape (trim (collapse t)) := by
  have hblock : ∀ tag ∈ ["blockquote", "p"], Tag.isBlock tag = true := by decide
  have hapart := hp.apart c (Node.mem_subtree_child hc) (by rw [Node.isText, hdata])
  obtain ⟨ahead, behind, hsplit⟩ := List.append_of_mem hc
  have hprev := Node.prev?_eq hsplit
  have hnext := Node.next?_eq hsplit
  refine text_of_edges rfl (Node.parent?_child hc) (hblock _ (hp.tag_self hopen))
    (hp.atEdge_of_sibling (fun m hm => ?_) hapart.1)
    (hp.atEdge_of_sibling (fun m hm => ?_) hapart.2) t
  · rw [hprev] at hm
    rw [hsplit]
    exact List.mem_append_left _ (List.mem_of_getLast? hm)
  · rw [hnext] at hm
    rw [hsplit]
    exact List.mem_append_right _ (List.mem_cons_of_mem _ (List.mem_of_head? hm))

/-- What is rendered of a child. -/
theorem piece_of_child (hp : p.IsQuotes) (hopen : p.isElement = true) (hc : c ∈ p.children)
    (hr : render Setup.plain levels c = .ok r)
    (ih : c.isElement = true → QuotesOut c r) : Piece c r := by
  have hnone : c.isElement = false → c.children = [] :=
    (hp.child hc).bare c List.mem_cons_self
  cases hd : c.data with
  | element tag attributes =>
    have he : c.isElement = true := by rw [Node.isElement, hd]
    by_cases hs : Silent c
    · rw [(ih he).silent hs]
      exact Piece.silent hs
    · exact Piece.element (ownLine?_element he) hs (ih he)
  | comment t =>
    rw [render_comment hd] at hr
    cases hr
    refine Piece.silent (silent_leaf (hnone (by rw [Node.isElement, hd])) ?_)
    rw [ownLine?, hd]
  | text t =>
    rw [render_text hd, text_in_quotes hp hopen hc hd] at hr
    cases hr
    have hleaf := hnone (by rw [Node.isElement, hd])
    by_cases hblank : isBlankText t = true
    · rw [trim_collapse_eq_nil_iff.2 hblank]
      refine Piece.silent (silent_leaf hleaf ?_)
      rw [ownLine?, hd]
      exact if_pos hblank
    · refine Piece.text ?_ hleaf
      rw [ownLine?, hd]
      exact if_neg hblank

/-- **Every element of a tree of quotes** leaves its lines behind. -/
theorem quotes_out : ∀ (levels : Nat) (n : Node) (out : Text),
    render Setup.plain levels n = .ok out → n.IsQuotes → n.isElement = true →
      QuotesOut n out := by
  apply render_induction
  · intro levels n out hopen _ hn he
    exact absurd (hn.isOpen he) hopen
  · intro levels n j hopen ih hrow hn he
    obtain ⟨rs, hrs, hout⟩ := renderOnto_blocks (fun c hc => (hn.child hc).isInline_eq) hrow
    have hpieces : List.Forall₂ Piece n.children rs :=
      forall₂_imp_mem (fun c hc r hr => piece_of_child hn he hc hr (ih c hc r hr (hn.child hc)))
        hrs
    have hdepth : ∀ c ∈ n.children, c.depthIn "blockquote" = _ := fun c hc => Node.depthIn_child hc
    have hrowOut := row_out hdepth hpieces
    rw [hout]
    change QuotesOut n (Setup.plain.finish (Setup.plain.ruleFor n.tag) n rs.flatten)
    have htag := hn.tag_self he
    simp only [List.mem_cons, List.not_mem_nil, or_false] at htag
    rcases htag with htag | htag
    · rw [if_pos htag] at hrowOut
      rw [htag, finish_blockquote]
      exact quotesOut_quote htag hrowOut
    · rw [if_neg (by rw [htag]; decide), Nat.add_zero] at hrowOut
      rw [htag, finish_p]
      exact quotesOut_paragraph htag hrowOut

/-! ## Documents -/

/-- All texts at and below the node are quoted. -/
def AllQuoted (n : Node) : Prop :=
  ∀ m ∈ n :: n.descendants, m.isText = true → m.hasAncestor "blockquote" = true

/-- Where all texts are quoted they are expected behind their markers. -/
theorem linesWithin_zero (h : AllQuoted n) :
    linesWithin 0 n = (n :: n.descendants).filterMap quotedLine? := by
  refine List.filterMap_congr fun m hm => ?_
  unfold lineWithin?
  split
  · rename_i hdepth
    have hline : ownLine? m = none := by
      refine ownLine?_eq_none fun t ht => ?_
      have habove := h m hm (by rw [Node.isText, ht])
      rw [Node.depthIn_eq_zero_iff.1 hdepth] at habove
      cases habove
    rw [quotedLine?, hline]
    rfl
  · rfl

/-- What a conversion leaves of a tree whose top is no text. -/
theorem render_merges {out : Text} (hn : n.IsQuotes) (htext : ∀ t, n.data ≠ .text t)
    (hout : render Setup.plain levels n = .ok out) :
    Merges (MeetsBelow n) (contents out) (linesWithin (n.depthIn "blockquote") n) := by
  cases hd : n.data with
  | element tag attributes =>
    exact (quotes_out levels n out hout hn (by rw [Node.isElement, hd])).merges
  | text t => exact absurd hd (htext t)
  | comment t =>
    have hnone := hn.bare n List.mem_cons_self (by rw [Node.isElement, hd])
    rw [render_comment hd] at hout
    cases hout
    rw [contents_nil, linesWithin_eq_nil_iff.2 (silent_leaf hnone (ownLine?_eq_none htext))]
    exact Merges.nil.congr (iff_of_false not_false (not_meetsBelow_leaf hnone))

/-- **The lines of nested quotes.** In a tree of quotes and paragraphs where all texts are quoted,
with default options and outside of mail, the lines of the output that say something are those of
the texts that are not blank, in document order and each behind one marker for every quote above
it, if and only if no two texts of an element meet. -/
theorem convert_quote_lines_iff (hn : n.IsQuotes) (htop : n.hasAncestor "blockquote" = false)
    (hquoted : AllQuoted n) {out : Text} (hout : Setup.plain.convert n = .ok out) :
    contents out = (n :: n.descendants).filterMap quotedLine? ↔
      ∀ m ∈ n :: n.descendants, ¬ Meet m.children := by
  have htext : ∀ t, n.data ≠ .text t := by
    intro t ht
    have habove := hquoted n List.mem_cons_self (by rw [Node.isText, ht])
    rw [htop] at habove
    cases habove
  rw [convert_eq_render] at hout
  have hmerges := render_merges hn htext hout
  rw [Node.depthIn_eq_zero_iff.2 htop] at hmerges
  rw [← linesWithin_zero hquoted, hmerges.eq_iff, MeetsBelow]
  push Not
  rfl

/-- A quote with a paragraph, and with a quote in which a text stands before a paragraph. -/
def nested : Document :=
  Document.ofRoot "blockquote" []
    [.element "p" [] [.text " a "],
      .element "blockquote" [] [.text "> b", .element "p" [] [.text "c\nd"]]]

theorem convert_nested :
    Setup.plain.convert nested.root = .ok "\n> a\n>\n>\n>> \\> b\n>> c d\n\n" := by
  have htag : nested.root.tag = "blockquote" := rfl
  have htag₁ : (nested.node 1).tag = "p" := rfl
  have htag₃ : (nested.node 3).tag = "blockquote" := rfl
  have htag₅ : (nested.node 5).tag = "p" := rfl
  have hfirst : render Setup.plain 511 (nested.node 1) = .ok "\na\n\n" := by
    rw [render_only (c := nested.node 2) ⟨rfl, by rw [htag₁]; decide⟩ rfl (render_text rfl),
      htag₁, finish_p]
    rfl
  have hlast : render Setup.plain 510 (nested.node 5) = .ok "\nc d\n\n" := by
    rw [render_only (c := nested.node 6) ⟨rfl, by rw [htag₅]; decide⟩ rfl (render_text rfl),
      htag₅, finish_p]
    rfl
  have hinner : render Setup.plain 511 (nested.node 3) = .ok "\n>> \\> b\n>> c d\n\n" := by
    have hchildren : (nested.node 3).children = [nested.node 4, nested.node 5] := rfl
    rw [render_element ⟨rfl, by rw [htag₃]; decide⟩, hchildren,
      renderOnto_cons_ok (render_text rfl), renderOnto_cons_ok hlast, renderOnto_nil, htag₃,
      Except.map, finish_blockquote]
    rfl
  have hchildren : nested.root.children = [nested.node 1, nested.node 3] := rfl
  rw [convert_eq_render, maxLevels, render_element ⟨rfl, by rw [htag]; decide⟩, hchildren,
    renderOnto_cons_ok hfirst, renderOnto_cons_ok hinner, renderOnto_nil, htag, Except.map,
    finish_blockquote]
  rfl

theorem convert_quote_lines_iff_nested :
    nested.root.IsQuotes ∧ nested.root.hasAncestor "blockquote" = false ∧
      AllQuoted nested.root ∧
      (contents "\n> a\n>\n>\n>> \\> b\n>> c d\n\n" =
          (nested.root :: nested.root.descendants).filterMap quotedLine? ↔
        ∀ m ∈ nested.root :: nested.root.descendants, ¬ Meet m.children) := by
  have hnodes : nested.root :: nested.root.descendants = [nested.node 0, nested.node 1,
    nested.node 2, nested.node 3, nested.node 4, nested.node 5, nested.node 6] := rfl
  have hquotes : nested.root.IsQuotes := by
    constructor <;> rw [hnodes] <;> decide
  have hquoted : AllQuoted nested.root := by
    unfold AllQuoted
    rw [hnodes]
    decide
  exact ⟨hquotes, rfl, hquoted, convert_quote_lines_iff hquotes rfl hquoted convert_nested⟩

/-- A quote with two texts, and an empty paragraph between them. -/
def parted : Document :=
  Document.ofRoot "blockquote" [] [.text "a", .element "p" [] [], .text "b"]

/-- The empty paragraph writes nothing, so the texts on its two sides are on one line. -/
theorem convert_quote_lines_parted :
    parted.root.IsQuotes ∧ parted.root.hasAncestor "blockquote" = false ∧
      AllQuoted parted.root ∧ Setup.plain.convert parted.root = .ok "\n> ab\n\n" ∧
      contents "\n> ab\n\n" ≠ (parted.root :: parted.root.descendants).filterMap quotedLine? := by
  have htag : parted.root.tag = "blockquote" := rfl
  have htag₂ : (parted.node 2).tag = "p" := rfl
  have hnodes : parted.root :: parted.root.descendants =
      [parted.node 0, parted.node 1, parted.node 2, parted.node 3] := rfl
  have hempty : render Setup.plain 511 (parted.node 2) = .ok [] := by
    have hnone : (parted.node 2).children = [] := rfl
    rw [render_element ⟨rfl, by rw [htag₂]; decide⟩, hnone, renderOnto_nil, htag₂, Except.map,
      finish_p]
    rfl
  have hchildren : parted.root.children = [parted.node 1, parted.node 2, parted.node 3] := rfl
  refine ⟨?_, rfl, ?_, ?_, ?_⟩
  · constructor <;> rw [hnodes] <;> decide
  · unfold AllQuoted
    rw [hnodes]
    decide
  · rw [convert_eq_render, maxLevels, render_element ⟨rfl, by rw [htag]; decide⟩, hchildren,
      renderOnto_cons_ok (render_text rfl), renderOnto_cons_ok hempty,
      renderOnto_cons_ok (render_text rfl), renderOnto_nil, htag, Except.map, finish_blockquote]
    rfl
  · rw [hnodes]
    decide

end Convert

end HtmlMarkdown
