import HtmlMarkdown.Document.Tree
import HtmlMarkdown.Proofs.Markdown.CodeSpan
import HtmlMarkdown.Proofs.Text.Words
import HtmlMarkdown.Rule.Element

/-!
# Code between fences

A code block stands between two fences, which are the same whatever the code is. Markdown ends it at
the first line with as long a run of backticks and nothing else (`closesFence`), so a line of the
code that starts with such a run (`opensFence`) may end the block early, and what is below it is
Markdown again. Lines end at a line feed or a carriage return here (`sourceLines`).

* `sourceLines_fencedCode`: the lines of a code block are those of its code, between the fences.
* `readBlock?_fenced_iff`: **when a block is read up to its last line.**
* `codeBlock_fenced_iff`: when code stays between its fences.
-/

namespace HtmlMarkdown.Rule

open Text Markdown

variable {c : Char} {k m : ℕ} {l t u fence info : Text} {ls : List Text} {n : Node} {o : Options}

/-! ## Lines -/

/-- The characters that end a line of Markdown. -/
def isLineEnd (c : Char) : Bool := c == '\n' || c == '\r'

/-- **The lines of a Markdown source.** A carriage return and a line feed behind it have an empty
line between them. -/
def sourceLines (t : Text) : List Text := splitOn isLineEnd t

theorem sourceLines_append_end (hc : isLineEnd c = true) (t u : Text) :
    sourceLines (t ++ c :: u) = sourceLines t ++ sourceLines u := by
  unfold sourceLines
  rw [splitOn_eq, splitOn_eq, splitOn_eq]
  exact List.splitOnP_append_cons _ _ hc

theorem sourceLines_line (h : ∀ c ∈ t, isLineEnd c = false) : sourceLines t = [t] := by
  unfold sourceLines
  rw [splitOn_eq]
  exact List.splitOnP_eq_singleton h

theorem sourceLines_feed (t u : Text) :
    sourceLines (t ++ '\n' :: u) = sourceLines t ++ sourceLines u :=
  sourceLines_append_end rfl t u

/-- Line ends at the end of a text add empty lines only. -/
theorem sourceLines_append_ends : ∀ {u : Text}, (∀ c ∈ u, isLineEnd c = true) →
    ∀ t, sourceLines (t ++ u) = sourceLines t ++ List.replicate u.length [] := by
  intro u
  induction u with
  | nil => intro _ t; rw [List.append_nil]; exact (List.append_nil _).symm
  | cons c cs ih =>
    intro h t
    have hrest := ih (fun d hd => h d (List.mem_cons_of_mem c hd)) []
    rw [List.nil_append] at hrest
    rw [sourceLines_append_end (h c List.mem_cons_self), hrest]
    rfl

/-- **The lines of fenced code**: the fence with the language, the lines of the code, the fence. -/
theorem sourceLines_fencedCode (hfence : ∀ c ∈ fence, isLineEnd c = false)
    (hinfo : ∀ c ∈ info, isLineEnd c = false) (code : Text) :
    sourceLines (fencedCode fence info code) =
      [] :: (fence ++ info) :: (sourceLines code ++ [fence, [], []]) := by
  have hopening : sourceLines (fence ++ info) = [fence ++ info] :=
    sourceLines_line fun c hc => (List.mem_append.1 hc).elim (hfence c) (hinfo c)
  have hsplit : fencedCode fence info code =
      [] ++ '\n' :: (fence ++ info ++ '\n' :: (code ++ '\n' :: (fence ++ '\n' :: '\n' :: []))) := by
    simp [fencedCode]
  have hend : sourceLines ['\n'] = [[], []] := rfl
  rw [hsplit, sourceLines_feed, sourceLines_feed, hopening, sourceLines_feed, sourceLines_feed,
    sourceLines_line hfence, hend]
  rfl

/-- The language of code has no line ends in it. -/
theorem language_line (n : Node) : ∀ c ∈ language n, isLineEnd c = false := by
  intro c hc
  unfold language at hc
  cases hlanguage : ((do
    let classes ← (← n.findDescendant? "code").attr? "class"
    (words classes).findSome? (List.isPrefixOf? "language-".toList ·)) : Option Text) with
  | none =>
    rw [hlanguage] at hc
    cases hc
  | some name =>
    rw [hlanguage, Option.getD_some] at hc
    obtain ⟨m, -, hclasses⟩ := Option.bind_eq_some_iff.1 hlanguage
    obtain ⟨classes, -, hfound⟩ := Option.bind_eq_some_iff.1 hclasses
    obtain ⟨w, hw, hname⟩ := List.exists_of_findSome?_eq_some hfound
    have hmem : c ∈ w := by
      rw [← List.isPrefixOf?_eq_some_iff_append_eq.1 hname]
      exact List.mem_append_right _ hc
    have hvisible := (mem_of_mem_splitOn (List.mem_filter.1 hw).1 c hmem).2
    refine Bool.eq_false_iff.2 fun hend => ?_
    rcases Bool.or_eq_true_iff.1 hend with hfeed | hreturn
    · rw [eq_of_beq hfeed] at hvisible
      cases hvisible
    · rw [eq_of_beq hreturn] at hvisible
      cases hvisible

/-! ## Fences -/

/-- **A line that starts with a run of at least so many backticks**, behind spaces or not. -/
def opensFence (k : ℕ) (l : Text) : Bool := k ≤ leadingTicks (l.dropWhile (· == ' '))

/-- **A line that ends a block**: a run of at least so many backticks, behind three spaces at most,
and only spaces behind it. -/
def closesFence (k : ℕ) (l : Text) : Bool :=
  let t := l.dropWhile (· == ' ')
  l.length ≤ t.length + 3 && opensFence k l && (t.drop (leadingTicks t)).all (· == ' ')

/-- **The lines of the code in a block**, and the lines below it. A line with at least three
backticks in front, and none behind these, starts a block. -/
def readBlock? : List Text → Option (List Text × List Text)
  | [] => none
  | l :: ls =>
    if 3 ≤ leadingTicks l ∧ '\x60' ∉ l.drop (leadingTicks l) then
      some (ls.takeWhile fun l' => !closesFence (leadingTicks l) l',
        (ls.dropWhile fun l' => !closesFence (leadingTicks l) l').drop 1)
    else none

/-- A prefix is taken up to an element if and only if all of it may be taken and the element not. -/
theorem takeWhile_append_cons_eq_iff {α : Type} {p : α → Bool} {xs ys : List α} {a : α} :
    (xs ++ a :: ys).takeWhile p = xs ↔ (∀ x ∈ xs, p x = true) ∧ p a = false := by
  constructor
  · intro h
    have hxs : ∀ x ∈ xs, p x = true := by
      intro x hx
      rw [← h] at hx
      exact List.mem_takeWhile_imp hx
    refine ⟨hxs, Bool.eq_false_iff.2 fun ha => ?_⟩
    rw [List.takeWhile_append_of_pos hxs, List.takeWhile_cons_of_pos ha] at h
    simp at h
  · rintro ⟨hxs, ha⟩
    have hstop : ¬ p a = true := by rw [ha]; exact Bool.false_ne_true
    rw [List.takeWhile_append_of_pos hxs, List.takeWhile_cons_of_neg hstop, List.append_nil]

theorem leadingTicks_ticks (k : ℕ) : leadingTicks (ticks k) = k := by
  have h := leadingTicks_ticks_append (n := k) (v := []) nofun
  rwa [List.append_nil] at h

/-- A fence closes a block that no more backticks have opened. -/
theorem closesFence_ticks (hk : 0 < k) : closesFence m (ticks k) = decide (m ≤ k) := by
  have hspaces : (ticks k).dropWhile (· == ' ') = ticks k := by
    obtain ⟨c, cs, hticks⟩ := List.exists_cons_of_ne_nil (ticks_ne_nil hk)
    have hc : c = '\x60' := eq_tick_of_mem (n := k) (by rw [hticks]; exact List.mem_cons_self)
    rw [hticks, hc]
    rfl
  have hlength : (ticks k).length = k := List.length_replicate
  have hdrop : (ticks k).drop k = [] := List.drop_eq_nil_of_le hlength.le
  simp [closesFence, opensFence, hspaces, leadingTicks_ticks, hdrop]

/-- **When a block is read up to its last line**: there is no backtick behind the opening fence, and
no line of the code ends the block. -/
theorem readBlock?_fenced_iff (hk : 3 ≤ k) (below : List Text) :
    readBlock? ((ticks k ++ info) :: (ls ++ ticks k :: below)) = some (ls, below) ↔
      '\x60' ∉ info ∧ ∀ l ∈ ls, closesFence k l = false := by
  obtain ⟨v, hinfo, hv⟩ := exists_leadingTicks info
  set j := leadingTicks info
  have hopening : ticks k ++ info = ticks (k + j) ++ v := by
    unfold ticks
    rw [List.replicate_add, List.append_assoc]
    exact congrArg _ hinfo
  have hrun : leadingTicks (ticks k ++ info) = k + j := by
    rw [hopening]
    exact leadingTicks_ticks_append hv
  have hdrop : (ticks k ++ info).drop (k + j) = v := by
    have hlength : (ticks (k + j)).length = k + j := List.length_replicate
    rw [hopening, List.drop_left' hlength]
  have hbelow : ∀ p : Text → Bool, (ls ++ ticks k :: below).takeWhile p = ls →
      ((ls ++ ticks k :: below).dropWhile p).drop 1 = below := by
    intro p htake
    have hcut := List.takeWhile_append_dropWhile (p := p) (l := ls ++ ticks k :: below)
    rw [htake] at hcut
    rw [List.append_cancel_left hcut]
    rfl
  have hfence : closesFence (k + j) (ticks k) = true ↔ j = 0 := by
    rw [closesFence_ticks (by omega), decide_eq_true_iff]
    omega
  rw [readBlock?, hrun, hdrop]
  by_cases hmem : '\x60' ∈ v
  · have hinfo' : '\x60' ∈ info := by
      rw [hinfo]
      exact List.mem_append_right _ hmem
    rw [if_neg fun h => h.2 hmem]
    exact iff_of_false nofun fun h => h.1 hinfo'
  · have hnone : '\x60' ∉ info ↔ j = 0 := by
      rw [hinfo, List.mem_append, or_iff_left hmem]
      unfold ticks
      rw [List.mem_replicate]
      simp
    rw [if_pos ⟨by omega, hmem⟩, Option.some.injEq, Prod.mk.injEq, and_iff_left_of_imp (hbelow _),
      takeWhile_append_cons_eq_iff, hnone, ← hfence, Bool.not_eq_false', and_comm]
    refine and_congr_right fun hj => ?_
    rw [hfence.1 hj, Nat.add_zero]
    simp only [Bool.not_eq_true']

/-! ## The code block of an element -/

/-- No empty line is a fence. -/
theorem not_fence_nil (hk : 0 < k) : opensFence k [] = false ∧ closesFence k [] = false := by
  have hopens : opensFence k [] = false := decide_eq_false (Nat.not_le.2 hk)
  exact ⟨hopens, by simp [closesFence, hopens]⟩

/-- What holds of the lines of a text without the line ends behind it holds of all its lines, if
it holds of an empty line. -/
theorem forall_sourceLines_iff {p : Text → Prop} (hp : p []) (t : Text) :
    (∀ l ∈ sourceLines (dropEndWhile isLineEnd t), p l) ↔ ∀ l ∈ sourceLines t, p l := by
  have hlines : sourceLines t = sourceLines (dropEndWhile isLineEnd t) ++
      List.replicate (t.rtakeWhile isLineEnd).length [] := by
    rw [← sourceLines_append_ends fun c hc => List.mem_rtakeWhile_imp hc, dropEndWhile_eq,
      List.rdropWhile_append_rtakeWhile]
  rw [hlines, List.forall_mem_append]
  exact (and_iff_left fun l hl => by rwa [List.eq_of_mem_replicate hl]).symm

/-- Text with nothing but line ends behind it is blank if it is blank without them. -/
theorem isBlankText_dropEnds (t : Text) :
    isBlankText (dropEndWhile isLineEnd t) = isBlankText t := by
  have hends : isBlankText (t.rtakeWhile isLineEnd) = true := by
    refine List.all_eq_true.2 fun c hc => ?_
    have hend : isLineEnd c = true := List.mem_rtakeWhile_imp hc
    rcases Bool.or_eq_true_iff.1 hend with hfeed | hreturn
    · rw [eq_of_beq hfeed]
      rfl
    · rw [eq_of_beq hreturn]
      rfl
  have hsplit : t = dropEndWhile isLineEnd t ++ t.rtakeWhile isLineEnd := by
    rw [dropEndWhile_eq, List.rdropWhile_append_rtakeWhile]
  conv_rhs => rw [hsplit]
  unfold isBlankText at hends ⊢
  rw [List.all_append, hends, Bool.and_true]

/-- **When code stays between its fences.** The lines of a code block are those of the code between
the two fences. None of them starts like a fence if and only if no line of the element's text does;
and the block is read up to its last line if and only if there is no backtick behind the opening
fence and no line of the text ends it before. -/
theorem codeBlock_fenced_iff (hstyle : o.codeBlockStyle = .fenced) (hfence : o.fence = ticks k)
    (hk : 3 ≤ k) (htext : isBlankText n.text = false) :
    ∃ code, code = sourceLines (dropEndWhile isLineEnd n.text) ∧
      sourceLines (codeBlock n o) =
        [] :: (o.fence ++ language n) :: (code ++ [o.fence, [], []]) ∧
      ((∀ l ∈ code, opensFence k l = false) ↔ ∀ l ∈ sourceLines n.text, opensFence k l = false) ∧
      (readBlock? (sourceLines (codeBlock n o)).tail = some (code, [[], []]) ↔
        '\x60' ∉ language n ∧ ∀ l ∈ sourceLines n.text, closesFence k l = false) := by
  have hpos : 0 < k := by omega
  have hblock : codeBlock n o =
      fencedCode (ticks k) (language n) (dropEndWhile isLineEnd n.text) := by
    unfold codeBlock
    rw [hstyle, hfence]
    have hcode := isBlankText_dropEnds n.text
    rw [htext] at hcode
    exact if_neg (Bool.eq_false_iff.1 hcode)
  have hticks : ∀ c ∈ ticks k, isLineEnd c = false := by
    intro c hc
    rw [eq_tick_of_mem hc]
    rfl
  have hlines := sourceLines_fencedCode hticks (language_line n) (dropEndWhile isLineEnd n.text)
  obtain ⟨hopens, hcloses⟩ := not_fence_nil hpos
  refine ⟨_, rfl, ?_, forall_sourceLines_iff hopens n.text, ?_⟩
  · rw [hblock, hlines, hfence]
  · rw [hblock, hlines, List.tail_cons, readBlock?_fenced_iff hk, forall_sourceLines_iff hcloses]

/-- Preformatted text with short runs of backticks and the other kind of fence. -/
def tildeBlock : Document :=
  Document.ofRoot "pre" []
    [.element "code" [("class", "x language-md")] [.text "~~~\n\x60\x60 x\n\n"]]

theorem codeBlock_fenced_iff_tilde :
    ({} : Options).codeBlockStyle = .fenced ∧ ({} : Options).fence = ticks 3 ∧
      isBlankText tildeBlock.root.text = false ∧
      codeBlock tildeBlock.root {} = "\n\x60\x60\x60md\n~~~\n\x60\x60 x\n\x60\x60\x60\n\n" ∧
      readBlock? (sourceLines (codeBlock tildeBlock.root {})).tail =
        some (["~~~", "\x60\x60 x"].map String.toList, ([[], []] : List Text)) := by
  have htext : isBlankText tildeBlock.root.text = false := by decide
  obtain ⟨code, hcode, -, -, hread⟩ :=
    codeBlock_fenced_iff (n := tildeBlock.root) (o := {}) rfl rfl le_rfl htext
  have hlines : code = ["~~~", "\x60\x60 x"].map String.toList := by
    rw [hcode]
    decide
  rw [hlines] at hread
  exact ⟨rfl, rfl, htext, by decide, hread.2 (by decide)⟩

/-- Preformatted text with a fence in it. -/
def fencedBlock : Document := Document.ofRoot "pre" [] [.text "a\n\x60\x60\x60\n# b"]

/-- **A fence in the code** ends the block, and what is below it is out of the code. -/
theorem codeBlock_fence_inside :
    isBlankText fencedBlock.root.text = false ∧
      sourceLines (codeBlock fencedBlock.root {}) =
        ["", "\x60\x60\x60", "a", "\x60\x60\x60", "# b", "\x60\x60\x60", "", ""].map
          String.toList ∧
      opensFence 3 "\x60\x60\x60" = true ∧
      readBlock? (sourceLines (codeBlock fencedBlock.root {})).tail =
        some (["a".toList], ["# b", "\x60\x60\x60", "", ""].map String.toList) := by
  decide

end HtmlMarkdown.Rule
