import HtmlMarkdown.Html.Parse
import HtmlMarkdown.Proofs.Text.Words

/-!
# Sources without markup

A source of plain characters (`isPlain`) that starts with a visible one is the text of a body. Its
first run of characters makes the elements that the source leaves out, one mode after the other
(`takeIn_first`); each run behind it is added to the same text (`takeIn_run`).

* `parse_plain`: **such a source reads as a body with one text**, the source itself.
-/

namespace HtmlMarkdown.Html

variable {c : Char} {t : Text} {pieces : List Text} {b : Builder}

/-! ## Plain characters -/

/-- The characters that are read as they are: no tag and no reference starts with them, and they are
neither a line break of the old kind nor NUL. -/
def isPlain (c : Char) : Bool := c != '<' && c != '&' && c != '\r' && c != '\x00'

theorem isPlain_iff : isPlain c = true ↔ c ≠ '<' ∧ c ≠ '&' ∧ c ≠ '\r' ∧ c ≠ '\x00' := by
  unfold isPlain
  simp only [Bool.and_eq_true, bne_iff_ne, and_assoc]

/-- The blank characters of a source are blank everywhere. -/
theorem isBlank_of_isSpace (h : isSpace c = true) : Text.isBlank c = true := by
  unfold isSpace at h
  simp only [Bool.or_eq_true, beq_iff_eq] at h
  rcases h with (((rfl | rfl) | rfl) | rfl) | rfl <;> decide

/-- **Plain characters are read as they are**, but for a byte order mark at the start. -/
theorem source_plain (hmark : t.head? ≠ some '\uFEFF') (h : ∀ c ∈ t, isPlain c = true) :
    source t = t := by
  have hbreaks : ∀ u : Text, (∀ c ∈ u, isPlain c = true) → normalizeBreaks u = u := by
    intro u
    induction u with
    | nil => intro _; rfl
    | cons c cs ih =>
      intro hu
      obtain ⟨-, -, hreturn, -⟩ := isPlain_iff.1 (hu c List.mem_cons_self)
      have hstep : normalizeBreaks (c :: cs) = c :: normalizeBreaks cs := by
        cases cs <;> simp [normalizeBreaks, hreturn]
      rw [hstep, ih fun d hd => hu d (List.mem_cons_of_mem _ hd)]
  have hdrop : dropMark t = t := by
    unfold dropMark
    split
    · exact absurd rfl hmark
    · rfl
  unfold source
  rw [hdrop, hbreaks t h]

/-- A plain character is blank or visible. -/
theorem kind_plain (h : isPlain c = true) :
    CharKind.of c = if isSpace c then .blank else .visible := by
  obtain ⟨-, -, -, hnul⟩ := isPlain_iff.1 h
  unfold CharKind.of
  simp [hnul]

/-- What is read off plain characters: a run of one kind. The rest is shorter. -/
theorem next_plain (sections : Bool) (h : isPlain c = true) (cs : Text) :
    ∃ run rest, c :: cs = run ++ rest ∧ rest.length ≤ cs.length ∧
      next .data sections (c :: cs) = .one (.characters (CharKind.of c) run) rest := by
  obtain ⟨hopen, hreference, -, -⟩ := isPlain_iff.1 h
  refine ⟨c :: cs.takeWhile fun d => (d != '<' && d != '&') && CharKind.of d == CharKind.of c,
    cs.dropWhile fun d => (d != '<' && d != '&') && CharKind.of d == CharKind.of c, ?_, ?_, ?_⟩
  · rw [List.cons_append, List.takeWhile_append_dropWhile]
  · exact (List.dropWhile_suffix _).length_le
  · unfold next
    simp [characters]

/-! ## The elements that are left out -/

/-- A bare element in its place. -/
def placed (tag : String) (parent : Nat) (children : Array Nat) : ForestNode :=
  { data := .element { tag := tag } [] none, parent := some parent, children := children }

/-- Before the root is made. -/
def atStart : Builder := { mode := .beforeHtml, tablesInParagraphs := true }

/-- Only the root is made. -/
def atRoot : Builder :=
  { atStart with
    mode := .beforeHead, stack := [1]
    forest.nodes := #[{ data := .document, children := #[1] }, placed "html" 0 #[]] }

/-- The head is made and open. -/
def atHead : Builder :=
  { atStart with
    mode := .inHead, stack := [2, 1], head := some 2
    forest.nodes := #[{ data := .document, children := #[1] }, placed "html" 0 #[2],
      placed "head" 1 #[]] }

/-- The body is made and open. -/
def atBody : Builder :=
  { atStart with
    mode := .inBody, stack := [3, 1], head := some 2
    forest.nodes := #[{ data := .document, children := #[1] }, placed "html" 0 #[2, 3],
      placed "head" 1 #[], placed "body" 1 #[]] }

/-- In the body, with the pieces of its text that were read, the last one first. -/
def atText (pieces : List Text) : Builder :=
  { atBody with
    framesetOk := false
    forest.nodes := #[{ data := .document, children := #[1] }, placed "html" 0 #[2, 3],
      placed "head" 1 #[], placed "body" 1 #[4], { data := .text pieces, parent := some 3 }] }

theorem settle_again {token : Token} {hops : Nat} (hb : b.fostering = false) :
    settle token (hops + 1) (.again b) = settle token hops (takeInNow b token) := by
  have hsame : ({ b with fostering := false } : Builder) = b := by
    cases b
    cases hb
    rfl
  rw [settle, hsame]

/-- **The first run makes the elements that are left out**, and is the first piece of the text. -/
theorem takeIn_first (t : Text) : takeIn {} (.characters .visible t) = atText [t] := by
  -- each mode makes the element it is missing and hands the same run on to the next one
  have hstart : takeInNow {} (.characters .visible t) = .again atStart := rfl
  have hroot : takeInNow atStart (.characters .visible t) = .again atRoot := rfl
  have hhead : takeInNow atRoot (.characters .visible t) = .again atHead := rfl
  have hbehind : takeInNow atHead (.characters .visible t) = .again atHead.closeHead := rfl
  have hbody : takeInNow atHead.closeHead (.characters .visible t) = .again atBody := rfl
  have htext : takeInNow atBody (.characters .visible t) = .done (atText [t]) := rfl
  have hall : takeIn {} (.characters .visible t) =
      { settle (.characters .visible t) 24 (takeInNow {} (.characters .visible t)) with
        fostering := false } := rfl
  rw [hall, hstart, settle_again rfl, hroot, settle_again rfl, hhead, settle_again rfl, hbehind,
    settle_again rfl, hbody, settle_again rfl, htext]
  rfl

/-- **A further run is a further piece.** -/
theorem takeIn_run {kind : CharKind} (h : kind ≠ .nul) (t : Text) :
    takeIn (atText pieces) (.characters kind t) = atText (t :: pieces) := by
  cases kind with
  | blank => rfl
  | visible => rfl
  | nul => exact absurd rfl h

theorem takeIn_end (pieces : List Text) : takeIn (atText pieces) .endOfFile = atText pieces := rfl

/-! ## The document -/

/-- The document with a text as its body. -/
def bodyOf (t : Text) : Document :=
  .ofRoot "html" [] [.element "head" [] [], .element "body" [] [.text t]]

/-- Reading on adds all that is left to the text. -/
theorem readAll_plain : ∀ (fuel : Nat) (t : Text) (pieces : List Text), t.length < fuel →
    (∀ c ∈ t, isPlain c = true) →
    ∃ pieces', readAll fuel (atText pieces) t = atText pieces' ∧
      pieces'.reverse.flatten = pieces.reverse.flatten ++ t := by
  intro fuel
  induction fuel with
  | zero => intro t pieces h; exact absurd h (Nat.not_lt_zero _)
  | succ fuel ih =>
    intro t pieces hfuel hplain
    cases t with
    | nil => exact ⟨pieces, takeIn_end pieces, (List.append_nil _).symm⟩
    | cons c cs =>
      have hc := hplain c List.mem_cons_self
      obtain ⟨run, rest, hsplit, hlength, hnext⟩ := next_plain
        (!(atText pieces).stack.isEmpty &&
          ((atText pieces).nameOf (atText pieces).current).vocabulary != .html) hc cs
      have hkind : CharKind.of c ≠ .nul := by
        rw [kind_plain hc]
        split <;> exact CharKind.noConfusion
      have hread : readAll (fuel + 1) (atText pieces) (c :: cs) =
          readAll fuel (atText (run :: pieces)) rest := by
        have hreading : (atText pieces).reading = .data := rfl
        rw [readAll.eq_3 _ _ _ (List.cons_ne_nil c cs)]
        rw [hreading, hnext]
        exact congrArg (readAll fuel · rest) (takeIn_run hkind run)
      -- what is left is shorter, so the fuel goes down no faster than the text
      rw [hread]
      rw [List.length_cons] at hfuel
      obtain ⟨pieces', hrest, hflat⟩ := ih rest (run :: pieces) (by omega)
        fun d hd => hplain d (by rw [hsplit]; exact List.mem_append_right _ hd)
      refine ⟨pieces', hrest, ?_⟩
      rw [hflat, hsplit]
      simp

theorem document_atText (pieces : List Text) :
    (atText pieces).forest.document = bodyOf pieces.reverse.flatten := by
  have hbare : Forest.sortedAttributes [] = [] := by simp [Forest.sortedAttributes]
  have hroot : (atText pieces).forest.root? = some 1 := rfl
  have hdata : (atText pieces).forest.data? 1 = some (.element { tag := "html" } [] none) := rfl
  have hbelow : (atText pieces).forest.treesBelow 1 =
      [.element "head" (Forest.sortedAttributes []) [],
        .element "body" (Forest.sortedAttributes []) [.text pieces.reverse.flatten]] := rfl
  unfold Forest.document
  rw [hroot]
  simp only [Option.map_some, hdata, hbelow, hbare]
  rfl

/-- **Plain characters that start with a visible one are read as the text of a body.** -/
theorem parse_plain (hmark : t.head? ≠ some '\uFEFF') (hstart : Text.startsVisible t = true)
    (hplain : ∀ c ∈ t, isPlain c = true) : parse t = bodyOf t := by
  have hparse : parse t = (readAll (t.length + 1) {} t).forest.document := by
    simp only [parse, source_plain hmark hplain]
  cases t with
  | nil => cases hstart
  | cons c cs =>
    have hc := hplain c List.mem_cons_self
    obtain ⟨run, rest, hsplit, hlength, hnext⟩ := next_plain false hc cs
    -- a blank first run would be dropped before the root is made
    have hkind : CharKind.of c = .visible := by
      rw [kind_plain hc]
      refine if_neg fun hspace => ?_
      rw [Text.startsVisible_cons, isBlank_of_isSpace hspace] at hstart
      cases hstart
    have hread : readAll ((c :: cs).length + 1) {} (c :: cs) =
        readAll (c :: cs).length (atText [run]) rest := by
      rw [readAll.eq_3 _ _ _ (List.cons_ne_nil c cs)]
      change readAll _ (takeInAll {} (next .data false (c :: cs)))
        (next .data false (c :: cs)).rest = _
      rw [hnext, hkind]
      exact congrArg (readAll _ · rest) (takeIn_first run)
    obtain ⟨pieces, hrest, hflat⟩ := readAll_plain (c :: cs).length rest [run]
      (by rw [List.length_cons]; omega)
      fun d hd => hplain d (by rw [hsplit]; exact List.mem_append_right _ hd)
    rw [hparse, hread, hrest, document_atText, hflat, hsplit]
    simp

end HtmlMarkdown.Html
