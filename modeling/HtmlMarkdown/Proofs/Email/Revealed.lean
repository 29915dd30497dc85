import HtmlMarkdown.Proofs.Email.AttributeText

/-!
# Revealed blocks

What stands between the start and the end of a revealed condition is shown to every reader. Such a
block is written in one of two ways: with the marks as they are, or with each mark in a comment
(`Wrapping`). Written the second way it starts and ends like a conditional comment, and that is what
it is taken for.

The namespace pass comes first, and it may read a value in the condition on over the end of it.
Where it does not (`NamespacesWithin`), the passes for brackets find the marks as they are written.

* `RevealedBlock.clean_source`: what is left of a block.
* `RevealedBlock.keepsBody_clean_iff`: **when its body is kept.**
-/

namespace HtmlMarkdown.Email.Outlook

open Text

variable {find : Finder} {before : Option Char} {c : Char} {t u word x rest : Text}

/-! ## Marks -/

/-- Reading a fixed word, as a rule. -/
def findWord (word : Text) : Finder := fun _ t => (dropWord? word t).map fun rest => ([], rest)

theorem findWord_eq_none_iff : findWord word before t = none ↔ dropWord? word t = none :=
  Option.map_eq_none_iff

theorem findWord_starts {w : Char} (hw : w.isAlpha = false) (word : Text) :
    Starts (findWord (w :: word)) w := by
  intro before c t found h
  obtain ⟨u, hu, -⟩ := Option.map_eq_some_iff.1 h
  exact eq_of_foldChar (foldChar_of_dropWord? hu).1 hw

theorem endComment_starts : Starts (findWord "<![endif]-->") '<' :=
  findWord_starts (by decide) "![endif]-->"

/-- The place where a word is first read lies behind what is passed over. -/
theorem dropThrough?_append (h : Passes (findWord word) x rest) :
    dropThrough? word (x ++ rest) = dropThrough? word rest := by
  induction x with
  | nil => rfl
  | cons c cs ih =>
    have hfirst := findWord_eq_none_iff.1 (h.head none)
    rw [List.cons_append, dropThrough?, hfirst, Option.none_or, ih h.tail]

theorem dropThrough?_of_dropWord? (h : dropWord? word t = some u) (hne : t ≠ []) :
    dropThrough? word t = some u := by
  obtain ⟨c, cs, rfl⟩ := List.exists_cons_of_ne_nil hne
  rw [dropThrough?, h]
  rfl

theorem findPrologue_starts : Starts findPrologue '<' := by
  intro before c t found h
  obtain ⟨u, hu, -⟩ := Option.bind_eq_some_iff.1 h
  exact eq_of_foldChar (foldChar_of_dropWord? hu).1 (by decide)

theorem findConditional_starts : Starts findConditional '<' := by
  intro before c t found h
  obtain ⟨u, hu, -⟩ := Option.bind_eq_some_iff.1 h
  exact eq_of_foldChar (foldChar_of_dropWord? hu).1 (by decide)

theorem findRevealed_starts : Starts findRevealed '<' := by
  intro before c t found h
  obtain ⟨u, hu, -⟩ := Option.map_eq_some_iff.1 h
  rcases Option.or_eq_some_iff.1 hu with hu | ⟨-, hu⟩
  · obtain ⟨v, hv, -⟩ := Option.bind_eq_some_iff.1 hu
    exact eq_of_foldChar (foldChar_of_dropWord? hv).1 (by decide)
  · exact eq_of_foldChar (foldChar_of_dropWord? hu).1 (by decide)

theorem findPrologue_eq (before : Option Char) (t : Text) : findPrologue before t =
    (dropWord? "<?xml" t).bind fun t => (splitAtChar? '>' t).bind fun parts =>
      if parts.1.getLast? = some '?' then some ([], parts.2) else none := rfl

theorem findConditional_eq (before : Option Char) (t : Text) : findConditional before t =
    ((dropWord? "<!--[if" t).bind dropCondition?).bind fun t =>
      (dropThrough? "<![endif]-->" t).map fun rest => ([], rest) := by
  rw [Option.bind_assoc]
  simp only [Option.map_eq_bind]
  rfl

theorem findRevealed_eq (before : Option Char) (t : Text) : findRevealed before t =
    (((dropWord? "<![if" t).bind dropCondition?).or (dropWord? "<![endif]>" t)).map
      fun rest => ([], rest) := rfl

/-- A prologue does not start with an exclamation mark. -/
theorem findPrologue_bang (before : Option Char) (t : Text) :
    findPrologue before ('<' :: '!' :: t) = none := by
  have hread : dropWord? "<?xml" ('<' :: '!' :: t) = none := rfl
  rw [findPrologue_eq, hread, Option.bind_none]

/-- The bracket that comes first behind a condition has no question mark before it. -/
theorem passes_prologue_condition (hclose : '>' ∉ t) (rest : Text) :
    Passes findPrologue t (']' :: '>' :: rest) := by
  intro before u hu _
  -- the word has no square bracket, so it is read in the condition or not at all
  have hread : dropWord? "<?xml" (u ++ ']' :: '>' :: rest) =
      (dropWord? "<?xml" u).map (· ++ ']' :: '>' :: rest) :=
    dropWord?_append_of_head (fun c hc => by rw [← Option.some.inj hc]; decide) u
  rw [findPrologue_eq, hread]
  cases hword : dropWord? "<?xml" u with
  | none => rfl
  | some v =>
    have hv : '>' ∉ v ++ [']'] := by
      rw [List.mem_append, not_or]
      exact ⟨fun hmem => hclose (hu.mem ((dropWord?_suffix hword).mem hmem)), by decide⟩
    have hsplit : splitAtChar? '>' (v ++ ']' :: '>' :: rest) = some (v ++ [']'], rest) := by
      rw [← splitAtChar?_append hv rest]
      simp
    have hlast : (v ++ [']']).getLast? ≠ some '?' := by
      rw [List.getLast?_concat]
      decide
    rw [Option.map_some, Option.bind_some, hsplit, Option.bind_some, if_neg hlast]

/-- The end of a conditional comment is not read over the end of a condition. -/
theorem passes_endComment_condition (hbracket : ']' ∉ t) (rest : Text) :
    Passes (findWord "<![endif]-->") t (']' :: '>' :: rest) := by
  intro before u hu _
  rw [findWord_eq_none_iff]
  have hread : dropWord? "<![endif" (u ++ ']' :: '>' :: rest) =
      (dropWord? "<![endif" u).map (· ++ ']' :: '>' :: rest) :=
    dropWord?_append_of_head (fun c hc => by rw [← Option.some.inj hc]; decide) u
  have hparts : dropWord? "<![endif]-->" (u ++ ']' :: '>' :: rest) =
      (dropWord? "<![endif" (u ++ ']' :: '>' :: rest)).bind (dropWord? "]-->") :=
    dropWord?_append_word "<![endif" "]-->" _
  rw [hparts, hread]
  -- the bracket of the word is that of the condition, and no hyphen follows it
  cases hword : dropWord? "<![endif" u with
  | none => rfl
  | some v =>
    cases v with
    | nil => rfl
    | cons c cs =>
      have hc : c ≠ ']' := by
        rintro rfl
        exact hbracket (hu.mem ((dropWord?_suffix hword).mem List.mem_cons_self))
      have hfold : foldChar c ≠ ']' := fun h => hc (eq_of_foldChar h (by decide))
      exact if_neg hfold

theorem dropCondition?_suffix (h : dropCondition? t = some u) : u <:+ t := by
  unfold dropCondition? at h
  obtain ⟨⟨v, rest⟩, hsplit, hclose⟩ := Option.bind_eq_some_iff.1 h
  obtain ⟨rfl, -⟩ := splitAtChar?_eq_some_iff.1 hsplit
  exact (dropChar?_suffix hclose).trans ⟨v ++ [']'], by simp⟩

theorem dropCondition?_append (hbracket : ']' ∉ t) (rest : Text) :
    dropCondition? (t ++ ']' :: '>' :: rest) = some rest := by
  unfold dropCondition?
  rw [splitAtChar?_append hbracket]
  rfl

/-- Reading the start of a revealed condition. -/
theorem findRevealed_start (hbracket : ']' ∉ t) (before : Option Char) (rest : Text) :
    findRevealed before ("<![if" ++ (t ++ ']' :: '>' :: rest)) = some ([], rest) := by
  have hread : dropWord? "<![if" ("<![if" ++ (t ++ ']' :: '>' :: rest)) =
      some (t ++ ']' :: '>' :: rest) := dropWord?_eq_some_iff.2 ⟨"<![if", rfl, rfl⟩
  rw [findRevealed_eq, hread, Option.bind_some, dropCondition?_append hbracket]
  rfl

/-- Reading the end of a revealed condition. -/
theorem findRevealed_end (before : Option Char) (rest : Text) :
    findRevealed before ("<![endif]>" ++ rest) = some ([], rest) := by
  have hstart : dropWord? "<![if" ("<![endif]>" ++ rest) = none := rfl
  have hread : dropWord? "<![endif]>" ("<![endif]>" ++ rest) = some rest :=
    dropWord?_eq_some_iff.2 ⟨"<![endif]>", rfl, rfl⟩
  rw [findRevealed_eq, hstart, hread]
  rfl

/-- Reading a conditional comment. -/
theorem findConditional_block (hbracket : ']' ∉ t) (hpass : Passes (findWord "<![endif]-->") x
      ("<![endif]-->" ++ rest)) (before : Option Char) :
    findConditional before
      ("<!--[if" ++ (t ++ ']' :: '>' :: (x ++ ("<![endif]-->" ++ rest)))) = some ([], rest) := by
  have hread : dropWord? "<!--[if"
      ("<!--[if" ++ (t ++ ']' :: '>' :: (x ++ ("<![endif]-->" ++ rest)))) =
        some (t ++ ']' :: '>' :: (x ++ ("<![endif]-->" ++ rest))) :=
    dropWord?_eq_some_iff.2 ⟨"<!--[if", rfl, rfl⟩
  have hend : dropWord? "<![endif]-->" ("<![endif]-->" ++ rest) = some rest :=
    dropWord?_eq_some_iff.2 ⟨"<![endif]-->", rfl, rfl⟩
  have hthrough : dropThrough? "<![endif]-->" ("<![endif]-->" ++ rest) = some rest :=
    dropThrough?_of_dropWord? hend (List.cons_ne_nil _ _)
  rw [findConditional_eq, hread, Option.bind_some, dropCondition?_append hbracket,
    Option.bind_some, dropThrough?_append hpass, hthrough]
  rfl

/-! ## Conditions -/

/-- **The namespace attributes of a condition end within it**, as it is read in front of the rest of
a text. -/
inductive NamespacesWithin (rest : Text) : Text → Prop where
  | nil : NamespacesWithin rest []
  | char {c : Char} {t : Text} (hnone : ¬ IsNamespace (c :: (t ++ rest)))
      (ht : NamespacesWithin rest t) : NamespacesWithin rest (c :: t)
  | taken {c : Char} {x t : Text} (hread : ReadsNamespace (c :: (x ++ (t ++ rest))) (t ++ rest))
      (ht : NamespacesWithin rest t) : NamespacesWithin rest (c :: (x ++ t))

/-- Without an equals sign there is no attribute. -/
theorem namespacesWithin_of_equals (ht : '=' ∉ t) (hrest : '=' ∉ rest) :
    NamespacesWithin rest t := by
  have hpass : Passes findNamespace t rest := findNamespace_needs.passes ht hrest
  induction t with
  | nil => exact .nil
  | cons c cs ih =>
    refine .char (fun h => findNamespace_ne_none_iff.2 h (hpass.head none)) ?_
    exact ih (fun hmem => ht (List.mem_cons_of_mem c hmem)) hpass.tail

/-- Such attributes are taken out, and the rest of the condition stays. -/
theorem NamespacesWithin.rewrites (h : NamespacesWithin rest t) :
    ∃ kept, kept.Sublist t ∧ Rewrites findNamespace t kept rest := by
  induction h with
  | nil => exact ⟨[], List.Sublist.refl _, (Passes.nil _ _).rewrites⟩
  | @char c t hnone ht ih =>
    obtain ⟨kept, hsub, hkept⟩ := ih
    have hpass : Passes findNamespace [c] (t ++ rest) :=
      Passes.cons (fun before => not_not.1 fun h => hnone (findNamespace_ne_none_iff.1 h))
        (Passes.nil _ _)
    exact ⟨c :: kept, hsub.cons_cons c, hpass.rewrites.append hkept⟩
  | @taken c x t hread ht ih =>
    obtain ⟨kept, hsub, hkept⟩ := ih
    have hfound : Rewrites findNamespace (c :: x) [] (t ++ rest) :=
      rewrites_of_found (List.cons_ne_nil c x) fun before =>
        findNamespace_eq_some_iff.2 ⟨rfl, hread⟩
    exact ⟨kept, (hsub.trans (List.sublist_append_right x t)).cons c, hfound.append hkept⟩

/-! ## Blocks -/

/-- **The two ways to write a revealed block**: its marks as they are, or each in a comment. -/
inductive Wrapping where
  | bare
  | commented
  deriving DecidableEq, Repr

namespace Wrapping

/-- The start of the condition, behind its bracket. -/
def mark : Wrapping → Text
  | bare => "![if"
  | commented => "!--[if"

/-- What stands between the condition and the body. -/
def opened : Wrapping → Text
  | bare => ""
  | commented => "<!-->"

/-- The end of the condition. -/
def closing : Wrapping → Text
  | bare => "<![endif]>"
  | commented => "<!--<![endif]-->"

end Wrapping

/-- **A revealed block in a text**: its condition stops at its first square bracket, and there is no
markup in its body and around it. -/
structure RevealedBlock where
  before : Text
  condition : Text
  body : Text
  behind : Text
  bracket_not_mem : ']' ∉ condition
  close_not_mem : '>' ∉ condition
  plain : ∀ t ∈ [before, body, behind], '<' ∉ t ∧ '=' ∉ t

namespace RevealedBlock

variable (s : RevealedBlock) (w : Wrapping)

/-- The text from the end of the condition on. -/
def ending : Text := ']' :: '>' :: (w.opened ++ (s.body ++ (w.closing ++ s.behind)))

/-- The text. -/
def source : Text := s.before ++ '<' :: (w.mark ++ (s.condition ++ s.ending w))

/-- The same block with less of a condition. -/
def narrow (kept : Text) (h : kept.Sublist s.condition) : RevealedBlock where
  before := s.before
  condition := kept
  body := s.body
  behind := s.behind
  bracket_not_mem hmem := s.bracket_not_mem (h.mem hmem)
  close_not_mem hmem := s.close_not_mem (h.mem hmem)
  plain := s.plain

theorem before_plain : '<' ∉ s.before ∧ '=' ∉ s.before := s.plain _ (by simp)

theorem body_plain : '<' ∉ s.body ∧ '=' ∉ s.body := s.plain _ (by simp)

theorem behind_plain : '<' ∉ s.behind ∧ '=' ∉ s.behind := s.plain _ (by simp)

theorem equals_not_mem_ending : '=' ∉ s.ending w := by
  have hmarks : '=' ∉ w.opened ∧ '=' ∉ w.closing := by cases w <;> decide
  simp [ending, hmarks, s.body_plain, s.behind_plain]

/-- The parts of the text one by one: a rule passes over it if it passes over each. -/
theorem passes_source (hstarts : Starts find '<')
    (hmark : ∀ before rest, find before ('<' :: (w.mark ++ rest)) = none)
    (hcondition : ∀ rest, Passes find s.condition (']' :: '>' :: rest))
    (hopened : ∀ rest, Passes find w.opened rest)
    (hclosing : ∀ rest, Passes find w.closing rest) : Passes find (s.source w) [] := by
  have hopen : '<' ∉ w.mark := by cases w <;> decide
  have hsplit : s.source w = s.before ++ ('<' :: w.mark ++ (s.condition ++ ([']', '>'] ++
      (w.opened ++ (s.body ++ (w.closing ++ s.behind)))))) := by
    simp [source, ending]
  rw [hsplit]
  refine (hstarts.passes s.before_plain.1 _).append ?_
  refine (Passes.cons (fun before => hmark before _) (hstarts.passes hopen _)).append ?_
  refine Passes.append ?_ ?_
  · simpa using hcondition (w.opened ++ (s.body ++ (w.closing ++ s.behind)))
  · refine (hstarts.passes (by decide) _).append ((hopened _).append ?_)
    refine (hstarts.passes s.body_plain.1 _).append ((hclosing _).append ?_)
    exact hstarts.passes s.behind_plain.1 _

/-! ### The passes before the brackets -/

theorem replaceAll_prologue : replaceAll findPrologue (s.source w) = s.source w := by
  -- outside the condition an exclamation mark stands behind every bracket
  have hopen : ∀ {x : Text}, '<' ∉ x → ∀ rest, Passes findPrologue ('<' :: '!' :: x) rest := by
    intro x hx rest
    refine Passes.cons (fun before => findPrologue_bang before _) ?_
    refine findPrologue_starts.passes ?_ rest
    simpa using hx
  refine (s.passes_source w findPrologue_starts ?_ (passes_prologue_condition s.close_not_mem) ?_
    ?_).rewrites.replaceAll_eq
  · intro before rest
    cases w <;> exact findPrologue_bang before _
  · intro rest
    cases w with
    | bare => exact Passes.nil _ rest
    | commented => exact hopen (x := "-->") (by decide) rest
  · intro rest
    cases w with
    | bare => exact hopen (x := "[endif]>") (by decide) rest
    | commented =>
      exact Passes.append (x := "<!--") (hopen (x := "--") (by decide) _)
        (hopen (x := "[endif]-->") (by decide) rest)

/-- Namespaces are taken out of the condition. -/
theorem replaceAll_namespace (h : NamespacesWithin (s.ending w) s.condition) : ∃ kept hsub,
    replaceAll findNamespace (s.source w) = (s.narrow kept hsub).source w := by
  obtain ⟨kept, hsub, hkept⟩ := h.rewrites
  have hmark : w.mark.any isBlank = false := by cases w <;> decide
  have hvisible : ∀ c ∈ w.mark, isBlank c = false := by simpa using hmark
  -- an attribute that starts before the condition would have to read over a bracket
  have hbefore : Passes findNamespace (s.before ++ ['<']) (w.mark ++ (s.condition ++ s.ending w)) :=
    findNamespace_anchored.asks.passes_stop (Or.inl s.before_plain.2) (by decide) (by decide)
      (by decide) _
  have hending : Passes findNamespace (s.ending w) [] :=
    findNamespace_needs.passes (s.equals_not_mem_ending w) List.not_mem_nil
  refine ⟨kept, hsub, ?_⟩
  have hall : Rewrites findNamespace
      (s.before ++ ['<'] ++ (w.mark ++ (s.condition ++ s.ending w)))
      (s.before ++ ['<'] ++ (w.mark ++ (kept ++ s.ending w))) [] := by
    refine Rewrites.append (by simpa using hbefore.rewrites) ?_
    refine Rewrites.append (findNamespace_anchored.passes_visible hvisible _).rewrites ?_
    exact Rewrites.append (by simpa using hkept) hending.rewrites
  simpa [source, narrow, ending] using hall.replaceAll_eq

/-! ### The passes for brackets -/

/-- Without comments around its marks, the block has no end of a conditional comment. -/
theorem replaceAll_conditional_bare :
    replaceAll findConditional (s.source .bare) = s.source .bare := by
  have hword : Passes (findWord "<![endif]-->") (s.source .bare) [] := by
    refine s.passes_source .bare endComment_starts (fun _ _ => rfl)
      (passes_endComment_condition s.bracket_not_mem) (Passes.nil _) fun rest => ?_
    exact Passes.cons (x := "![endif]>") (fun _ => rfl) (endComment_starts.passes (by decide) rest)
  -- so a comment that starts in the condition is not closed either
  refine replaceAll_eq_of_none fun before u hu => ?_
  rw [findConditional_eq]
  cases hread : (dropWord? "<!--[if" u).bind dropCondition? with
  | none => rfl
  | some v =>
    obtain ⟨y, hy, hv⟩ := Option.bind_eq_some_iff.1 hread
    have hsuffix : v <:+ s.source .bare :=
      (dropCondition?_suffix hv).trans ((dropWord?_suffix hy).trans hu)
    have hpass : Passes (findWord "<![endif]-->") v [] :=
      fun before x hx => hword before x (hx.trans hsuffix)
    have hnone := dropThrough?_append hpass
    rw [List.append_nil] at hnone
    rw [Option.bind_some, hnone]
    rfl

/-- With comments around its marks, the block is taken for a conditional comment. -/
theorem replaceAll_conditional_commented :
    replaceAll findConditional (s.source .commented) = s.before ++ s.behind := by
  have hmark : ("<!--[if" : Text) = '<' :: Wrapping.commented.mark := rfl
  have hclosing : Wrapping.commented.closing = ("<!--" : Text) ++ ("<![endif]-->" : Text) := rfl
  -- the first end of a comment is the one that closes the block
  have hpass : Passes (findWord "<![endif]-->")
      (Wrapping.commented.opened ++ (s.body ++ ("<!--" : Text)))
      (("<![endif]-->" : Text) ++ s.behind) := by
    have hstarts : Starts (findWord "<![endif]-->") '<' := endComment_starts
    refine (Passes.cons (x := "!-->") (fun _ => rfl) (hstarts.passes (by decide) _)).append ?_
    refine (hstarts.passes s.body_plain.1 _).append ?_
    exact Passes.cons (x := "!--") (fun _ => rfl) (hstarts.passes (by decide) _)
  have hfound : Rewrites findConditional (("<!--[if" : Text) ++ (s.condition ++ ']' :: '>' ::
      (Wrapping.commented.opened ++ (s.body ++ Wrapping.commented.closing)))) [] s.behind := by
    refine rewrites_of_found (List.cons_ne_nil _ _) fun before => ?_
    have hblock := findConditional_block s.bracket_not_mem hpass before
    simpa only [hclosing, List.append_assoc, List.cons_append] using hblock
  have hall := findConditional_starts.replaceAll_between s.before_plain.1 s.behind_plain.1 hfound
  simpa only [source, ending, hmark, List.nil_append, List.append_assoc, List.cons_append]
    using hall

/-- The marks of a revealed condition are taken out. -/
theorem replaceAll_revealed_bare :
    replaceAll findRevealed (s.source .bare) = s.before ++ (s.body ++ s.behind) := by
  have hmark : ("<![if" : Text) = '<' :: Wrapping.bare.mark := rfl
  have hopened : Wrapping.bare.opened = [] := rfl
  have hstart : Rewrites findRevealed (("<![if" : Text) ++ (s.condition ++ [']', '>'])) []
      (s.body ++ Wrapping.bare.closing ++ s.behind) := by
    refine rewrites_of_found (List.cons_ne_nil _ _) fun before => ?_
    have hfirst := findRevealed_start s.bracket_not_mem before
      (s.body ++ Wrapping.bare.closing ++ s.behind)
    simpa only [List.append_assoc, List.cons_append, List.nil_append] using hfirst
  have hend : Rewrites findRevealed Wrapping.bare.closing [] s.behind :=
    rewrites_of_found (List.cons_ne_nil _ _) fun before => findRevealed_end before s.behind
  have hbody : Rewrites findRevealed s.body s.body (Wrapping.bare.closing ++ s.behind) :=
    (findRevealed_starts.passes s.body_plain.1 _).rewrites
  have hall := findRevealed_starts.replaceAll_between s.before_plain.1 s.behind_plain.1
    (hstart.append (hbody.append hend))
  simpa only [source, ending, hmark, hopened, List.nil_append, List.append_nil, List.append_assoc,
    List.cons_append] using hall

/-- What the cleanup leaves of the block between its marks. -/
def shown : Text :=
  match w with
  | .bare => s.body
  | .commented => []

/-- **What is left of a block**, if no namespace of its condition runs over the end of it. -/
theorem clean_source (h : NamespacesWithin (s.ending w) s.condition) :
    clean (s.source w) = s.before ++ (s.shown w ++ s.behind) := by
  obtain ⟨kept, hsub, hnamespace⟩ := s.replaceAll_namespace w h
  have hbrackets : replaceAll findRevealed (replaceAll findConditional
      ((s.narrow kept hsub).source w)) = s.before ++ (s.shown w ++ s.behind) := by
    cases w with
    | bare =>
      rw [replaceAll_conditional_bare]
      exact (s.narrow kept hsub).replaceAll_revealed_bare
    | commented =>
      have hplain : '<' ∉ s.before ++ s.behind := by
        simp [s.before_plain, s.behind_plain]
      rw [replaceAll_conditional_commented]
      exact findRevealed_needs.replaceAll_eq hplain
  -- without its marks there is no markup in the block
  have hshown : '<' ∉ s.shown w ∧ '=' ∉ s.shown w := by
    cases w with
    | bare => exact s.body_plain
    | commented => exact ⟨List.not_mem_nil, List.not_mem_nil⟩
  have hopen : '<' ∉ s.before ++ (s.shown w ++ s.behind) := by
    simp [s.before_plain, hshown, s.behind_plain]
  have hequals : '=' ∉ s.before ++ (s.shown w ++ s.behind) := by
    simp [s.before_plain, hshown, s.behind_plain]
  unfold clean
  simp only [List.foldl_cons, List.foldl_nil]
  rw [s.replaceAll_prologue, hnamespace, hbrackets, findOfficeParagraph_needs.replaceAll_eq hopen,
    findStyle_needs.replaceAll_eq hequals, findEmptyStyle_needs.replaceAll_eq hequals,
    findOfficeClass_needs.replaceAll_eq hequals]

/-- Does a text still have the body, between what stands around the block? -/
def KeepsBody (t : Text) : Prop :=
  ∃ middle, t = s.before ++ (middle ++ s.behind) ∧ s.body <:+: middle

theorem not_keepsBody_nil (h : s.body ≠ []) : ¬ s.KeepsBody [] := by
  rintro ⟨middle, hnil, hbody⟩
  have hmiddle : middle = [] :=
    (List.append_eq_nil_iff.1 (List.append_eq_nil_iff.1 hnil.symm).2).1
  rw [hmiddle] at hbody
  exact h (List.eq_nil_of_infix_nil hbody)

/-- **The body of a revealed block is kept** if and only if the marks are written as they are or
there is nothing in it. -/
theorem keepsBody_clean_iff (h : NamespacesWithin (s.ending w) s.condition) :
    s.KeepsBody (clean (s.source w)) ↔ w = .bare ∨ s.body = [] := by
  rw [s.clean_source w h]
  constructor
  · rintro ⟨middle, hsame, hbody⟩
    have hmiddle : s.shown w = middle :=
      List.append_cancel_right (List.append_cancel_left hsame)
    subst hmiddle
    cases w with
    | bare => exact Or.inl rfl
    | commented => exact Or.inr (List.eq_nil_of_infix_nil hbody)
  · rintro (rfl | hbody)
    · exact ⟨s.body, rfl, List.infix_rfl⟩
    · exact ⟨s.shown w, rfl, by rw [hbody]; exact List.nil_infix⟩

end RevealedBlock

/-- A greeting under a condition with a namespace of its own. -/
def namespacedGreeting : RevealedBlock where
  before := "Dear all, "
  condition := " xmlns:o=\"a b\" mso"
  body := "hello [again]"
  behind := " there"
  bracket_not_mem := by decide
  close_not_mem := by decide
  plain := by decide

/-- The namespace is closed in the condition, so the greeting is kept. -/
theorem keepsBody_clean_iff_greeting :
    NamespacesWithin (namespacedGreeting.ending .bare) namespacedGreeting.condition ∧
      namespacedGreeting.KeepsBody (clean (namespacedGreeting.source .bare)) := by
  have hread : findNamespace none
      (namespacedGreeting.condition ++ namespacedGreeting.ending .bare) =
        some ([], (" mso" : Text) ++ namespacedGreeting.ending .bare) := by
    decide +kernel
  have hwithin : NamespacesWithin (namespacedGreeting.ending .bare) namespacedGreeting.condition :=
    .taken (c := ' ') (x := "xmlns:o=\"a b\"") (t := " mso") (findNamespace_eq_some_iff.1 hread).2
      (namespacesWithin_of_equals (by decide) (by decide))
  exact ⟨hwithin, (namespacedGreeting.keepsBody_clean_iff .bare hwithin).2 (Or.inl rfl)⟩

/-- A greeting under a condition. -/
def greeting : RevealedBlock where
  before := ""
  condition := " !mso"
  body := "Hello"
  behind := ""
  bracket_not_mem := by decide
  close_not_mem := by decide
  plain := by decide

/-- A greeting under a condition with a namespace that is not closed in it. -/
def openGreeting : RevealedBlock where
  before := ""
  condition := " xmlns=x"
  body := "Hello"
  behind := ""
  bracket_not_mem := by decide
  close_not_mem := by decide
  plain := by decide

/-- A greeting is lost between comments, and where a namespace takes the end of its condition. -/
theorem greeting_lost :
    greeting.source .commented = "<!--[if !mso]><!-->Hello<!--<![endif]-->" ∧
      ¬ greeting.KeepsBody (clean (greeting.source .commented)) ∧
    openGreeting.source .bare = "<![if xmlns=x]>Hello<![endif]>" ∧
      ¬ openGreeting.KeepsBody (clean (openGreeting.source .bare)) := by
  have hcommented : clean (greeting.source .commented) = [] := by decide +kernel
  have hopen : clean (openGreeting.source .bare) = [] := by decide +kernel
  refine ⟨by decide +kernel, ?_, by decide +kernel, ?_⟩
  · rw [hcommented]
    exact greeting.not_keepsBody_nil (by decide)
  · rw [hopen]
    exact openGreeting.not_keepsBody_nil (by decide)

end HtmlMarkdown.Email.Outlook
