import HtmlMarkdown.Proofs.Convert.Marks
import HtmlMarkdown.Proofs.Convert.Words
import HtmlMarkdown.Proofs.Document.Remembered
import HtmlMarkdown.Proofs.Text.Spaced

/-!
# Blank space at the edges of emphasis

Emphasis trims what is in it, and a space is put in between two emphasized texts only. So blank
space at the inner edge of an element is gone where the element stands beside a text of the
paragraph, and the words on both sides run together unless there is more blank space between them.

* `Swallowed`: two children of a paragraph whose words are apart in the texts and not in the output.
* `lostAt_row`: along the children of a paragraph space is lost exactly where one swallows it.
* `convert_lostAt_iff`: **so words of a paragraph that are apart in its text are apart in the output,
  unless two children swallow the space between them.**
-/

namespace HtmlMarkdown

open Document

namespace Node

variable {n : Node}

/-- The texts at and below the node, one after the other. -/
def texts (n : Node) : Text := n.doc.ownText n.id ++ n.doc.currentText n.id

theorem currentText_children (n : Node) :
    n.doc.currentText n.id = n.children.flatMap texts := by
  rw [Document.currentText_eq, Node.children, List.flatMap_map]
  rfl

theorem texts_element (h : n.isElement = true) : n.texts = n.children.flatMap texts := by
  have hown : n.doc.ownText n.id = [] := ownText_of_element h
  rw [texts, hown, currentText_children, List.nil_append]

theorem texts_text {t : Text} (h : n.IsBareText) (hd : n.data = .text t) : n.texts = t := by
  have hown : n.doc.ownText n.id = t := ownText_text hd
  rw [texts, hown, currentText_children, h.children, List.flatMap_nil, List.append_nil]

end Node

namespace Convert

open Markdown Text

variable {n p c u : Node} {ms : List Mark} {r : MarkRow} {mark : Node → List Mark}
  {cs front between before after behind : List Node} {t : Text}

/-! ## Rows of marks -/

theorem kept_flatMap (mark : Node → List Mark) (cs : List Node) :
    kept (cs.flatMap mark) = cs.flatMap fun c => kept (mark c) := by
  induction cs with
  | nil => rfl
  | cons c cs ih => rw [List.flatMap_cons, List.flatMap_cons, kept_append, ih]

theorem markOnto_append (r : MarkRow) (cs cs' : List Node) :
    markOnto mark r (cs ++ cs') = markOnto mark (markOnto mark r cs) cs' := List.foldl_append

theorem markOnto_concat (r : MarkRow) (cs : List Node) (c : Node) :
    markOnto mark r (cs ++ [c]) = (markOnto mark r cs).add (isInline c) (mark c) := by
  rw [markOnto_append]
  rfl

/-- Nodes without marks leave no trace. -/
theorem markOnto_of_nil (h : ∀ c ∈ cs, mark c = []) (r : MarkRow) : markOnto mark r cs = r := by
  induction cs generalizing r with
  | nil => rfl
  | cons c cs ih =>
    change markOnto mark (r.add (isInline c) (mark c)) cs = r
    rw [ih fun c' hc' => h c' (List.mem_cons_of_mem _ hc'), h c List.mem_cons_self]
    rfl

/-- Nodes that are not inline stand side by side. -/
theorem markOnto_marks (h : ∀ c ∈ cs, isInline c = false) (r : MarkRow) :
    (markOnto mark r cs).marks = r.marks ++ cs.flatMap mark := by
  induction cs generalizing r with
  | nil => exact (List.append_nil _).symm
  | cons c cs ih =>
    have hadd : (r.add (isInline c) (mark c)).marks = r.marks ++ mark c := by
      rw [h c List.mem_cons_self, MarkRow.add]
      cases mark c with
      | nil => exact (List.append_nil _).symm
      | cons m ms => simp [MarkRow.gap, addedMarks]
    change (markOnto mark (r.add (isInline c) (mark c)) cs).marks = _
    rw [ih fun c' hc' => h c' (List.mem_cons_of_mem _ hc'), hadd, List.flatMap_cons,
      List.append_assoc]

theorem isBlankText_gap (r : MarkRow) (inline : Bool) (ms : List Mark) :
    isBlankText (r.gap inline ms) = true := by
  unfold MarkRow.gap
  split <;> decide

theorem kept_gap (r : MarkRow) (inline : Bool) (ms : List Mark) :
    kept (addedMarks (r.gap inline ms)) = r.gap inline ms := by
  unfold MarkRow.gap
  split <;> decide

/-- What is kept of a row with one more child. -/
theorem kept_add (hms : ms ≠ []) (r : MarkRow) (inline : Bool) :
    kept (r.add inline ms).marks = kept r.marks ++ r.gap inline ms ++ kept ms := by
  unfold MarkRow.add
  rw [if_neg (by rwa [List.isEmpty_iff]), kept_append, kept_append, kept_gap]

/-! ## The children of a paragraph -/

theorem textMarks_eq (h : n.IsBareText) : textMarks n = ownMarks (flowed n n.texts) := by
  obtain ⟨t, hd⟩ := h.data
  rw [textMarks, hd, Node.texts_text h hd]

theorem phraseMarks_text (h : c.IsBareText) : phraseMarks c = ownMarks (flowed c c.texts) := by
  rw [phraseMarks, if_neg (by rw [h.isElement]; exact Bool.false_ne_true), textMarks_eq h]

/-- No block is around an emphasized text, so it is not trimmed as a text. -/
theorem flowed_emphasized (h : n.IsEmphasized) (hc : c ∈ n.children) (t : Text) :
    flowed c t = collapse t := by
  have hblock : ∀ tag ∈ Tag.emphasis, Tag.isBlock tag = false := by decide
  unfold flowed
  rw [Node.parent?_child hc, Option.any_some, hblock _ h.tag_mem]
  rfl

/-- What stands between the delimiters of emphasis, before it is trimmed. -/
theorem phraseMarks_emphasized (h : c.IsEmphasized) :
    phraseMarks c =
        wrapMarks (delimiter c.tag) (delimiter c.tag) (c.children.flatMap textMarks) ∧
      (∀ m ∈ c.children.flatMap textMarks, m.own = true) ∧
      kept (c.children.flatMap textMarks) = c.children.flatMap fun g => collapse g.texts := by
  have hrow : (markOnto textMarks {} c.children).marks = c.children.flatMap textMarks :=
    markOnto_marks (fun g hg => (h.children g hg).isInline) {}
  refine ⟨by rw [phraseMarks, if_pos h.isElement, hrow], fun m hm => ?_, ?_⟩
  · obtain ⟨g, hg, hm⟩ := List.mem_flatMap.1 hm
    rw [textMarks_eq (h.children g hg)] at hm
    obtain ⟨_, -, rfl⟩ := List.mem_map.1 hm
    rfl
  · rw [kept_flatMap]
    refine List.flatMap_congr fun g hg => ?_
    rw [textMarks_eq (h.children g hg), kept_ownMarks, flowed_emphasized h hg]

/-- Emphasis keeps the texts in it, trimmed. -/
theorem kept_emphasized (h : c.IsEmphasized) :
    kept (phraseMarks c) = trim (c.children.flatMap fun g => collapse g.texts) := by
  have hdelimiter : ∀ tag ∈ Tag.emphasis, visible (delimiter tag) = delimiter tag := by decide
  obtain ⟨hmarks, hown, hkept⟩ := phraseMarks_emphasized h
  rw [hmarks, kept_wrapMarks (hdelimiter _ h.tag_mem) (hdelimiter _ h.tag_mem) hown, hkept]

/-- A child without marks is one of which nothing is kept. -/
theorem phraseMarks_eq_nil (h : c.IsBareText ∨ c.IsEmphasized) (hnil : kept (phraseMarks c) = []) :
    phraseMarks c = [] := by
  rcases h with h | h
  · rw [phraseMarks_text h, kept_ownMarks] at hnil
    rw [phraseMarks_text h, hnil]
    rfl
  · rw [kept_emphasized h] at hnil
    obtain ⟨hmarks, hown, hkept⟩ := phraseMarks_emphasized h
    rw [hmarks]
    exact wrapMarks_eq_nil hown (by rw [hkept, hnil])

theorem not_lostAt_flowed (n : Node) (t : Text) (k : Nat) : ¬ LostAt t (flowed n t) k := by
  have hcollapse : ¬ LostAt t (collapse t) k :=
    (lostAt_collapse rfl).not.2 not_lostAt_self
  have hstart : ¬ LostAt t (trimStart (collapse t)) k :=
    (lostAt_trimStart (visible_collapse t)).not.2 hcollapse
  unfold flowed
  simp only
  split <;> split
  · exact (lostAt_trimEnd ((visible_trimStart _).trans (visible_collapse t))).not.2 hstart
  · exact (lostAt_trimEnd (visible_collapse t)).not.2 hcollapse
  · exact hstart
  · exact hcollapse

/-- Collapsing texts in a row leaves blank space wherever there was some. -/
theorem spaceAt_flatMap_collapse {m : Nat} (f : Node → Text) (cs : List Node) :
    SpaceAt (cs.flatMap fun c => collapse (f c)) m ↔ SpaceAt (cs.flatMap f) m := by
  induction cs generalizing m with
  | nil => rfl
  | cons c cs ih =>
    rw [List.flatMap_cons, List.flatMap_cons, spaceAt_append, spaceAt_append, spaceAt_collapse,
      visible_collapse, ih]

theorem visible_flatMap_collapse (f : Node → Text) (cs : List Node) :
    visible (cs.flatMap fun c => collapse (f c)) = visible (cs.flatMap f) := by
  rw [visible_flatMap, visible_flatMap]
  exact List.flatMap_congr fun c _ => visible_collapse (f c)

theorem visible_phrase (h : c.IsBareText ∨ c.IsEmphasized) :
    visible (kept (phraseMarks c)) = visible c.texts := by
  rcases h with h | h
  · rw [phraseMarks_text h, kept_ownMarks, visible_flowed]
  · rw [kept_emphasized h, visible_trim, Node.texts_element h.isElement, visible_flatMap_collapse]

/-- **Within a child** no space is lost. -/
theorem not_lostAt_phrase (h : c.IsBareText ∨ c.IsEmphasized) (k : Nat) :
    ¬ LostAt c.texts (kept (phraseMarks c)) k := by
  rcases h with h | h
  · rw [phraseMarks_text h, kept_ownMarks]
    exact not_lostAt_flowed _ _ _
  · rw [kept_emphasized h, Node.texts_element h.isElement,
      lostAt_trim (visible_flatMap_collapse _ _),
      lostAt_congr rfl fun _ _ => spaceAt_flatMap_collapse _ _]
    exact not_lostAt_self

/-- A child with something to see leaves a trace. -/
theorem kept_phrase_ne_nil (h : c.IsBareText ∨ c.IsEmphasized) (hc : visible c.texts ≠ []) :
    kept (phraseMarks c) ≠ [] := by
  intro hnil
  rw [← visible_phrase h, hnil] at hc
  exact hc rfl

theorem phraseMarks_ne_nil (h : c.IsBareText ∨ c.IsEmphasized) (hc : visible c.texts ≠ []) :
    phraseMarks c ≠ [] := by
  intro hnil
  refine kept_phrase_ne_nil h hc ?_
  rw [hnil]
  rfl

theorem kept_emphasized_edges (h : c.IsEmphasized) (hc : visible c.texts ≠ []) :
    startsVisible (kept (phraseMarks c)) = true ∧ endsVisible (kept (phraseMarks c)) = true := by
  have hne := kept_phrase_ne_nil (Or.inr h) hc
  rw [kept_emphasized h] at hne ⊢
  exact (trim_edges _).resolve_left hne

/-- Emphasis starts and ends in a delimiter. -/
theorem phraseMarks_edges (h : c.IsEmphasized) :
    (phraseMarks c).head?.any Mark.isBlank = false ∧
      (phraseMarks c).getLast?.any Mark.isBlank = false := by
  have hdelimiter : ∀ tag ∈ Tag.emphasis, addedMarks (delimiter tag) ≠ [] ∧
      (addedMarks (delimiter tag)).head?.any Mark.isBlank = false ∧
      (addedMarks (delimiter tag)).getLast?.any Mark.isBlank = false := by decide
  obtain ⟨hne, hhead, hlast⟩ := hdelimiter _ h.tag_mem
  rw [phraseMarks, if_pos h.isElement]
  unfold wrapMarks
  simp only
  split
  · exact ⟨rfl, rfl⟩
  · rw [List.getLast?_append_of_ne_nil _ hne, List.append_assoc, List.head?_append_of_ne_nil _ hne]
    exact ⟨hhead, hlast⟩

/-! ### Beside another child -/

theorem atEdge_phrase (h : c.IsBareText ∨ c.IsEmphasized) : atEdge (some c) = false := by
  rcases h with h | h
  · obtain ⟨t, hd⟩ := h.data
    exact atEdge_text hd
  · have hblock : ∀ tag ∈ Tag.emphasis, Tag.isBlock tag = false := by decide
    exact hblock _ h.tag_mem

/-- Behind another child a text is not at the start of the paragraph. -/
theorem atEdge_prev? (hp : p.IsParagraph) (h : p.children = before ++ c :: after)
    (hne : before ≠ []) : atEdge c.prev? = false := by
  obtain ⟨b, hb⟩ := Option.ne_none_iff_exists'.1 (mt List.getLast?_eq_none_iff.1 hne)
  rw [Node.prev?_eq h, hb]
  refine atEdge_phrase (hp.children b ?_)
  rw [h]
  exact List.mem_append_left _ (List.mem_of_getLast? hb)

theorem atEdge_next? (hp : p.IsParagraph) (h : p.children = before ++ c :: after)
    (hne : after ≠ []) : atEdge c.next? = false := by
  obtain ⟨a, ha⟩ := Option.ne_none_iff_exists'.1 (mt List.head?_eq_none_iff.1 hne)
  rw [Node.next?_eq h, ha]
  refine atEdge_phrase (hp.children a ?_)
  rw [h]
  exact List.mem_append_right _ (List.mem_cons_of_mem _ (List.mem_of_head? ha))

/-- Before another child, one with something to see ends visibly if it is emphasized or its text
does. -/
theorem endsVisible_phrase (hp : p.IsParagraph) (h : p.children = before ++ c :: after)
    (hne : after ≠ []) (hc : visible c.texts ≠ []) :
    endsVisible (kept (phraseMarks c)) = true ↔
      (c.isElement = false → endsVisible c.texts = true) := by
  rcases hp.children c (by rw [h]; simp) with hbare | hemphasized
  · rw [phraseMarks_text hbare, kept_ownMarks, endsVisible_of_flowed (atEdge_next? hp h hne)]
    simp [hbare.isElement]
  · simp [(kept_emphasized_edges hemphasized hc).2, hemphasized.isElement]

theorem startsVisible_phrase (hp : p.IsParagraph) (h : p.children = before ++ c :: after)
    (hne : before ≠ []) (hc : visible c.texts ≠ []) :
    startsVisible (kept (phraseMarks c)) = true ↔
      (c.isElement = false → startsVisible c.texts = true) := by
  rcases hp.children c (by rw [h]; simp) with hbare | hemphasized
  · rw [phraseMarks_text hbare, kept_ownMarks, startsVisible_of_flowed (atEdge_prev? hp h hne)]
    simp [hbare.isElement]
  · simp [(kept_emphasized_edges hemphasized hc).1, hemphasized.isElement]

/-- Between two children, a blank one leaves no trace if it is emphasized or empty. -/
theorem phraseMarks_eq_nil_iff (hp : p.IsParagraph) (h : p.children = before ++ c :: after)
    (hbefore : before ≠ []) (hafter : after ≠ []) (hc : visible c.texts = []) :
    phraseMarks c = [] ↔ (c.isElement = false → c.texts = []) := by
  have hchild := hp.children c (by rw [h]; simp)
  have hmarks : phraseMarks c = [] ↔ kept (phraseMarks c) = [] :=
    ⟨fun hnil => by rw [hnil]; rfl, phraseMarks_eq_nil hchild⟩
  rw [hmarks]
  rcases hchild with hbare | hemphasized
  · rw [phraseMarks_text hbare, kept_ownMarks]
    have hflowed : flowed c c.texts = [] ↔ c.texts = [] := by
      refine ⟨flowed_eq_nil (atEdge_prev? hp h hbefore) (atEdge_next? hp h hafter), fun hnil => ?_⟩
      rw [hnil, flowed_nil]
    rw [hflowed]
    simp [hbare.isElement]
  · have hnil : kept (phraseMarks c) = [] := by
      rw [← visible_phrase (Or.inr hemphasized), visible_eq_nil_iff, ← trim_eq_nil_iff] at hc
      rw [kept_emphasized hemphasized] at hc ⊢
      rwa [trim_trim] at hc
    simp [hnil, hemphasized.isElement]

/-! ## Two children -/

/-- **Space that is swallowed**: the words of two children with nothing to see between them are
apart, but only by blank space in emphasis; and one of the two is a text of the paragraph. -/
structure Swallowed (u : Node) (between : List Node) (c : Node) : Prop where
  left_shown : visible u.texts ≠ []
  right_shown : visible c.texts ≠ []
  between_blank : ∀ m ∈ between, visible m.texts = []
  apart : meets (u.texts ++ between.flatMap Node.texts) c.texts = false
  -- the texts of the paragraph itself have no blank space there
  left_emphasized : u.isElement = false → endsVisible u.texts = true
  between_emphasized : ∀ m ∈ between, m.isElement = false → m.texts = []
  right_emphasized : c.isElement = false → startsVisible c.texts = true
  beside_text : u.isElement = false ∨ c.isElement = false

/-- The marks of the first children of a paragraph. -/
def row (before : List Node) : MarkRow := markOnto phraseMarks {} before

/-- Behind the last child that left a trace, the row ends in its marks. -/
theorem row_split (hbetween : ∀ m ∈ between, phraseMarks m = []) :
    row (front ++ u :: between) = (row front).add (isInline u) (phraseMarks u) := by
  have hassoc : front ++ u :: between = (front ++ [u]) ++ between := by simp
  rw [row, hassoc, markOnto_append, markOnto_of_nil hbetween, markOnto_concat]
  rfl

/-- Where nothing stands between two children, a space is put in exactly between two emphasized
ones. -/
theorem gap_row (hu : u.IsBareText ∨ u.IsEmphasized) (hc : c.IsBareText ∨ c.IsEmphasized)
    (hne : phraseMarks u ≠ []) (r : MarkRow) :
    (r.add (isInline u) (phraseMarks u)).gap (isInline c) (phraseMarks c) =
      if u.isElement && c.isElement then [' '] else [] := by
  have hadd : r.add (isInline u) (phraseMarks u) =
      { marks := r.marks ++ addedMarks (r.gap (isInline u) (phraseMarks u)) ++ phraseMarks u
        afterInline := isInline u } := by
    rw [MarkRow.add, if_neg (by rwa [List.isEmpty_iff])]
  rw [hadd, MarkRow.gap]
  simp only
  rw [List.getLast?_append_of_ne_nil _ hne]
  rcases hu with hu | hu
  · simp [hu.isInline, hu.isElement]
  · rcases hc with hc | hc
    · simp [hc.isInline, hc.isElement]
    · simp [hu.isInline, hu.isElement, hc.isInline, hc.isElement, (phraseMarks_edges hu).2,
        (phraseMarks_edges hc).1]

/-- Behind the last child that left a trace, the next one meets what that ends in, unless a space is
put in. -/
theorem meets_row_split (hu : u.IsBareText ∨ u.IsEmphasized) (hc : c.IsBareText ∨ c.IsEmphasized)
    (hne : phraseMarks u ≠ []) (hbetween : ∀ m ∈ between, phraseMarks m = []) :
    meets (kept (row (front ++ u :: between)).marks ++
        (row (front ++ u :: between)).gap (isInline c) (phraseMarks c)) (kept (phraseMarks c)) =
      (!(u.isElement && c.isElement) && meets (kept (phraseMarks u)) (kept (phraseMarks c))) := by
  have hkept : kept (phraseMarks u) ≠ [] := fun hnil => hne (phraseMarks_eq_nil hu hnil)
  have hspace : isBlank ' ' = true := by decide
  rw [row_split hbetween, gap_row hu hc hne, kept_add hne, meets]
  cases u.isElement && c.isElement with
  | true =>
    rw [if_pos rfl, endsVisible_concat, hspace]
    rfl
  | false =>
    rw [if_neg Bool.false_ne_true, List.append_nil, endsVisible_append _ hkept]
    rfl

/-- **Where two children meet in the output**: one of them is a text of the paragraph, and the texts
of the paragraph have no blank space between their words. -/
theorem meets_row (hp : p.IsParagraph) (h : p.children = front ++ u :: between ++ c :: after)
    (hu : visible u.texts ≠ []) (hc : visible c.texts ≠ [])
    (hbetween : ∀ m ∈ between, visible m.texts = []) :
    meets (kept (row (front ++ u :: between)).marks ++
        (row (front ++ u :: between)).gap (isInline c) (phraseMarks c)) (kept (phraseMarks c)) =
        true ↔
      (u.isElement = false → endsVisible u.texts = true) ∧
        (∀ m ∈ between, m.isElement = false → m.texts = []) ∧
        (c.isElement = false → startsVisible c.texts = true) ∧
        (u.isElement = false ∨ c.isElement = false) := by
  have hchild : ∀ m ∈ front ++ u :: between ++ c :: after, m.IsBareText ∨ m.IsEmphasized :=
    fun m hm => hp.children m (by rwa [h])
  have hu' := hchild u (by simp)
  have hc' := hchild c (by simp)
  have htrace : ∀ m ∈ between, (phraseMarks m = [] ↔ (m.isElement = false → m.texts = [])) := by
    intro m hm
    obtain ⟨left, right, rfl⟩ := List.append_of_mem hm
    have hsplit : p.children = (front ++ u :: left) ++ m :: (right ++ c :: after) := by simp [h]
    exact phraseMarks_eq_nil_iff hp hsplit (by simp) (by simp) (hbetween m hm)
  by_cases hall : ∀ m ∈ between, phraseMarks m = []
  · have hsplit : p.children = front ++ u :: (between ++ c :: after) := by simp [h]
    have hinside : ∀ m ∈ between, m.isElement = false → m.texts = [] :=
      fun m hm => (htrace m hm).1 (hall m hm)
    rw [meets_row_split hu' hc' (phraseMarks_ne_nil hu' hu) hall, meets, Bool.and_eq_true_iff,
      Bool.and_eq_true_iff, endsVisible_phrase hp hsplit (by simp) hu,
      startsVisible_phrase hp h (by simp) hc, Bool.not_eq_true', Bool.and_eq_false_iff]
    exact ⟨fun hm => ⟨hm.2.1, hinside, hm.2.2, hm.1⟩, fun hm => ⟨hm.2.2.2, hm.1, hm.2.2.1⟩⟩
  · -- the last trace between them is a text of the paragraph, all blank
    have hsome : ∃ m ∈ between, phraseMarks m ≠ [] := by
      by_contra hno
      push Not at hno
      exact hall hno
    obtain ⟨left, m, right, rfl, hm, hright⟩ := exists_last hsome
    have hm' := hchild m (by simp)
    have hblank : isBlankText (kept (phraseMarks m)) = true := by
      rw [← visible_eq_nil_iff, visible_phrase hm', hbetween m (by simp)]
    have hassoc : front ++ u :: (left ++ m :: right) = (front ++ u :: left) ++ m :: right := by
      simp
    refine iff_of_false (fun hmeets => ?_) fun hall => hm ((htrace m (by simp)).2 ?_)
    · rw [hassoc, meets_row_split hm' hc' hm fun b hb => not_not.1 (hright b hb), meets,
        endsVisible_of_blank hblank, Bool.false_and, Bool.and_false] at hmeets
      cases hmeets
    · exact hall.2.1 m (by simp)

/-- The child swallows the space between its words and those before it. -/
def Swallows (before : List Node) (c : Node) : Prop :=
  ∃ front u between, before = front ++ u :: between ∧ Swallowed u between c

/-- What is kept of a row with one more child. -/
theorem kept_row_concat (before : List Node) (c : Node) :
    ∃ g, isBlankText g = true ∧
      kept (row (before ++ [c])).marks = kept (row before).marks ++ g ++ kept (phraseMarks c) ∧
      (phraseMarks c ≠ [] → g = (row before).gap (isInline c) (phraseMarks c)) := by
  have hrow : row (before ++ [c]) = (row before).add (isInline c) (phraseMarks c) :=
    markOnto_concat ..
  rw [hrow]
  by_cases hnil : phraseMarks c = []
  · refine ⟨[], rfl, ?_, fun hne => absurd hnil hne⟩
    rw [hnil, List.append_nil]
    exact (List.append_nil _).symm
  · exact ⟨_, isBlankText_gap _ _ _, kept_add hnil _ _, fun _ => rfl⟩

theorem visible_row (hp : p.IsParagraph) (hbefore : ∀ c ∈ before, c ∈ p.children) :
    visible (kept (row before).marks) = visible (before.flatMap Node.texts) := by
  induction before using List.reverseRecOn with
  | nil => rfl
  | append_singleton before c ih =>
    obtain ⟨g, hg, hkept, -⟩ := kept_row_concat before c
    rw [hkept, visible_append, visible_append, visible_eq_nil_iff.2 hg, List.append_nil,
      ih fun m hm => hbefore m (by simp [hm]), visible_phrase (hp.children c (hbefore c (by simp))),
      List.flatMap_append, List.flatMap_singleton, visible_append]

/-- **At a seam** words that were apart meet exactly where space is swallowed. -/
theorem swallows_iff (hp : p.IsParagraph) (h : p.children = before ++ c :: after) :
    Swallows before c ↔ visible (before.flatMap Node.texts) ≠ [] ∧ visible c.texts ≠ [] ∧
      meets (kept (row before).marks ++ (row before).gap (isInline c) (phraseMarks c))
        (kept (phraseMarks c)) = true ∧ meets (before.flatMap Node.texts) c.texts = false := by
  -- the texts end as those behind the last child with something to see
  have hmeets : ∀ {front between : List Node} {u : Node}, visible u.texts ≠ [] →
      meets ((front ++ u :: between).flatMap Node.texts) c.texts =
        meets (u.texts ++ between.flatMap Node.texts) c.texts := by
    intro front between u hu
    have hne : u.texts ++ between.flatMap Node.texts ≠ [] := by
      intro hnil
      rw [(List.append_eq_nil_iff.1 hnil).1] at hu
      exact hu rfl
    rw [List.flatMap_append, List.flatMap_cons, meets, meets, endsVisible_append _ hne]
  constructor
  · rintro ⟨front, u, between, rfl, hs⟩
    refine ⟨fun hnil => hs.left_shown ?_, hs.right_shown, ?_, ?_⟩
    · rw [visible_flatMap, List.flatMap_eq_nil_iff] at hnil
      exact hnil u (by simp)
    · exact (meets_row hp h hs.left_shown hs.right_shown hs.between_blank).2
        ⟨hs.left_emphasized, hs.between_emphasized, hs.right_emphasized, hs.beside_text⟩
    · rw [hmeets hs.left_shown, hs.apart]
  · rintro ⟨hshown, hc, hmet, hapart⟩
    have hsome : ∃ u ∈ before, visible u.texts ≠ [] := by
      by_contra hno
      push Not at hno
      rw [visible_flatMap] at hshown
      exact hshown (List.flatMap_eq_nil_iff.2 hno)
    obtain ⟨front, u, between, rfl, hu, hbetween⟩ := exists_last hsome
    have hblank : ∀ m ∈ between, visible m.texts = [] := fun m hm => not_not.1 (hbetween m hm)
    obtain ⟨hleft, hinside, hright, hbeside⟩ := (meets_row hp h hu hc hblank).1 hmet
    rw [hmeets hu] at hapart
    exact ⟨front, u, between, rfl, hu, hc, hblank, hapart, hleft, hinside, hright, hbeside⟩

/-! ## A row of children -/

/-- **Along the children of a paragraph** space is lost exactly where one of them swallows it. -/
theorem lostAt_row (hp : p.IsParagraph) : ∀ (before after : List Node) (k : Nat),
    p.children = before ++ after →
      (LostAt (before.flatMap Node.texts) (kept (row before).marks) k ↔
        ∃ ahead c behind, before = ahead ++ c :: behind ∧ Swallows ahead c ∧
          k = (visible (ahead.flatMap Node.texts)).length) := by
  intro before
  induction before using List.reverseRecOn with
  | nil =>
    intro after k _
    refine iff_of_false not_lostAt_self ?_
    rintro ⟨ahead, c, behind, hnil, -⟩
    simp at hnil
  | append_singleton before c ih =>
    intro after k h
    have hsplit : p.children = before ++ c :: after := by simpa using h
    have hbefore : ∀ m ∈ before, m ∈ p.children := fun m hm => by simp [hsplit, hm]
    have hc := hp.children c (by simp [hsplit])
    have hrow := visible_row hp hbefore
    obtain ⟨g, hg, hkept, hgap⟩ := kept_row_concat before c
    have hvisible : visible (kept (row before).marks ++ g) =
        visible (before.flatMap Node.texts) := by
      rw [visible_append, visible_eq_nil_iff.2 hg, List.append_nil, hrow]
    have hfront : LostAt (before.flatMap Node.texts) (kept (row before).marks ++ g) k ↔
        LostAt (before.flatMap Node.texts) (kept (row before).marks) k :=
      lostAt_between (v := []) hrow rfl g
    have hseam : (visible (before.flatMap Node.texts) ≠ [] ∧ visible c.texts ≠ [] ∧
        meets (kept (row before).marks ++ g) (kept (phraseMarks c)) = true ∧
          meets (before.flatMap Node.texts) c.texts = false) ↔ Swallows before c := by
      rw [swallows_iff hp hsplit]
      refine and_congr_right fun _ => and_congr_right fun hshown => ?_
      rw [hgap (phraseMarks_ne_nil hc hshown)]
    have hchild : ¬ ∃ m, k = (visible (before.flatMap Node.texts)).length + m ∧
        LostAt c.texts (kept (phraseMarks c)) m := by
      rintro ⟨m, -, hm⟩
      exact not_lostAt_phrase hc m hm
    rw [hkept, List.flatMap_append, List.flatMap_singleton,
      lostAt_append hvisible (visible_phrase hc), hfront, ih (c :: after) k hsplit, hseam,
      or_iff_right hchild]
    rw [exists_split_concat (P := fun ahead d => Swallows ahead d ∧
      k = (visible (ahead.flatMap Node.texts)).length), and_comm (a := Swallows before c)]

/-! ## A paragraph -/

/-- Line breaks around a paragraph do not show. -/
theorem visible_wrapMarks {opening closing : Text} (ho : isBlankText opening = true)
    (hc : isBlankText closing = true) (ms : List Mark) :
    visible (kept (wrapMarks opening closing ms)) = visible (kept ms) := by
  obtain ⟨v, w, hv, hw, hms⟩ := kept_eq_between ms
  obtain ⟨v', w', hv', hw', hwrap⟩ := kept_wrapMarks_eq_between ho hc ms
  rw [hwrap, hms, visible_between hv hw, visible_between hv' hw']

/-- Nor do they lose or make space between visible characters. -/
theorem lostAt_wrapMarks {opening closing : Text} (ho : isBlankText opening = true)
    (hc : isBlankText closing = true) (h : visible (kept ms) = visible t) (k : Nat) :
    LostAt t (kept (wrapMarks opening closing ms)) k ↔ LostAt t (kept ms) k := by
  obtain ⟨v, w, hv, hw, hms⟩ := kept_eq_between ms
  obtain ⟨v', w', hv', -, hwrap⟩ := kept_wrapMarks_eq_between ho hc ms
  have htrim : visible (kept (trimMarks ms)) = visible t := by
    rw [← h, hms, visible_between hv hw]
  rw [hwrap, hms, lostAt_between htrim hv, lostAt_between htrim hv']

/-- **Where the space between words is lost.** A paragraph of texts and emphasized texts is
converted, with default options and outside of mail; the output spells its marks. What is kept of
the texts in it has the visible characters of the text of the paragraph. Where two of them are apart
there, they are apart in the output, unless two children swallow the space between them. -/
theorem convert_lostAt_iff (hp : p.IsParagraph) :
    (∃ out, Setup.plain.convert p = .ok out ∧
        Spells ((paragraphMarks p).map Mark.glyph) out) ∧
      p.text = (p.doc.remembered? p.id).getD (p.doc.currentText p.id) ∧
      visible (kept (paragraphMarks p)) = visible (p.doc.currentText p.id) ∧
      ∀ k, LostAt (p.doc.currentText p.id) (kept (paragraphMarks p)) k ↔
        ∃ front u between c behind, p.children = front ++ u :: between ++ c :: behind ∧
          Swallowed u between c ∧
          k = (visible ((front ++ u :: between).flatMap Node.texts)).length := by
  have hvisible : visible (kept (row p.children).marks) =
      visible (p.children.flatMap Node.texts) := visible_row hp fun _ hc => hc
  refine ⟨convert_paragraph_spells hp, text_of_element hp.isOpen.1, ?_, fun k => ?_⟩
  · rw [Node.currentText_children, ← hvisible]
    exact visible_wrapMarks (by decide) (by decide) _
  · have hmarks : LostAt (p.children.flatMap Node.texts) (kept (paragraphMarks p)) k ↔
        LostAt (p.children.flatMap Node.texts) (kept (row p.children).marks) k :=
      lostAt_wrapMarks (by decide) (by decide) hvisible k
    rw [Node.currentText_children, hmarks, lostAt_row hp _ [] k (List.append_nil _).symm]
    constructor
    · rintro ⟨_, c, behind, h, ⟨front, u, between, rfl, hs⟩, hk⟩
      exact ⟨front, u, between, c, behind, h, hs, hk⟩
    · rintro ⟨front, u, between, c, behind, h, hs, hk⟩
      exact ⟨_, c, behind, h, ⟨front, u, between, rfl, hs⟩, hk⟩

/-- A paragraph with a text and two emphasized ones. -/
def emphases : Document :=
  Document.ofRoot "p" [] [.text "a ", .element "b" [] [.text "b"], .element "i" [] [.text "c"]]

theorem convert_lostAt_iff_emphases :
    emphases.root.IsParagraph ∧ emphases.root.text = "a bc".toList ∧
      kept (paragraphMarks emphases.root) = "\na b c\n\n".toList ∧
      ∀ front u between c behind, emphases.root.children = front ++ u :: between ++ c :: behind →
        ¬ Swallowed u between c := by
  have hp : emphases.root.IsParagraph := by decide
  have hkept : kept (paragraphMarks emphases.root) = "\na b c\n\n".toList := by decide
  have hcurrent : emphases.root.doc.currentText emphases.root.id = "a bc".toList := by decide
  have hno : ∀ k < 4, ¬ LostAt "a bc".toList "\na b c\n\n".toList k := by decide
  obtain ⟨-, -, -, hiff⟩ := convert_lostAt_iff hp
  rw [hkept, hcurrent] at hiff
  refine ⟨hp, by decide, hkept, fun front u between c behind h hs => ?_⟩
  have hlost := (hiff _).2 ⟨front, u, between, c, behind, h, hs, rfl⟩
  exact hno _ (hlost.2.1.trans_le (by decide)) hlost

/-- A paragraph with a text and an emphasized one, and the space between them in the emphasis. -/
def innerSpace : Document :=
  Document.ofRoot "p" [] [.text "a", .element "b" [] [.text " b"]]

/-- Nothing is put in for the space that the emphasis trims. -/
theorem convert_swallows_space :
    innerSpace.root.IsParagraph ∧ innerSpace.root.text = "a b".toList ∧
      Setup.plain.convert innerSpace.root = .ok "\na**b**\n\n" ∧
      LostAt "a b".toList (kept (paragraphMarks innerSpace.root)) 1 := by
  have hp : innerSpace.root.IsParagraph := by decide
  have hb : (innerSpace.node 2).IsEmphasized := by decide
  have hchildren : innerSpace.root.children = [innerSpace.node 1, innerSpace.node 2] := rfl
  have hbold : render Setup.plain 511 (innerSpace.node 2) = .ok "**b**" := by
    have hchildren' : (innerSpace.node 2).children = [innerSpace.node 3] := rfl
    rw [render_only hb.isOpen hchildren' (render_text rfl), finish_emphasis hb.tag_mem]
    rfl
  refine ⟨hp, by decide, ?_, by decide⟩
  rw [convert_eq_render, maxLevels, render_element hp.isOpen, hchildren,
    renderOnto_cons_ok (render_text rfl), renderOnto_cons_ok hbold, renderOnto_nil, hp.tag_eq,
    Setup.ruleFor_plain, Rule.General.find?_paragraph, Except.map, Setup.finish_paragraph]
  rfl

end Convert

end HtmlMarkdown
