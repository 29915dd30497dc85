import HtmlMarkdown.Proofs.Email.Attributes
import HtmlMarkdown.Proofs.Email.Vendor

/-!
# The tag of a span with a style

The start tag of a span has no brackets but its own, so the passes for comments and paragraphs
leave it alone, and the others go over its attributes one by one (`replaceAll_around`). The style
attribute is written again in double quotes, whichever it stood in, and nothing in its value is
escaped. Its value then ends at the first double quote (`reading`); the rest of it stands in the tag
as it is (`leftover`).

* `rewrites_style`: **the style attribute is written again.**
* `exists_clean_eq`: **the tag before its classes are looked at.**
-/

namespace HtmlMarkdown.Email.Outlook

open Text

variable {find : Finder} {next : Text → Option (Text × Text)} {a : Attribute} {c : Char}
  {b b' e e' m m' t x rest word : Text}

/-- A word in either case is a token. -/
theorem isToken_of_toLower (h : t.map Char.toLower = word) (hword : word.all Char.isAlpha = true)
    (hne : word ≠ []) : IsToken t := by
  refine ⟨?_, List.all_eq_true.2 fun c hc => ?_⟩
  · rintro rfl
    exact hne h.symm
  · have hletter : c.toLower.isAlpha = true := by
      refine List.all_eq_true.1 hword _ ?_
      rw [← h]
      exact List.mem_map_of_mem hc
    have hsigns : ∀ d ∈ ['"', '\'', '<', '>', '='], d.toLower.isAlpha = false := by simp
    have hvisible : isBlank c = false := by
      refine Bool.eq_false_iff.2 fun hblank => ?_
      have hfold : isWord c = true := isWord_of_foldChar (by rwa [foldChar_of_toLower hletter])
      rw [isWord_of_isBlank hblank] at hfold
      cases hfold
    rw [isTokenChar, hvisible, Bool.not_false, Bool.true_and, decide_eq_true_iff]
    intro hmem
    rw [hsigns c hmem] at hletter
    cases hletter

/-- The first character of a word in either case. -/
theorem exists_cons_of_toLower {w : Char} (h : t.map Char.toLower = w :: word)
    (hw : w.isAlpha = true) : ∃ c cs, t = c :: cs ∧ foldChar c = w := by
  obtain ⟨c, cs, rfl, hc, -⟩ := List.map_eq_cons_iff.1 h
  refine ⟨c, cs, rfl, ?_⟩
  rw [foldChar_of_toLower (by rwa [hc]), hc]

/-! ## The tag -/

/-- **The start tag of a span with a style attribute**: the value is not blank and has neither a
quote of the kind around it nor an opening bracket nor an equals sign. No other attribute has the
word in its name. -/
structure StyledSpan where
  tag : Text
  before : List Attribute
  gap : Text
  name : Text
  left : Text
  right : Text
  quote : Char
  value : Text
  behind : List Attribute
  ending : Text
  tag_eq : tag.map Char.toLower = "span"
  lacks : ∀ a ∈ before ++ behind, Lacks "style" a
  gap_ne_nil : gap ≠ []
  gap_blank : isBlankText gap = true
  name_eq : name.map Char.toLower = "style"
  left_blank : isBlankText left = true
  right_blank : isBlankText right = true
  quote_is : IsQuote quote
  value_visible : isBlankText value = false
  quote_not_mem : quote ∉ value
  open_not_mem : '<' ∉ value
  equals_not_mem : '=' ∉ value
  ending_blank : isBlankText ending = true

namespace StyledSpan

variable (s : StyledSpan)

/-- The style attribute. -/
def style : Attribute where
  gap := s.gap
  name := s.name
  value := s.left ++ '=' :: (s.right ++ s.quote :: (s.value ++ [s.quote]))
  gap_ne_nil := s.gap_ne_nil
  gap_blank := s.gap_blank
  name_token := isToken_of_toLower s.name_eq (by decide) (by decide)
  value_is := .quoted s.left_blank s.right_blank s.quote_is s.quote_not_mem s.open_not_mem
    (Or.inl s.equals_not_mem)

/-- The end of the tag. -/
def close : Text := s.ending ++ ['>']

/-- The tag with one of its attributes between the others. -/
def around (b m e : Text) : Text := '<' :: s.tag ++ (b ++ (m ++ (e ++ s.close)))

/-- **The text of the tag.** -/
def source : Text := s.around (row s.before) s.style.text (row s.behind)

/-- The value without its vendor declarations. -/
def shown : Text := trim (replaceAll findVendorDeclaration s.value)

/-- What is read of the value once it is written in double quotes. -/
def reading : Text := s.shown.takeWhile (· != '"')

/-- What stands behind that in the tag. -/
def leftover : Text := ((s.shown ++ ['"']).dropWhile (· != '"')).drop 1

/-- The style attribute as it is written again. -/
def restyled : Text := s.gap ++ ("style" ++ ('=' :: '"' :: (s.shown ++ ['"'])))

theorem fresh_close : Fresh s.close := by
  unfold close
  constructor
  · intro c hc
    cases hending : s.ending with
    | nil =>
      rw [hending] at hc
      exact Or.inr (Option.some.inj hc).symm
    | cons d ds =>
      have hblank := s.ending_blank
      rw [hending] at hc hblank
      rw [← Option.some.inj hc]
      exact Or.inl (Bool.and_eq_true_iff.1 hblank).1
  · exact dropEquals?_append (not_mem_of_isBlankText s.ending_blank (by decide)) (by decide)

theorem scrap_close : Scrap s.close := by
  unfold close
  refine ⟨?_, Or.inr ?_⟩
  · rw [List.mem_append, not_or]
    exact ⟨not_mem_of_isBlankText s.ending_blank (by decide), by decide⟩
  · rw [endsVisible_concat]
    rfl

theorem tag_token : IsToken s.tag := isToken_of_toLower s.tag_eq (by decide) (by decide)

theorem scrap_head : Scrap ('<' :: s.tag) := by
  refine ⟨?_, Or.inr ?_⟩
  · rw [List.mem_cons, not_or]
    exact ⟨by decide, s.tag_token.equals_not_mem⟩
  · rw [← List.singleton_append, endsVisible_append _ s.tag_token.ne_nil]
    exact s.tag_token.endsVisible

/-- **A pass over the tag** goes over its parts one by one. -/
theorem replaceAll_around (h : Asks find word) (hfollows : Follows (b ++ (m ++ (e ++ s.close))))
    (hb : Rewrites find b b' (m ++ (e ++ s.close))) (hm : Rewrites find m m' (e ++ s.close))
    (he : Rewrites find e e' s.close) :
    replaceAll find (s.around b m e) = s.around b' m' e' := by
  have hclose : Passes find s.close [] :=
    h.passes_sign s.ending_blank (by decide) (by decide) []
  have hbehind : Rewrites find (e ++ s.close) (e' ++ s.close) [] := by
    refine Rewrites.append ?_ hclose.rewrites
    rwa [List.append_nil]
  have hattributes :
      Rewrites find (b ++ (m ++ (e ++ s.close))) (b' ++ (m' ++ (e' ++ s.close))) [] := by
    refine Rewrites.append ?_ (Rewrites.append ?_ hbehind)
    · rwa [List.append_nil]
    · rwa [List.append_nil]
  refine Rewrites.replaceAll_eq (Rewrites.append (Passes.rewrites ?_) hattributes)
  rw [List.append_nil]
  exact h.passes_scrap s.scrap_head hfollows

/-! ## Brackets -/

/-- A rule for an opening bracket finds nothing in the tag of a span. -/
theorem replaceAll_open (h : Needs find '<') (hfirst : ∀ before (c : Char) t, foldChar c = 's' →
    find before ('<' :: c :: t) = none) (hb : '<' ∉ b) (hm : '<' ∉ m) (he : '<' ∉ e) :
    replaceAll find (s.around b m e) = s.around b m e := by
  obtain ⟨c, cs, htag, hfold⟩ := exists_cons_of_toLower (w := 's') s.tag_eq (by decide)
  have hclose : '<' ∉ s.close := by
    unfold close
    rw [List.mem_append, not_or]
    exact ⟨not_mem_of_isBlankText s.ending_blank (by decide), by decide⟩
  have hrest : '<' ∉ s.tag ++ (b ++ (m ++ (e ++ s.close))) := by
    have htoken : '<' ∉ s.tag := fun hmem => (s.tag_token.char hmem).2.2.2.1 rfl
    simp only [List.mem_append, not_or]
    exact ⟨htoken, hb, hm, he, hclose⟩
  refine replaceAll_eq_of_none fun before u hu => ?_
  -- the one bracket there is starts the tag, with the first letter of its name behind it
  rcases List.suffix_cons_iff.1 hu with rfl | hu
  · rw [List.append_eq, htag]
    exact hfirst before c _ hfold
  · cases hfind : find before u with
    | none => rfl
    | some found => exact absurd (hu.mem (h hfind)) hrest

/-- **The passes for brackets** leave the tag as it is. -/
theorem replaceAll_brackets (hb : '<' ∉ b) (hm : '<' ∉ m) (he : '<' ∉ e) :
    replaceAll findPrologue (s.around b m e) = s.around b m e ∧
      replaceAll findConditional (s.around b m e) = s.around b m e ∧
      replaceAll findRevealed (s.around b m e) = s.around b m e ∧
      replaceAll findOfficeParagraph (s.around b m e) = s.around b m e := by
  refine ⟨s.replaceAll_open findPrologue_needs (fun before c t hc => ?_) hb hm he,
    s.replaceAll_open findConditional_needs (fun before c t hc => ?_) hb hm he,
    s.replaceAll_open findRevealed_needs (fun before c t hc => ?_) hb hm he,
    s.replaceAll_open findOfficeParagraph_needs (fun before c t hc => ?_) hb hm he⟩
  · simp [findPrologue, dropWord?, hc]
  · simp [findConditional, dropWord?, hc]
  · simp [findRevealed, dropWord?, hc]
  · have hslash : c ≠ '/' := by
      rintro rfl
      exact absurd hc (by decide)
    simp [findOfficeParagraph, dropChar?, dropWord?, hc, hslash]

end StyledSpan

/-! ## The style is written again -/

theorem findStyle_eq (before : Option Char) (t : Text) :
    findStyle before t = if atWordEdge before t then
      (dropWord? "style" t).bind fun u => ((dropEquals? u).bind quoted?).map fun found =>
        ("style=\"" ++ trim (replaceAll findVendorDeclaration found.1) ++ "\"", found.2)
      else none := by
  change ((guard (atWordEdge before t = true) : Option Unit).bind fun _ =>
    (dropWord? "style" t).bind fun u => (dropEquals? u).bind fun v => (quoted? v).bind fun found =>
      some ("style=\"" ++ trim (replaceAll findVendorDeclaration found.1) ++ "\"", found.2)) = _
  cases atWordEdge before t with
  | false => rfl
  | true =>
    refine congrArg (dropWord? "style" t).bind (funext fun u => ?_)
    cases dropEquals? u with
    | none => rfl
    | some v => exact Option.map_eq_bind.symm

theorem findStyle_of_none (h : dropWord? "style" t = none) (before : Option Char) :
    findStyle before t = none := by
  rw [findStyle_eq, h]
  exact ite_self none

/-- Blank space is passed over. -/
theorem passes_style_blank (hx : isBlankText x = true) (rest : Text) :
    Passes findStyle x rest := by
  intro before u hu hne
  obtain ⟨c, cs, rfl⟩ := List.exists_cons_of_ne_nil hne
  have hblank : isBlank c = true := List.all_eq_true.1 hx c (hu.mem List.mem_cons_self)
  exact findStyle_of_none (dropWord?_endsWord (by decide) (by decide)
    (endsWord_cons (isWord_of_isBlank hblank) _)) before

theorem Lacks.passes_style (h : Lacks "style" a) (hrest : Follows rest) :
    Passes findStyle a.text rest := by
  refine findStyle_asks.passes_attribute (by decide) a hrest fun hvalue => ?_
  refine (passes_style_blank a.gap_blank _).append fun before u hu hne => ?_
  refine findStyle_of_none ?_ before
  rw [dropWord?_append (a.value_is.endsWord hvalue rest) (by decide),
    (dropThrough?_eq_none_iff (by decide)).1 h u hu]
  rfl

namespace StyledSpan

variable (s : StyledSpan)

theorem value_read (rest : Text) :
    (dropEquals? (s.style.value ++ rest)).bind quoted? = some (s.value, rest) := by
  have hstart : ∀ t, startsVisible (s.quote :: t) = true := by
    intro t
    rcases s.quote_is with h | h <;> rw [h] <;> rfl
  have hvalue : s.style.value ++ rest =
      s.left ++ '=' :: (s.right ++ s.quote :: (s.value ++ s.quote :: rest)) := by
    simp [style]
  rw [hvalue, dropEquals?_left s.left_blank, trimStart_append_blank s.right_blank,
    trimStart_of_starts (hstart _), Option.bind_some, quoted?_append s.quote_is s.quote_not_mem]

/-- The style attribute is found behind blank space. -/
theorem findStyle_name (hc : isBlank c = true) (rest : Text) :
    findStyle (some c) (s.name ++ (s.style.value ++ rest)) =
      some ("style=\"" ++ s.shown ++ "\"", rest) := by
  have hedge : atWordEdge (some c) (s.name ++ (s.style.value ++ rest)) = true := by
    obtain ⟨d, ds, hname, hfold⟩ := exists_cons_of_toLower (w := 's') s.name_eq (by decide)
    have hword : isWord d = true := isWord_of_foldChar (by rw [hfold]; decide)
    rw [hname]
    simp [atWordEdge, isWord_of_isBlank hc, hword]
  have hname := dropWord?_of_toLower (s.style.value ++ rest) s.name_eq (by decide)
  rw [findStyle_eq, if_pos hedge, hname, Option.bind_some, s.value_read, Option.map_some]
  rfl

/-- **The style attribute is written again**, in double quotes. -/
theorem rewrites_style (rest : Text) : Rewrites findStyle s.style.text s.restyled rest := by
  intro before
  obtain ⟨g, c, hgap⟩ := (List.eq_nil_or_concat' s.gap).resolve_left s.gap_ne_nil
  have hblank : isBlank c = true := by
    refine List.all_eq_true.1 s.gap_blank c ?_
    rw [hgap]
    exact List.mem_append_right g List.mem_cons_self
  obtain ⟨d, ds, hname⟩ := List.exists_cons_of_ne_nil s.style.name_token.ne_nil
  have hfound := s.findStyle_name hblank rest
  have hsplit : s.name ++ (s.style.value ++ rest) = d :: ((ds ++ s.style.value) ++ rest) := by
    rw [← List.append_assoc]
    exact congrArg (· ++ rest) (congrArg (· ++ s.style.value) hname)
  rw [hsplit] at hfound
  obtain ⟨before', hmatch⟩ := replaceAllFrom_found hfound
  -- the name is looked at behind the last blank character
  have hlast : s.gap.getLast?.or before = some c := by
    rw [hgap, List.getLast?_concat]
    rfl
  have hpass : Passes findStyle s.gap (s.name ++ (s.style.value ++ rest)) :=
    passes_style_blank s.gap_blank _
  have htext : s.style.text ++ rest = s.gap ++ (s.name ++ (s.style.value ++ rest)) :=
    s.style.text_append rest
  refine ⟨before', ?_⟩
  rw [htext, hpass.replaceAllFrom_eq, hlast, hsplit, hmatch, restyled]
  simp

end StyledSpan

/-! ## The written style -/

/-- A style in double quotes is read from its first quote on. -/
theorem style_read (value : Text → Option (Text × Text)) (t : Text) :
    (dropWord? "style" ("style" ++ ('=' :: '"' :: t))).bind
      (fun u => (dropEquals? u).bind value) = value ('"' :: t) := by
  have hequals : dropEquals? ('=' :: '"' :: t) = some ('"' :: t) := dropEquals?_left (x := []) rfl _
  rw [dropWord?_of_toLower _ (by decide) (by decide), Option.bind_some, hequals, Option.bind_some]

namespace StyledSpan

variable (s : StyledSpan)

theorem shown_sublist : s.shown.Sublist s.value := trim_replaceAll_vendor_sublist s.value

theorem equals_not_mem_shown : '=' ∉ s.shown :=
  fun hmem => s.equals_not_mem (s.shown_sublist.mem hmem)

theorem quote_not_mem_reading : '"' ∉ s.reading := by
  intro hmem
  simpa using List.mem_takeWhile_imp hmem

/-- The value as it is written ends at its first quote. -/
theorem shown_cut : s.shown ++ ['"'] = s.reading ++ '"' :: s.leftover := by
  have hmem : '"' ∈ s.shown ++ ['"'] := List.mem_append_right _ List.mem_cons_self
  obtain ⟨p, r, hcut, hp⟩ := List.eq_append_cons_of_mem hmem
  have hquote : ∀ c, ['"'].head? = some c → (c != '"') = false := by
    intro c hc
    rw [← Option.some.inj hc]
    rfl
  have hreading : s.reading = p := by
    rw [reading, ← takeWhile_append_of_head hquote, hcut, takeWhile_ne_append hp]
  have hleftover : s.leftover = r := by
    rw [leftover, hcut, dropWhile_ne_append hp]
    rfl
  rw [hreading, hleftover, hcut]

theorem scrap_leftover : Scrap s.leftover := by
  have hscrap : Scrap (s.shown ++ ['"']) := by
    refine ⟨?_, Or.inr ?_⟩
    · rw [List.mem_append, not_or]
      exact ⟨s.equals_not_mem_shown, by decide⟩
    · rw [endsVisible_concat]
      rfl
  exact hscrap.suffix ((List.drop_suffix _ _).trans (List.dropWhile_suffix _))

theorem restyled_append (rest : Text) : s.restyled ++ rest =
    s.gap ++ ("style" ++ ('=' :: '"' :: (s.reading ++ '"' :: (s.leftover ++ rest)))) := by
  simp [restyled, s.shown_cut]

theorem fresh_restyled (rest : Text) : Fresh (s.restyled ++ rest) := by
  rw [restyled_append]
  exact fresh_gap s.gap_blank s.gap_ne_nil ⟨by decide, by decide⟩ _

/-- What is found at the written attribute is found behind the blank space before it. -/
theorem find_restyled (h : Anchored find word next) (before : Option Char) (rest : Text) :
    find before (s.restyled ++ rest) = (dropWord? word
      ("style" ++ ('=' :: '"' :: (s.reading ++ '"' :: (s.leftover ++ rest))))).bind next := by
  rw [h.reads, restyled_append, dropBlanks?_append s.gap_blank s.gap_ne_nil rfl]
  rfl

/-- Where nothing is found at the written attribute, it is passed over. -/
theorem passes_restyled (h : Anchored find word next) (hnone : (dropWord? word
      ("style" ++ ('=' :: '"' :: (s.reading ++ '"' :: (s.leftover ++ rest))))).bind next = none) :
    Passes find s.restyled rest := by
  have hsplit : s.restyled =
      s.gap ++ ("style" : Text) ++ ([] ++ ['='] ++ ([] ++ ['"'] ++ (s.shown ++ ['"']))) := by
    simp [restyled]
  rw [hsplit]
  refine Passes.append (h.passes_name s.gap_blank ⟨by decide, by decide⟩ ?_) ?_
  · rw [← hnone, s.shown_cut]
    simp
  · refine (h.asks.passes_sign rfl (by decide) (by decide) _).append ?_
    refine (h.asks.passes_sign rfl (by decide) (by decide) _).append ?_
    exact h.asks.passes_quoted (Or.inl s.equals_not_mem_shown) (Or.inl rfl) rest

/-- The written attribute, or what is left of it if it is taken out. -/
def kept : Text := if isBlankText s.reading then s.leftover else s.restyled

/-- **A style that is blank up to its first quote is taken out**, and what is behind that quote
stays. -/
theorem rewrites_empty (hrest : Follows rest) : Rewrites findEmptyStyle s.restyled s.kept rest := by
  have hanchored := findEmptyStyle_anchored
  have hquoted := quoted?_append (Or.inl rfl) s.quote_not_mem_reading (s.leftover ++ rest)
  unfold kept
  cases hblank : isBlankText s.reading with
  | false =>
    rw [if_neg Bool.false_ne_true]
    refine (s.passes_restyled hanchored ?_).rewrites
    rw [style_read, hquoted, Option.bind_some, hblank]
    rfl
  | true =>
    rw [if_pos rfl]
    have hfound : ∀ before, findEmptyStyle before (s.restyled ++ rest) =
        some ([], s.leftover ++ rest) := by
      intro before
      rw [s.find_restyled hanchored, style_read, hquoted, Option.bind_some, hblank]
      rfl
    have hsplit : s.restyled = s.gap ++ "style=\"" ++ s.reading ++ ['"'] ++ s.leftover := by
      simp [restyled, s.shown_cut]
    rw [hsplit]
    refine Rewrites.append (y := []) ?_
      (hanchored.asks.passes_scrap s.scrap_leftover hrest).rewrites
    refine rewrites_of_found (by simp) fun before => ?_
    rw [← hfound before, hsplit]
    simp

/-! ## The tag before its classes are looked at -/

/-- Namespaces are taken out of the tag. -/
theorem replaceAll_namespace : ∃ before behind, before.Sublist s.before ∧ behind.Sublist s.behind ∧
    replaceAll findNamespace s.source = s.around (row before) s.style.text (row behind) := by
  obtain ⟨before, hbefore, hrow⟩ :=
    rewrites_row_namespace s.before (s.style.fresh_text (row s.behind ++ s.close))
  obtain ⟨behind, hbehind, hrow'⟩ := rewrites_row_namespace s.behind s.fresh_close
  refine ⟨before, behind, hbefore, hbehind, ?_⟩
  have hname : dropWord? "xmlns" s.name = none := by
    obtain ⟨c, cs, hname, hfold⟩ := exists_cons_of_toLower (w := 's') s.name_eq (by decide)
    rw [hname]
    simp [dropWord?, hfold]
  have hpass : Passes findNamespace s.style.text (row s.behind ++ s.close) :=
    findNamespace_anchored.passes_other (by decide) s.style
      (fresh_row s.behind s.fresh_close).follows hname
  exact s.replaceAll_around findNamespace_anchored.asks
    (follows_row s.before (s.style.fresh_text _).follows) hrow hpass.rewrites hrow'

variable {before behind : List Attribute}

/-- The style is written again between the other attributes. -/
theorem replaceAll_style (hbefore : ∀ a ∈ before, Lacks "style" a)
    (hbehind : ∀ a ∈ behind, Lacks "style" a) :
    replaceAll findStyle (s.around (row before) s.style.text (row behind)) =
      s.around (row before) s.restyled (row behind) := by
  refine s.replaceAll_around findStyle_asks (follows_row before (s.style.fresh_text _).follows)
    (Passes.rewrites ?_) (s.rewrites_style _) (Passes.rewrites ?_)
  · exact passes_row (fun a ha _ hrest => (hbefore a ha).passes_style hrest.follows)
      (s.style.fresh_text _)
  · exact passes_row (fun a ha _ hrest => (hbehind a ha).passes_style hrest.follows) s.fresh_close

/-- The written style stays between the other attributes, or is taken out up to its second
quote. -/
theorem replaceAll_empty (hbefore : ∀ a ∈ before, Lacks "style" a)
    (hbehind : ∀ a ∈ behind, Lacks "style" a) :
    replaceAll findEmptyStyle (s.around (row before) s.restyled (row behind)) =
      s.around (row before) s.kept (row behind) := by
  have hpass : ∀ a, Lacks "style" a → ∀ rest, Fresh rest → Passes findEmptyStyle a.text rest :=
    fun a ha _ hrest => findEmptyStyle_anchored.passes_other (by decide) a hrest.follows
      (ha.dropWord? (by decide))
  refine s.replaceAll_around findEmptyStyle_anchored.asks
    (follows_row before (s.fresh_restyled _).follows) (Passes.rewrites ?_)
    (s.rewrites_empty (fresh_row behind s.fresh_close).follows) (Passes.rewrites ?_)
  · exact passes_row (fun a ha => hpass a (hbefore a ha)) (s.fresh_restyled _)
  · exact passes_row (fun a ha => hpass a (hbehind a ha)) s.fresh_close

/-- **Namespaces are gone, and the style is written again**, or taken out up to its second quote. -/
theorem exists_clean_eq : ∃ before behind, (∀ a ∈ before, Lacks "style" a) ∧
    (∀ a ∈ behind, Lacks "style" a) ∧
    clean s.source = replaceAll findOfficeClass (s.around (row before) s.kept (row behind)) := by
  obtain ⟨hlacks, hlacks'⟩ := List.forall_mem_append.1 s.lacks
  obtain ⟨before, behind, hsub, hsub', hnamespace⟩ := s.replaceAll_namespace
  have hbefore : ∀ a ∈ before, Lacks "style" a := fun a ha => hlacks a (hsub.subset ha)
  have hbehind : ∀ a ∈ behind, Lacks "style" a := fun a ha => hlacks' a (hsub'.subset ha)
  refine ⟨before, behind, hbefore, hbehind, ?_⟩
  have hopen := s.style.open_not_mem
  -- prologues are looked for before namespaces, the other brackets after them
  obtain ⟨hprologue, -⟩ :=
    s.replaceAll_brackets (open_not_mem_row s.before) hopen (open_not_mem_row s.behind)
  obtain ⟨-, hconditional, hrevealed, hparagraph⟩ :=
    s.replaceAll_brackets (open_not_mem_row before) hopen (open_not_mem_row behind)
  unfold clean
  simp only [List.foldl_cons, List.foldl_nil]
  rw [source, hprologue, ← source, hnamespace, hconditional, hrevealed, hparagraph,
    s.replaceAll_style hbefore hbehind, s.replaceAll_empty hbefore hbehind]

end StyledSpan

end HtmlMarkdown.Email.Outlook
