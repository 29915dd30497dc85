import HtmlMarkdown.Proofs.Email.StyledSpan

/-!
# The style of a cleaned span

What is written in place of a style is read back by its quotes (`styleOf?`). Of the other
attributes some are gone, and an Office class may leave a scrap behind, but no style comes up in
what is left of them (`rewrites_row_class`). So the style that is read is the one that was written,
up to its first double quote (`StyledSpan.styleOf?_clean`): a style that stood in single quotes for
the sake of double quotes in it is cut short.

* `styleOf?_clean_iff`: **when the style of a span is kept.**
* `styleOf?_clean_font`: a span with the name of a font in double quotes.
-/

namespace HtmlMarkdown.Email.Outlook

open Text

variable {a : Attribute} {as : List Attribute} {c : Char} {cs g t x y rest : Text}

/-! ## The style of a tag -/

/-- The style attribute, its name in either case and its value in quotes, behind blank space. -/
def readStyle : Finder
  | _, t => do quoted? (← dropEquals? (← dropWord? "style" (← dropBlanks? t)))

theorem readStyle_anchored : Anchored readStyle "style" fun u => (dropEquals? u).bind quoted? :=
  .of_equals (by decide) (by decide) fun _ _ => rfl

/-- **The value of the first style attribute in quotes**, read from its opening quote to the next
one of the same kind. -/
def styleOf? : Text → Option Text
  | [] => none
  | c :: cs => ((readStyle none (c :: cs)).map (·.1)).or (styleOf? cs)

theorem styleOf?_passes (h : Passes readStyle x rest) : styleOf? (x ++ rest) = styleOf? rest := by
  induction x with
  | nil => rfl
  | cons c cs ih =>
    rw [List.cons_append, styleOf?, h.head none]
    exact ih h.tail

theorem styleOf?_found (h : readStyle none t = some (x, rest)) : styleOf? t = some x := by
  cases t with
  | nil => cases h
  | cons c cs =>
    rw [styleOf?, h]
    rfl

/-! ## Text without a style -/

/-- **No style attribute is read in the text**, whatever follows it. -/
def Mute (x : Text) : Prop :=
  ∀ rest, Follows rest → Passes readStyle x rest ∧ Follows (x ++ rest)

theorem Mute.append (hx : Mute x) (hy : Mute y) : Mute (x ++ y) := by
  intro rest hrest
  obtain ⟨hpass, hfollows⟩ := hy rest hrest
  obtain ⟨hpass', hfollows'⟩ := hx (y ++ rest) hfollows
  rw [← List.append_assoc] at hfollows'
  exact ⟨hpass'.append hpass, hfollows'⟩

theorem Mute.styleOf?_append (h : Mute x) (hrest : Follows rest) :
    styleOf? (x ++ rest) = styleOf? rest :=
  styleOf?_passes (h rest hrest).1

theorem Scrap.mute (h : Scrap x) : Mute x := fun _ hrest =>
  ⟨readStyle_anchored.asks.passes_scrap h hrest, h.follows hrest⟩

theorem Lacks.mute (h : Lacks "style" a) : Mute a.text := fun rest hrest =>
  ⟨readStyle_anchored.passes_other (by decide) a hrest (h.dropWord? (by decide)),
    (a.fresh_text rest).follows⟩

/-- **Where Office classes are taken out of a row**, no style attribute comes up. -/
theorem rewrites_row_class (has : ∀ a ∈ as, Lacks "style" a) (hg : Scrap g) (hx : Scrap x)
    (hrest : Fresh rest) :
    ∃ out, Mute out ∧ Rewrites findOfficeClass (g ++ (row as ++ x)) out rest := by
  have hasks := findOfficeClass_anchored.asks
  induction as generalizing g x with
  | nil =>
    have hscrap : Scrap (g ++ x) := hg.append hx
    exact ⟨g ++ x, hscrap.mute, (hasks.passes_scrap hscrap hrest.follows).rewrites⟩
  | cons a as ih =>
    obtain ⟨ha, has⟩ := List.forall_mem_cons.1 has
    -- what may be taken out together with the attribute, and what stands behind that
    have hsplit : ∃ x' t, row as ++ x = x' ++ t ∧ Scrap x' ∧ Fresh (t ++ rest) ∧
        ∀ g, Scrap g → ∃ out, Mute out ∧ Rewrites findOfficeClass (g ++ t) out rest := by
      cases as with
      | nil =>
        refine ⟨x, [], (List.append_nil x).symm, hx, hrest, fun g hg => ?_⟩
        rw [List.append_nil]
        exact ⟨g, hg.mute, (hasks.passes_scrap hg hrest.follows).rewrites⟩
      | cons b bs =>
        refine ⟨[], row (b :: bs) ++ x, rfl, Scrap.nil, ?_, fun g hg => ih has hg hx⟩
        rw [List.append_assoc, row_cons_append]
        exact b.fresh_text _
    obtain ⟨x', t, heq, hx', hfresh, hbehind⟩ := hsplit
    have hhead : Passes findOfficeClass g (a.text ++ (x' ++ t) ++ rest) := by
      rw [List.append_assoc]
      exact hasks.passes_scrap hg (a.fresh_text _).follows
    rw [row_cons_append, heq]
    rcases findOfficeClass_cases a hx' hfresh with hpass | ⟨y, r, hne, hcut, hr, hfound⟩
    · obtain ⟨out, hout, hrow⟩ := hbehind x' hx'
      rw [← List.append_assoc] at hpass
      exact ⟨g ++ (a.text ++ out), hg.mute.append (ha.mute.append hout),
        hhead.rewrites.append (hpass.rewrites.append hrow)⟩
    · obtain ⟨out, hout, hrow⟩ := hbehind r hr
      have hmatch : Rewrites findOfficeClass y [] (r ++ t ++ rest) := by
        rw [List.append_assoc]
        exact rewrites_of_found hne hfound
      have hsame : a.text ++ (x' ++ t) = y ++ (r ++ t) := by
        rw [← List.append_assoc, hcut, List.append_assoc]
      rw [hsame] at hhead ⊢
      exact ⟨g ++ ([] ++ out), hg.mute.append hout, hhead.rewrites.append (hmatch.append hrow)⟩

/-! ## What is read of a style -/

namespace StyledSpan

variable (s : StyledSpan)

/-- **The cleaned tag**: the style as it was written stands between text without a style, unless it
was blank up to its first quote. -/
theorem exists_clean_around : ∃ out out', Mute out ∧ Mute out' ∧
    clean s.source = s.around out (if isBlankText s.reading then [] else s.restyled) out' := by
  obtain ⟨before, behind, hbefore, hbehind, hclean⟩ := s.exists_clean_eq
  have hasks := findOfficeClass_anchored.asks
  obtain ⟨out', hout', hrow'⟩ := rewrites_row_class hbehind Scrap.nil Scrap.nil s.fresh_close
  rw [List.nil_append, List.append_nil] at hrow'
  rw [hclean, kept]
  cases hblank : isBlankText s.reading with
  | true =>
    -- what is left of the style goes with the attributes before it
    have hfresh : Fresh (row behind ++ s.close) := fresh_row behind s.fresh_close
    obtain ⟨out, hout, hrow⟩ := rewrites_row_class hbefore Scrap.nil s.scrap_leftover hfresh
    rw [List.nil_append] at hrow
    have hjoin : s.around (row before) s.leftover (row behind) =
        s.around (row before ++ s.leftover) [] (row behind) := by
      simp [around]
    refine ⟨out, out', hout, hout', ?_⟩
    rw [if_pos rfl, if_pos rfl, hjoin]
    refine s.replaceAll_around hasks ?_ hrow (Passes.nil _ _).rewrites hrow'
    rw [List.append_assoc]
    exact follows_row before (s.scrap_leftover.follows hfresh.follows)
  | false =>
    obtain ⟨out, hout, hrow⟩ := rewrites_row_class hbefore Scrap.nil Scrap.nil
      (s.fresh_restyled (row behind ++ s.close))
    rw [List.nil_append, List.append_nil] at hrow
    have hpass : Passes findOfficeClass s.restyled (row behind ++ s.close) :=
      s.passes_restyled findOfficeClass_anchored rfl
    refine ⟨out, out', hout, hout', ?_⟩
    rw [if_neg Bool.false_ne_true, if_neg Bool.false_ne_true]
    exact s.replaceAll_around hasks (follows_row before (s.fresh_restyled _).follows) hrow
      hpass.rewrites hrow'

/-- **What is read of the style** of the cleaned tag: the value without its vendor declarations, up
to its first quote. -/
theorem styleOf?_clean :
    styleOf? (clean s.source) = if isBlankText s.reading then none else some s.reading := by
  obtain ⟨out, out', hout, hout', hclean⟩ := s.exists_clean_around
  have hhead : Mute ('<' :: s.tag) := s.scrap_head.mute
  have hfollows : Follows (out' ++ s.close) := (hout' s.close s.fresh_close.follows).2
  rw [hclean, around]
  cases isBlankText s.reading with
  | true =>
    have hend : styleOf? s.close = none := by
      have hnil : Fresh [] := ⟨nofun, rfl⟩
      have hread := s.scrap_close.mute.styleOf?_append hnil.follows
      rwa [List.append_nil] at hread
    rw [if_pos rfl, if_pos rfl, List.nil_append, hhead.styleOf?_append (hout _ hfollows).2,
      hout.styleOf?_append hfollows, hout'.styleOf?_append s.fresh_close.follows, hend]
  | false =>
    have hwritten : Follows (s.restyled ++ (out' ++ s.close)) := (s.fresh_restyled _).follows
    have hread : readStyle none (s.restyled ++ (out' ++ s.close)) =
        some (s.reading, s.leftover ++ (out' ++ s.close)) := by
      rw [s.find_restyled readStyle_anchored, style_read,
        quoted?_append (Or.inl rfl) s.quote_not_mem_reading]
    rw [if_neg Bool.false_ne_true, if_neg Bool.false_ne_true,
      hhead.styleOf?_append (hout _ hwritten).2, hout.styleOf?_append hwritten,
      styleOf?_found hread]

end StyledSpan

/-- **When the style of a span is kept**: the value has no double quote, and no vendor declaration
starts in it. -/
theorem styleOf?_clean_iff (s : StyledSpan) :
    styleOf? (clean s.source) = some (trim s.value) ↔
      '"' ∉ s.value ∧ ¬ HasVendorDeclaration s.value := by
  have hreading : '"' ∉ s.value → s.reading = s.shown := by
    intro hquote
    refine List.takeWhile_eq_self_iff.2 fun c hc => ?_
    rw [bne_iff_ne]
    rintro rfl
    exact hquote (s.shown_sublist.mem hc)
  rw [s.styleOf?_clean]
  constructor
  · intro h
    split at h
    · cases h
    · have hsame : s.reading = trim s.value := Option.some.inj h
      have hquote : '"' ∉ s.value := by
        rw [← mem_trim_iff (by decide), ← hsame]
        exact s.quote_not_mem_reading
      rw [hreading hquote, StyledSpan.shown, trim_replaceAll_vendor_iff] at hsame
      exact ⟨hquote, hsame⟩
  · rintro ⟨hquote, hvendor⟩
    have hshown : s.shown = trim s.value := (trim_replaceAll_vendor_iff s.value).2 hvendor
    have hblank : ¬ isBlankText (trim s.value) = true := by
      rw [← visible_eq_nil_iff, visible_trim, visible_eq_nil_iff, s.value_visible]
      exact Bool.false_ne_true
    rw [hreading hquote, hshown, if_neg hblank]

/-- A span with blank space about its style and an Office class behind it. -/
def colorSpan : StyledSpan where
  tag := "SPAN"
  before := []
  gap := " "
  name := "Style"
  left := " "
  right := " "
  quote := '\''
  value := " color: red "
  behind := [{
    gap := " "
    name := "class"
    value := "=MsoNormal"
    gap_ne_nil := by decide
    gap_blank := by decide
    name_token := ⟨by decide, by decide⟩
    value_is := @IsValue.bare [] [] "MsoNormal" rfl rfl ⟨by decide, by decide⟩ }]
  ending := []
  tag_eq := by decide
  lacks := by decide
  gap_ne_nil := by decide
  gap_blank := by decide
  name_eq := by decide
  left_blank := rfl
  right_blank := rfl
  quote_is := by decide
  value_visible := by decide
  quote_not_mem := by decide
  open_not_mem := by decide
  equals_not_mem := by decide
  ending_blank := rfl

theorem styleOf?_clean_iff_color :
    colorSpan.source = "<SPAN Style = ' color: red ' class=MsoNormal>" ∧
      ('"' ∉ colorSpan.value ∧ ¬ HasVendorDeclaration colorSpan.value) ∧
      styleOf? (clean "<SPAN Style = ' color: red ' class=MsoNormal>") = some "color: red" := by
  have hsource : colorSpan.source = "<SPAN Style = ' color: red ' class=MsoNormal>" := by decide
  have hkept : '"' ∉ colorSpan.value ∧ ¬ HasVendorDeclaration colorSpan.value := by
    decide +kernel
  have hvalue : trim colorSpan.value = "color: red" := by decide
  have hread := (styleOf?_clean_iff colorSpan).2 hkept
  rw [hsource, hvalue] at hread
  exact ⟨hsource, hkept, hread⟩

/-- A span as Office programs write it: the name of a font stands in double quotes. -/
def fontSpan : StyledSpan where
  tag := "span"
  before := [{
    gap := " "
    name := "lang"
    value := "=EN-US"
    gap_ne_nil := by decide
    gap_blank := by decide
    name_token := ⟨by decide, by decide⟩
    value_is := @IsValue.bare [] [] "EN-US" rfl rfl ⟨by decide, by decide⟩ }]
  gap := " "
  name := "style"
  left := []
  right := []
  quote := '\''
  value := "font-family:\"Calibri\",sans-serif"
  behind := []
  ending := []
  tag_eq := by decide
  lacks := by decide
  gap_ne_nil := by decide
  gap_blank := by decide
  name_eq := by decide
  left_blank := rfl
  right_blank := rfl
  quote_is := by decide
  value_visible := by decide
  quote_not_mem := by decide
  open_not_mem := by decide
  equals_not_mem := by decide
  ending_blank := rfl

/-- **A font in double quotes** cuts the style short: all that is read of it is what stands before
the first of them. -/
theorem styleOf?_clean_font :
    fontSpan.source = "<span lang=EN-US style='font-family:\"Calibri\",sans-serif'>" ∧
      ¬ HasVendorDeclaration fontSpan.value ∧
      clean fontSpan.source = "<span lang=EN-US style=\"font-family:\"Calibri\",sans-serif\">" ∧
      styleOf? (clean fontSpan.source) = some "font-family:" ∧
      styleOf? (clean fontSpan.source) ≠ some (trim fontSpan.value) := by
  decide +kernel

end HtmlMarkdown.Email.Outlook
