import HtmlMarkdown.Proofs.Document.Outline
import HtmlMarkdown.Proofs.Rule.Mail

/-!
# What the rules read

Most rules read nothing of an element but what it holds itself and what stands around it. Some read
the text below it, which takes in what is in ignored elements: `LooksBelow` says when. Paired nodes
that are twins wherever a rule looks below are treated alike.

* `Table.isLayout_eq`, `Table.render_eq`: the tables of twins.
* `Rule.General.action_eq`, `Rule.Mail.action_eq`: **a rule does the same with both nodes.**
-/

namespace HtmlMarkdown

variable {d d' : Document} {n n' : Node}

/-! ## Tables -/

namespace Table

/-- The rows of twins are twins. -/
theorem rows_twin (h : Twin d d' n n') : List.Forall₂ (Twin d d') (rows n) (rows n') := by
  refine forall₂_filter (fun m m' hm => ?_) h.descendants
  rw [hm.paired.tag_eq]
  congr 1
  -- the nearest table above the row is the one table if and only if it is the other
  have htag : ∀ a a', Paired d d' a a' → (a.tag == "table") = (a'.tag == "table") :=
    fun _ _ ha => by rw [ha.tag_eq]
  rcases forall₂_find? htag hm.paired.ancestors with
    ⟨hnone, hnone'⟩ | ⟨a, a', ha, hsome, hsome'⟩
  · rw [hnone, hnone', Option.any_none, Option.any_none]
  · rw [hsome, hsome', Option.any_some, Option.any_some, Bool.eq_iff_iff, beq_iff_eq, beq_iff_eq]
    exact ha.id_eq_iff h.paired

theorem isZero_eq (h : Paired d d' n n') (name : String) : isZero n name = isZero n' name := by
  unfold isZero
  rw [h.attr?_eq]

/-- **Twins are layout tables alike.** -/
theorem isLayout_eq (h : Twin d d' n n') : isLayout n = isLayout n' := by
  have hrows := rows_twin h
  have hheader : (rows n).any (fun row => row.elementChildren.any (·.tag == "th")) =
      (rows n').any fun row => row.elementChildren.any (·.tag == "th") :=
    forall₂_any (fun _ _ hrow => forall₂_any (fun _ _ hc => by rw [hc.paired.tag_eq])
      hrow.elementChildren) hrows
  unfold isLayout
  simp only [h.paired.attr?_eq, isZero_eq h.paired, hheader, hrows.length_eq]

variable (hd : d.IsCurrent) (hd' : d'.IsCurrent) (o : Options)

include hd hd'

theorem childText_eq (h : Twin d d' n n') : childText o n = childText o n' := by
  unfold childText
  rw [h.paired.data_eq, h.text_eq hd hd']

theorem cellText_eq (h : Twin d d' n n') : cellText o n = cellText o n' := by
  unfold cellText
  have hchildren : n.children.map (childText o) = n'.children.map (childText o) :=
    forall₂_map_eq (fun _ _ => childText_eq hd hd' o) h.children
  rw [List.flatMap, List.flatMap, hchildren]

theorem rowLines_eq (h : Twin d d' n n') (isFirst : Bool) :
    rowLines o isFirst n = rowLines o isFirst n' := by
  have hcells : List.Forall₂ (Twin d d') (cells n) (cells n') :=
    forall₂_filter (fun _ _ hc => by rw [hc.paired.tag_eq]) h.elementChildren
  unfold rowLines
  generalize cells n = cs at hcells
  generalize cells n' = cs' at hcells
  have hcontents : cs.map (cellText o) = cs'.map (cellText o) :=
    forall₂_map_eq (fun _ _ => cellText_eq hd hd' o) hcells
  have hheader : cs.any (·.tag == "th") = cs'.any (·.tag == "th") :=
    forall₂_any (fun _ _ hc => by rw [hc.paired.tag_eq]) hcells
  have hmarks : (cs.map fun _ => "---".toList) = cs'.map fun _ => "---".toList :=
    forall₂_map_eq (fun _ _ _ => rfl) hcells
  cases hcells with
  | nil => rfl
  | cons hc hcs =>
    simp only [isHeader, hcontents, hheader, hmarks]
    rfl

/-- **Twins are rendered as tables alike.** -/
theorem render_eq (h : Twin d d' n n') : render o n = render o n' := by
  have hrows := rows_twin h
  unfold render
  generalize rows n = rs at hrows
  generalize rows n' = rs' at hrows
  cases hrows with
  | nil => rfl
  | @cons first first' rest rest' hfirst hrest =>
    have hlines : rest.map (rowLines o false) = rest'.map (rowLines o false) :=
      forall₂_map_eq (fun _ _ hrow => rowLines_eq hd hd' o hrow false) hrest
    simp only [rowLines_eq hd hd' o hfirst, List.flatMap, hlines]

end Table

/-! ## Elements -/

namespace Rule

/-- **A rule looks at the text below an element**: at that of code; of a table that is written as
one; of a link whose text is the address that it leads to; and in mail at that of a division which
is not marked as a signature, but holds a closing phrase. -/
inductive LooksBelow (o : Options) (isEmail : Bool) (n : Node) : Prop where
  | code : Text.lowerName n.tag = "code" → n.hasAncestor "pre" = false → LooksBelow o isEmail n
  | preformatted : Text.lowerName n.tag = "pre" → LooksBelow o isEmail n
  | table : Text.lowerName n.tag = "table" → isEmail = true ∨ o.tableHandling ≠ .remove →
      LooksBelow o isEmail n
  | address : Text.lowerName n.tag = "a" → o.linkStyle ≠ .plain →
      mailAddress? (Attributes.clean (n.attr? "href")) = some (Text.trim n.text) →
      LooksBelow o isEmail n
  | closing : isEmail = true → Text.lowerName n.tag = "div" →
      Mail.holdsAny ["signature", "sig", "footer"]
        (Attributes.markers (n.attr? "class") (n.attr? "id")) = false →
      Mail.holdsAny ["sent from", "regards", "sincerely"] (Text.lower n.text) = true →
      LooksBelow o isEmail n

theorem hasAncestor_eq (h : Paired d d' n n') (tag : String) :
    n.hasAncestor tag = n'.hasAncestor tag :=
  forall₂_any (fun _ _ ha => by rw [ha.tag_eq]) h.ancestors

theorem blockQuote_eq (h : Paired d d' n n') (content : Text) :
    blockQuote n content = blockQuote n' content := by
  have hquotes : (n.ancestors.filter (·.tag == "blockquote")).length =
      (n'.ancestors.filter (·.tag == "blockquote")).length :=
    (forall₂_filter (fun _ _ ha => by rw [ha.tag_eq]) h.ancestors).length_eq
  unfold blockQuote
  rw [hquotes]

theorem title_eq (h : Paired d d' n n') : title n = title n' := by
  unfold title
  rw [h.attr?_eq]

theorem image_eq (h : Paired d d' n n') : image n = image n' := by
  unfold image
  simp only [h.attr?_eq, title_eq h]

theorem itemMarker_eq (h : Paired d d' n n') (he : n.isElement = true) (o : Options) :
    General.itemMarker n o = General.itemMarker n' o := by
  unfold General.itemMarker
  rcases h.parent? with ⟨hnone, hnone'⟩ | ⟨p, p', hp, hsome, hsome'⟩
  · rw [hnone, hnone']
    rfl
  · rw [hsome, hsome', Option.filter_some, Option.filter_some, hp.tag_eq, h.elementIndex_eq he]
    cases p'.tag == "ol" with
    | true => simp only [if_true, hp.attr?_eq]
    | false => rfl

theorem inlineStyle_eq (h : Paired d d' n n') : InlineStyle.ofNode n = InlineStyle.ofNode n' := by
  unfold InlineStyle.ofNode Node.attrD
  simp only [h.attr?_eq, h.tag_eq]

/-- The language of code is found below it. -/
theorem language_eq (h : Twin d d' n n') : language n = language n' := by
  have hcode : ∀ m m', Twin d d' m m' → (m.tag == "code") = (m'.tag == "code") :=
    fun _ _ hm => by rw [hm.paired.tag_eq]
  unfold language Node.findDescendant?
  rcases forall₂_find? hcode h.descendants with ⟨hnone, hnone'⟩ | ⟨m, m', hm, hsome, hsome'⟩
  · rw [hnone, hnone']
  · rw [hsome, hsome']
    simp only [Option.bind_eq_bind, Option.bind_some, hm.paired.attr?_eq]

section

variable {o : Options} {isEmail : Bool}
variable (hd : d.IsCurrent) (hd' : d'.IsCurrent)

include hd hd'

theorem codeBlock_eq (h : Twin d d' n n') : codeBlock n o = codeBlock n' o := by
  unfold codeBlock
  simp only [h.text_eq hd hd', language_eq h]

variable (hlook : LooksBelow o isEmail n ∨ LooksBelow o isEmail n' → Twin d d' n n')

include hlook

theorem table_eq (hn : Text.lowerName n.tag = "table") (content : Text) :
    General.table.action n content o = General.table.action n' content o := by
  unfold General.table Rule.forTag
  simp only
  by_cases hremove : o.tableHandling = .remove
  · rw [if_pos hremove, if_pos hremove]
  · have htwin := hlook (Or.inl (.table hn (Or.inr hremove)))
    rw [Table.isLayout_eq htwin, Table.render_eq hd hd' o htwin]

variable (h : Paired d d' n n')

include h

/-- Only where its text is the address does the text of a link matter. -/
theorem link_eq (hn : Text.lowerName n.tag = "a") (content : Text) :
    link n content o = link n' content o := by
  have hn' : Text.lowerName n'.tag = "a" := by rw [← h.tag_eq, hn]
  unfold link
  simp only [h.attr?_eq, title_eq h]
  split
  · rfl
  rename_i hinlined
  have hstyle : o.linkStyle ≠ .plain := by
    intro hp
    simp [hp] at hinlined
  cases haddress : mailAddress? (Attributes.clean (n'.attr? "href")) with
  | none => rfl
  | some address =>
    rw [Option.filter_some, Option.filter_some]
    -- if the text of neither is the address, the texts are not looked at further
    by_cases hsame : address = Text.trim n.text ∨ address = Text.trim n'.text
    · have htwin : Twin d d' n n' := by
        apply hlook
        rcases hsame with hsame | hsame
        · exact Or.inl (.address hn hstyle (by rw [h.attr?_eq, haddress, hsame]))
        · exact Or.inr (.address hn' hstyle (by rw [haddress, hsame]))
      rw [htwin.text_eq hd hd']
    · rw [not_or] at hsame
      rw [beq_false_of_ne hsame.1, beq_false_of_ne hsame.2]

theorem code_eq (hn : Text.lowerName n.tag = "code") (content : Text) :
    General.code.action n content o = General.code.action n' content o := by
  unfold General.code Rule.forTag
  simp only [hasAncestor_eq h]
  cases hpre : n'.hasAncestor "pre" with
  | true => rfl
  | false =>
    have htwin := hlook (Or.inl (.code hn (by rw [hasAncestor_eq h, hpre])))
    rw [htwin.text_eq hd hd']

/-- Only where no class or id decides does a closing phrase matter. -/
theorem signature_eq (hemail : isEmail = true) (hn : Text.lowerName n.tag = "div") :
    Mail.isSignature n = Mail.isSignature n' := by
  have hn' : Text.lowerName n'.tag = "div" := by rw [← h.tag_eq, hn]
  unfold Mail.isSignature
  rw [h.attr?_eq, h.attr?_eq]
  cases hmarked : Mail.holdsAny ["signature", "sig", "footer"]
      (Attributes.markers (n'.attr? "class") (n'.attr? "id")) with
  | true => rfl
  | false =>
    rw [Bool.false_or, Bool.false_or]
    by_cases hcloses :
        Mail.holdsAny ["sent from", "regards", "sincerely"] (Text.lower n.text) = true ∨
          Mail.holdsAny ["sent from", "regards", "sincerely"] (Text.lower n'.text) = true
    · have htwin : Twin d d' n n' := by
        apply hlook
        rcases hcloses with hcloses | hcloses
        · exact Or.inl (.closing hemail hn (by rw [h.attr?_eq, h.attr?_eq, hmarked]) hcloses)
        · exact Or.inr (.closing hemail hn' hmarked hcloses)
      rw [htwin.text_eq hd hd']
    · rw [not_or] at hcloses
      rw [Bool.eq_false_iff.2 hcloses.1, Bool.eq_false_iff.2 hcloses.2]

/-- **A general rule does the same with paired elements**, if they are twins where it looks below
them. -/
theorem General.action_eq {rule : Rule} (hrule : General.rules.find? n.tag = some rule)
    (he : n.isElement = true) (content : Text) :
    rule.action n content o = rule.action n' content o := by
  rw [General.find?_eq] at hrule
  obtain ⟨e, hfind, rfl⟩ := Option.map_eq_some_iff.1 hrule
  have haccepts : e.2.filter.accepts n.tag = true :=
    List.find?_some (p := fun e : String × Rule => e.2.filter.accepts n.tag) hfind
  have hmem := List.mem_of_find?_eq_some hfind
  simp only [General.entries, List.mem_append, List.mem_cons, List.not_mem_nil, or_false,
    List.mem_map] at hmem
  -- one case for each rule; those closed by `rfl` read only the content
  rcases hmem with (rfl | rfl | rfl | rfl | rfl | rfl | rfl | rfl | rfl | rfl | rfl | rfl | rfl |
    rfl | rfl | rfl | rfl | rfl) | ⟨tag, -, rfl⟩
  · -- the level of a heading is read off its tag
    change Except.ok (Markdown.heading (General.headingLevel n.tag) content) = _
    rw [h.tag_eq]
    rfl
  · rfl
  · rfl
  · rfl
  · rfl
  · rfl
  · exact code_eq hd hd' hlook h ((Filter.accepts_ofTag.1 haccepts).trans (by decide)) content
  · have hn : Text.lowerName n.tag = "pre" :=
      (Filter.accepts_ofTag.1 haccepts).trans (by decide)
    have htwin := hlook (Or.inl (.preformatted hn))
    exact congrArg Except.ok (codeBlock_eq hd hd' htwin)
  · exact congrArg Except.ok
      (link_eq hd hd' hlook h ((Filter.accepts_ofTag.1 haccepts).trans (by decide)) content)
  · exact congrArg Except.ok (image_eq h)
  · rfl
  · change Except.ok (General.itemMarker n o ++ " " ++ Markdown.itemBody content ++ "\n") = _
    rw [itemMarker_eq h he]
    rfl
  · exact congrArg Except.ok (blockQuote_eq h content)
  · exact table_eq hd hd' hlook ((Filter.accepts_ofTag.1 haccepts).trans (by decide)) content
  · rfl
  · rfl
  · rfl
  · rfl
  · rfl

/-- **A mail rule does the same with paired elements**, if they are twins where it looks below
them. -/
theorem Mail.action_eq {rule : Rule} (hemail : isEmail = true)
    (hrule : Mail.rules.find? n.tag = some rule) (content : Text) :
    rule.action n content o = rule.action n' content o := by
  have hstyle : ∀ part, Mail.styleHolds part n = Mail.styleHolds part n' := by
    intro part
    unfold Mail.styleHolds
    rw [h.attr?_eq]
  have hclasses : Mail.classes n = Mail.classes n' := by
    unfold Mail.classes Node.attrD
    rw [h.attr?_eq]
  rcases Mail.find?_cases hrule with ⟨rfl, hn⟩ | ⟨rfl, hn⟩ | ⟨rfl, hn⟩ | ⟨rfl, hn⟩ | ⟨rfl, hn⟩ |
    ⟨rfl, hn⟩
  · unfold Mail.division Rule.forTag Mail.isQuoted Mail.isOutlookWrapper
    simp only [signature_eq hd hd' hlook h hemail hn, hstyle, hclasses, h.attr?_eq]
  · have htwin := hlook (Or.inl (.table hn (Or.inl hemail)))
    unfold Mail.table Rule.forTag
    simp only [Table.isLayout_eq htwin, Table.render_eq hd hd' o htwin]
  · unfold Mail.inlineStyle Rule.forTags
    simp only [inlineStyle_eq h]
  · unfold Mail.link Rule.forTag
    simp only [h.attr?_eq, link_eq hd hd' hlook h hn]
  · unfold Mail.blockquote Rule.forTag Mail.hasQuoteMarker
    simp only [h.attr?_eq, hclasses, blockQuote_eq h]
  · exact congrArg Except.ok (codeBlock_eq hd hd' (hlook (Or.inl (.preformatted hn))))

end

end Rule

end HtmlMarkdown
