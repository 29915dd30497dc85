import HtmlMarkdown.Proofs.Email.Markup
import HtmlMarkdown.Proofs.Text.Encoded

/-!
# Encoded text through the first stages

A plain text that is encoded reaches the parser as the text itself: no pass over the source finds
a tag in it, and its references are decoded before it is parsed (`prepare_encode`). All that is
lost, if Office markup is looked for, is what the text spells out like a declaration without
quotes (`undeclared`): the passes read such a declaration alike in the encoded text and in the
text itself (`Mirrors`, `clean_encode`).

* `prepare_encode_hasTag_iff`: **the parser sees a tag exactly where the text spells one out.**
-/

namespace HtmlMarkdown

namespace Email.Outlook

open Text Entity

variable {find find' : Finder} {c : Char} {t u : Text}

/-! ## Declarations that a text spells out -/

/-- A namespace attribute whose value is not quoted, in plain text. -/
def findBareNamespace : Finder
  | _, t => do
    let t ← dropNamespaceName? t
    if startsVisible t then some ([], t.dropWhile fun c => !isBlank c) else none

/-- An Office class that is not quoted, in plain text. -/
def findBareClass : Finder
  | _, t => do
    let t ← dropEquals? (← dropWord? "class" (← dropBlanks? t))
    let rest ← dropOfficeClass? t
    if rest.head?.any isWord then none else some ([], rest)

/-- **A plain text without the declarations that it spells out**: namespace attributes and Office
classes, with the blank space before them and without quotes. -/
def undeclared (t : Text) : Text := replaceAll findBareClass (replaceAll findBareNamespace t)

/-! ### What is read is the same in the encoded text -/

theorem isNameChar_special : ∀ c ∈ special, isNameChar c = false :=
  forall_special.2 (by decide)

theorem dropLocalName_encode (t : Text) : dropLocalName (encode t) = encode (dropLocalName t) := by
  cases t with
  | nil => rfl
  | cons c cs =>
    by_cases hcolon : c = ':'
    · have hplain : encodeChar ':' = [':'] := rfl
      rw [hcolon, encode_cons, hplain, List.singleton_append]
      cases cs with
      | nil => rfl
      | cons d ds =>
        by_cases hd : d ∈ special
        · obtain ⟨ref, hchar, -, -⟩ := encodeChar_special hd
          have hname := isNameChar_special d hd
          rw [encode_cons, hchar, List.cons_append]
          unfold dropLocalName
          simp only [hname, isNameChar_special '&' (by decide), Bool.false_eq_true, if_false]
          rw [encode_cons, hplain, encode_cons, hchar]
          rfl
        · rw [encode_cons, encodeChar_plain hd, List.singleton_append]
          unfold dropLocalName
          simp only
          split
          · exact dropWhile_encode isNameChar_special ds
          · rw [encode_cons, hplain, encode_cons, encodeChar_plain hd]
            rfl
    · have hhead : (c :: cs).head? ≠ some ':' := by simpa using hcolon
      rw [dropLocalName_of_head hhead]
      refine dropLocalName_of_head ?_
      rw [encode_cons]
      by_cases hc : c ∈ special
      · obtain ⟨ref, hchar, -, -⟩ := encodeChar_special hc
        rw [hchar]
        intro h
        cases h
      · rw [encodeChar_plain hc]
        simpa using hcolon

theorem dropBlanks?_encode (t : Text) : dropBlanks? (encode t) = (dropBlanks? t).map encode := by
  have hblank : startsBlank (encode t) = startsBlank t :=
    any_head?_encode (forall_special.2 (by decide)) t
  unfold dropBlanks?
  rw [hblank, trimStart_encode]
  split <;> rfl

theorem dropEquals?_encode (t : Text) : dropEquals? (encode t) = (dropEquals? t).map encode := by
  unfold dropEquals?
  rw [trimStart_encode, dropChar?_encode (by decide), Option.map_map, Option.map_map]
  exact congrArg (Option.map · _) (funext trimStart_encode)

/-- A step of a reader behind another one. -/
theorem bind_encode {α β : Type} {f : Text → Option α} {g : Text → Option β} {k : α → β}
    (h : ∀ u, g (encode u) = (f u).map k) (x : Option Text) :
    (x.map encode).bind g = (x.bind f).map k := by
  cases x with
  | none => rfl
  | some u => exact h u

theorem dropNamespaceName?_encode (t : Text) :
    dropNamespaceName? (encode t) = (dropNamespaceName? t).map encode := by
  unfold dropNamespaceName?
  rw [dropBlanks?_encode]
  refine bind_encode (fun u => ?_) _
  rw [dropWord?_encode (by decide)]
  refine bind_encode (fun v => ?_) _
  rw [dropLocalName_encode, dropEquals?_encode]

/-- Is there no quote in the text? -/
def Unquoted (t : Text) : Prop := '"' ∉ t ∧ '\'' ∉ t

theorem Unquoted.suffix (h : Unquoted t) (hu : u <:+ t) : Unquoted u :=
  ⟨fun hmem => h.1 (hu.mem hmem), fun hmem => h.2 (hu.mem hmem)⟩

theorem Unquoted.quoted?_eq_none (h : Unquoted t) : quoted? t = none := by
  unfold quoted?
  split
  · exact absurd List.mem_cons_self h.1
  · exact absurd List.mem_cons_self h.2
  · rfl

theorem unquoted_encode (t : Text) : Unquoted (encode t) := by
  constructor
  · intro hmem
    cases eq_ampersand_of_mem (by decide) hmem
  · intro hmem
    cases eq_ampersand_of_mem (by decide) hmem

/-- A visible character is written by characters of a value. -/
theorem isBare_encodeChar (hc : isBlank c = false) : ∀ d ∈ encodeChar c, isBare d = true := by
  intro d hd
  have hne : d ≠ '>' := by
    rintro rfl
    have hmem : '>' ∈ encode [c] := by simpa [encode] using hd
    cases eq_ampersand_of_mem (by decide) hmem
  simp [isBare, encode_keepsBlank.visible c hc d hd, hne]

theorem any_head?_bare_encode (t : Text) : (encode t).head?.any isBare = startsVisible t := by
  cases t with
  | nil => rfl
  | cons c cs =>
    rw [encode_cons]
    cases hc : isBlank c with
    | true =>
      rw [encode_keepsBlank.blank c hc]
      simp [isBare, hc]
    | false =>
      obtain ⟨d, ds, hchar⟩ := List.exists_cons_of_ne_nil (encode_keepsBlank.ne_nil c hc)
      have hd := isBare_encodeChar hc d (by rw [hchar]; exact List.mem_cons_self)
      rw [hchar]
      simp [hd, hc]

/-- A run of visible characters is encoded as one. -/
theorem dropWhile_bare_encode (t : Text) :
    (encode t).dropWhile isBare = encode (t.dropWhile fun c => !isBlank c) := by
  induction t with
  | nil => rfl
  | cons c cs ih =>
    rw [encode_cons]
    cases hc : isBlank c with
    | true =>
      rw [encode_keepsBlank.blank c hc]
      simp [isBare, hc, encode_cons, encode_keepsBlank.blank c hc]
    | false =>
      rw [List.dropWhile_append, List.dropWhile_eq_nil_iff.2 (isBare_encodeChar hc), ih,
        List.dropWhile_cons_of_pos (by simp [hc])]
      rfl

/-! ### Finding them -/

/-- One rule takes out of an encoded text what the other takes out of the text itself. -/
structure Mirrors (find find' : Finder) : Prop where
  /-- Nothing is found where a visible character stands. -/
  visible : ∀ {before : Option Char} {c : Char} {t : Text}, isBlank c = false →
    find before (c :: t) = none
  /-- What is found leaves nothing behind, and the rest of the text. -/
  suffix : ∀ {before : Option Char} {c : Char} {t : Text} {found : Text × Text},
    find' before (c :: t) = some found → found.1 = [] ∧ found.2 <:+ t
  /-- The same is found in the encoded text. -/
  encoded : ∀ {before before' : Option Char} {t : Text},
    find before (encode t) = (find' before' t).map fun found => ([], encode found.2)

/-- Visible characters are passed over. -/
theorem Mirrors.passes (h : Mirrors find find') {v : Text} (hv : ∀ d ∈ v, isBlank d = false)
    (u : Text) : Passes find v u := by
  intro before w hw hne
  obtain ⟨d, ds, rfl⟩ := List.exists_cons_of_ne_nil hne
  exact h.visible (hv d (hw.mem List.mem_cons_self))

/-- **Taking out goes through encoding.** -/
theorem Mirrors.replaceAll_encode (h : Mirrors find find') (t : Text) :
    replaceAll find (encode t) = encode (replaceAll find' t) := by
  refine replaceAllFrom_induction
    (motive := fun t u => ∀ before, replaceAllFrom find before 0 (encode t) = encode u)
    (fun hfind => (h.suffix hfind).2) (fun _ => rfl) ?keep ?replace none t none
  case keep =>
    intro before' c t u hfind hrest before
    have hsame : find before (encode (c :: t)) = (find' before' (c :: t)).map _ := h.encoded
    rw [hfind, Option.map_none] at hsame
    rw [encode_cons] at hsame ⊢
    rw [encode_cons]
    cases hc : isBlank c with
    | true =>
      rw [encode_keepsBlank.blank c hc, List.singleton_append] at hsame ⊢
      rw [replaceAllFrom_of_none hsame, hrest]
      rfl
    | false =>
      have hpass := h.passes (encode_keepsBlank.visible c hc) (encode t)
      rw [hpass.replaceAllFrom_eq, hrest]
  case replace =>
    intro before' c skipped new rest u hfind hrest before
    obtain ⟨hnew, -⟩ := h.suffix hfind
    simp only at hnew
    subst hnew
    have hsame : find before (encode (c :: (skipped ++ rest))) =
      (find' before' (c :: (skipped ++ rest))).map _ := h.encoded
    rw [hfind, Option.map_some] at hsame
    cases hc : isBlank c with
    | false =>
      obtain ⟨d, ds, hchar⟩ := List.exists_cons_of_ne_nil (encode_keepsBlank.ne_nil c hc)
      have hd := encode_keepsBlank.visible c hc d (by rw [hchar]; exact List.mem_cons_self)
      rw [encode_cons, hchar, List.cons_append, h.visible hd] at hsame
      cases hsame
    | true =>
      rw [encode_cons, encode_keepsBlank.blank c hc, List.singleton_append,
        encode_append] at hsame ⊢
      obtain ⟨before₁, hleft⟩ := replaceAllFrom_found hsame
      rw [hleft, hrest]
      rfl

/-- What is taken out leaves the rest in order. -/
theorem Mirrors.replaceAll_sublist (h : Mirrors find find') (t : Text) :
    (replaceAll find' t).Sublist t :=
  Text.replaceAll_sublist h.suffix t

theorem findNamespace_mirrors : Mirrors findNamespace findBareNamespace where
  visible := by
    intro before c t hc
    rw [findNamespace_eq, dropNamespaceName?, dropBlanks?_visible hc]
    rfl
  suffix := by
    intro before c t found h
    unfold findBareNamespace at h
    obtain ⟨u, hu, h⟩ := Option.bind_eq_some_iff.1 h
    split at h
    · cases h
      exact ⟨rfl, (List.dropWhile_suffix _).trans (dropNamespaceName?_suffix hu)⟩
    · cases h
  encoded := by
    intro before before' t
    rw [findNamespace_eq, dropNamespaceName?_encode]
    refine bind_encode (fun u => ?_) _
    rw [namespaceValue?, (unquoted_encode u).quoted?_eq_none]
    simp only
    rw [any_head?_bare_encode, dropWhile_bare_encode]
    split <;> rfl

theorem dropOfficeClass?_encode (t : Text) :
    dropOfficeClass? (encode t) = (dropOfficeClass? t).map encode := by
  unfold dropOfficeClass?
  rw [dropWord?_encode (by decide), dropWord?_encode (by decide)]
  cases dropWord? "msonormal" t with
  | some u => rfl
  | none =>
    cases dropWord? "wordsection" t with
    | none => rfl
    | some u => exact congrArg some (dropWhile_encode (forall_special.2 (by decide)) u)

theorem findOfficeClass_mirrors : Mirrors findOfficeClass findBareClass where
  visible := by
    intro before c t hc
    unfold findOfficeClass
    simp only [dropBlanks?_visible hc]
    rfl
  suffix := by
    intro before c t found h
    unfold findBareClass at h
    obtain ⟨u, hu, h⟩ := Option.bind_eq_some_iff.1 h
    obtain ⟨v, hv, h⟩ := Option.bind_eq_some_iff.1 h
    obtain ⟨w, hw, h⟩ := Option.bind_eq_some_iff.1 h
    obtain ⟨x, hx, h⟩ := Option.bind_eq_some_iff.1 h
    split at h
    · cases h
    · cases h
      exact ⟨rfl, (dropOfficeClass?_suffix hx).trans ((dropEquals?_suffix hw).trans
        ((dropWord?_suffix hv).trans (dropBlanks?_cons_suffix hu)))⟩
  encoded := by
    intro before before' t
    unfold findOfficeClass findBareClass
    simp only [Option.bind_eq_bind]
    rw [dropBlanks?_encode]
    refine bind_encode (fun u => ?_) _
    rw [dropWord?_encode (by decide)]
    refine bind_encode (fun v => ?_) _
    rw [dropEquals?_encode]
    refine bind_encode (fun w => ?_) _
    have hquotes := unquoted_encode w
    split
    · rename_i heq
      exact absurd (by rw [heq]; exact List.mem_cons_self) hquotes.1
    · rename_i heq
      exact absurd (by rw [heq]; exact List.mem_cons_self) hquotes.2
    · rw [dropOfficeClass?_encode]
      refine bind_encode (fun x => ?_) _
      rw [any_head?_encode (forall_special.2 (by decide))]
      split <;> rfl

/-! ### The passes over encoded text -/

theorem findStyle_none (h : Unquoted t) (before : Option Char) :
    findStyle before t = none := by
  cases hfind : findStyle before t with
  | none => rfl
  | some found =>
    unfold findStyle at hfind
    obtain ⟨-, -, hfind⟩ := Option.bind_eq_some_iff.1 hfind
    obtain ⟨u, hu, hfind⟩ := Option.bind_eq_some_iff.1 hfind
    obtain ⟨v, hv, hfind⟩ := Option.bind_eq_some_iff.1 hfind
    have hsuffix : v <:+ t := (dropEquals?_suffix hv).trans (dropWord?_suffix hu)
    rw [(h.suffix hsuffix).quoted?_eq_none] at hfind
    cases hfind

theorem findEmptyStyle_none (h : Unquoted t) (before : Option Char) :
    findEmptyStyle before t = none := by
  cases hfind : findEmptyStyle before t with
  | none => rfl
  | some found =>
    unfold findEmptyStyle at hfind
    obtain ⟨u, hu, hfind⟩ := Option.bind_eq_some_iff.1 hfind
    obtain ⟨v, hv, hfind⟩ := Option.bind_eq_some_iff.1 hfind
    obtain ⟨w, hw, hfind⟩ := Option.bind_eq_some_iff.1 hfind
    have hsuffix : w <:+ t :=
      (dropEquals?_suffix hw).trans ((dropWord?_suffix hv).trans (dropBlanks?_suffix hu))
    rw [(h.suffix hsuffix).quoted?_eq_none] at hfind
    cases hfind

/-- **The cleaning of an encoded text** is that of the text itself. -/
theorem clean_encode (t : Text) : clean (encode t) = encode (undeclared t) := by
  have hopen : ∀ t : Text, '<' ∉ encode t := fun t hmem => by
    cases eq_ampersand_of_mem (by decide) hmem
  have hstyle : ∀ t : Text, replaceAll findStyle (encode t) = encode t := fun t =>
    replaceAll_eq_of_none fun before u hu => findStyle_none ((unquoted_encode t).suffix hu) before
  have hempty : ∀ t : Text, replaceAll findEmptyStyle (encode t) = encode t := fun t =>
    replaceAll_eq_of_none fun before u hu =>
      findEmptyStyle_none ((unquoted_encode t).suffix hu) before
  unfold clean undeclared
  simp only [List.foldl_cons, List.foldl_nil]
  rw [findPrologue_needs.replaceAll_eq (hopen _), findNamespace_mirrors.replaceAll_encode,
    findConditional_needs.replaceAll_eq (hopen _), findRevealed_needs.replaceAll_eq (hopen _),
    findOfficeParagraph_needs.replaceAll_eq (hopen _), hstyle, hempty,
    findOfficeClass_mirrors.replaceAll_encode]

end Email.Outlook

namespace Service

open Text Entity Email

variable {t : Text}

/-- Does the text have an opening bracket with a closing one further on? -/
def HasTag (t : Text) : Prop := ['<', '>'].Sublist t

instance (t : Text) : Decidable (HasTag t) := inferInstanceAs (Decidable (List.Sublist _ _))

/-- Brackets are visible. -/
theorem hasTag_visible : HasTag (visible t) ↔ HasTag t := by
  refine ⟨fun h => h.trans List.filter_sublist, fun h => ?_⟩
  have hfilter := h.filter fun c => !isBlank c
  exact hfilter

/-- What a plain text says once it is prepared. -/
def wording (o : Options) (s : Text) : Text :=
  if o.handleOutlookSpecific then Outlook.undeclared s else s

/-- **An encoded text reaches the parser as what it says.** -/
theorem prepare_encode (o : Options) (s : Text) :
    prepare o (encode s) =
      if o.preserveWhitespace then wording o s else trim (collapse (wording o s)) := by
  have hopen : '<' ∉ encode s := fun hmem => by
    cases eq_ampersand_of_mem (by decide) hmem
  have hdecode : decode (if o.handleOutlookSpecific then Outlook.clean (encode s) else encode s) =
      wording o s := by
    unfold wording
    split
    · rw [Outlook.clean_encode, decode_encode]
    · exact decode_encode s
  unfold prepare
  simp only [findScriptOrStyle_needs.replaceAll_eq hopen, hdecode]

/-- **The parser sees a tag in an encoded text exactly where the text spells one out**, but for
the declarations that are taken out of it, and those add no tag. -/
theorem prepare_encode_hasTag_iff (o : Options) (s : Text) :
    (HasTag (prepare o (encode s)) ↔ HasTag (wording o s)) ∧ (HasTag (wording o s) → HasTag s) := by
  constructor
  · rw [prepare_encode]
    split
    · rfl
    · rw [← hasTag_visible, visible_trim, visible_collapse, hasTag_visible]
  · intro h
    unfold wording at h
    split at h
    · exact h.trans ((Outlook.findOfficeClass_mirrors.replaceAll_sublist _).trans
        (Outlook.findNamespace_mirrors.replaceAll_sublist s))
    · exact h

/-- An encoded tag is a tag again before it is parsed. -/
theorem prepare_encode_bold : prepare {} (encode "<b>x</b>") = "<b>x</b>" ∧ HasTag "<b>x</b>" := by
  refine ⟨?_, by decide⟩
  rw [prepare_encode]
  rfl

end Service

end HtmlMarkdown
