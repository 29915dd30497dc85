import HtmlMarkdown.Proofs.Email.Markup

/-!
# Attributes of a tag

A tag whose attributes are well written, each behind blank space and with its value, if any, in
quotes or without blank space, is cleaned attribute by attribute. A rule for an attribute finds
nothing in a value (`Asks.passes_value`), so it can only find something at the name of one
(`Anchored.passes_attribute`). A namespace is then taken out as a whole. With an Office class more
may go, or less, since without quotes the class need not be all that is written there; what is left
is a scrap without an equals sign (`Scrap`).

* `findNamespace_cases`, `findOfficeClass_cases`: **what is taken out.**
-/

namespace HtmlMarkdown.Email.Outlook

open Text

variable {find : Finder} {next : Text → Option (Text × Text)} {c q : Char}
  {t u v x y rest word : Text}

/-! ## What follows an attribute -/

/-- **What follows an attribute**: blank space or the end of the tag, and no equals sign. -/
structure Fresh (t : Text) : Prop where
  head : ∀ c, t.head? = some c → isBlank c = true ∨ c = '>'
  equals : dropEquals? t = none

theorem Fresh.stopsName (h : Fresh t) : StopsName t :=
  ⟨fun c hc => not_isNameChar ((h.head c hc).imp_right Or.inl), h.equals⟩

/-- **A scrap of a tag**: nothing, or text without an equals sign that ends with a visible
character. -/
def Scrap (x : Text) : Prop := '=' ∉ x ∧ (x = [] ∨ endsVisible x = true)

theorem Scrap.nil : Scrap [] := ⟨List.not_mem_nil, Or.inl rfl⟩

theorem Scrap.suffix (h : Scrap x) (hy : y <:+ x) : Scrap y := by
  refine ⟨fun hmem => h.1 (hy.mem hmem), ?_⟩
  obtain ⟨u, rfl⟩ := hy
  by_cases hnil : y = []
  · exact Or.inl hnil
  · refine Or.inr ?_
    have hne : u ++ y ≠ [] := fun happend => hnil (List.append_eq_nil_iff.1 happend).2
    rw [← endsVisible_append u hnil]
    exact h.2.resolve_left hne

theorem Scrap.append (hx : Scrap x) (hy : Scrap y) : Scrap (x ++ y) := by
  refine ⟨fun hmem => (List.mem_append.1 hmem).elim hx.1 hy.1, ?_⟩
  by_cases hnil : y = []
  · rw [hnil, List.append_nil]
    exact hx.2
  · rw [endsVisible_append x hnil]
    exact Or.inr (hy.2.resolve_left hnil)

/-- What may come behind an attribute while tags are cleaned: scraps of others before the rest. -/
def Follows (t : Text) : Prop := ∃ x rest, t = x ++ rest ∧ Scrap x ∧ Fresh rest

theorem Fresh.follows (h : Fresh t) : Follows t := ⟨[], t, rfl, Scrap.nil, h⟩

theorem Scrap.follows (hx : Scrap x) (h : Follows t) : Follows (x ++ t) := by
  obtain ⟨y, rest, rfl, hy, hrest⟩ := h
  exact ⟨x ++ y, rest, (List.append_assoc x y rest).symm, hx.append hy, hrest⟩

/-- Nothing is found in a scrap. -/
theorem Asks.passes_scrap (h : Asks find word) (hx : Scrap x) (hrest : Follows rest) :
    Passes find x rest := by
  obtain ⟨y, rest, rfl, hy, hrest⟩ := hrest
  intro before u hu hne
  have hscrap : Scrap (u ++ y) := (hx.suffix hu).append hy
  have hends : endsVisible (u ++ y) = true :=
    hscrap.2.resolve_left fun hnil => hne (List.append_eq_nil_iff.1 hnil).1
  have hvisible : isBlankText (u ++ y) = false := by
    rw [← Bool.not_eq_true]
    intro hblank
    rw [endsVisible_of_blank hblank] at hends
    cases hends
  cases hfind : find before (u ++ (y ++ rest)) with
  | none => rfl
  | some found =>
    have hassigns := h.assigns hfind
    rw [← List.append_assoc] at hassigns
    exact absurd hassigns (not_assigns h.letters h.ne_nil (Or.inl hscrap.1) hrest.stopsName
      List.suffix_rfl (Or.inl hvisible))

/-! ## Attributes -/

/-- A character of a name, or of a value without quotes. -/
def isTokenChar (c : Char) : Bool := !isBlank c && decide (c ∉ ['"', '\'', '<', '>', '='])

theorem isTokenChar_iff : isTokenChar c = true ↔
    isBlank c = false ∧ c ≠ '"' ∧ c ≠ '\'' ∧ c ≠ '<' ∧ c ≠ '>' ∧ c ≠ '=' := by
  simp [isTokenChar]

/-- A name, or a value without quotes. -/
structure IsToken (t : Text) : Prop where
  ne_nil : t ≠ []
  all : t.all isTokenChar = true

namespace IsToken

theorem char (h : IsToken t) (hc : c ∈ t) :
    isBlank c = false ∧ c ≠ '"' ∧ c ≠ '\'' ∧ c ≠ '<' ∧ c ≠ '>' ∧ c ≠ '=' :=
  isTokenChar_iff.1 (List.all_eq_true.1 h.all c hc)

theorem equals_not_mem (h : IsToken t) : '=' ∉ t := fun hmem => (h.char hmem).2.2.2.2.2 rfl

theorem startsVisible (h : IsToken t) : startsVisible t = true := by
  obtain ⟨c, cs, rfl⟩ := List.exists_cons_of_ne_nil h.ne_nil
  simp [(h.char List.mem_cons_self).1]

theorem endsVisible (h : IsToken t) : endsVisible t = true := by
  obtain ⟨cs, c, rfl⟩ := List.eq_nil_or_concat' t |>.resolve_left h.ne_nil
  simp [(h.char (List.mem_append_right cs List.mem_cons_self)).1]

/-- Blank space and a token are a scrap. -/
theorem scrap (h : IsToken t) (hx : isBlankText x = true) : Scrap (x ++ t) := by
  refine ⟨?_, Or.inr ?_⟩
  · rw [List.mem_append, not_or]
    exact ⟨not_mem_of_isBlankText hx (by decide), h.equals_not_mem⟩
  · rw [endsVisible_append x h.ne_nil, h.endsVisible]

end IsToken

/-- The names of the attributes that are looked for. -/
def attributeWords : List Text := ["xmlns", "style", "class"]

/-- Text that spells none of these attributes: it has no equals sign, or none of the names. -/
def Plain (t : Text) : Prop := '=' ∉ t ∨ ∀ word ∈ attributeWords, dropThrough? word t = none

/-- **The value of an attribute**, with the equals sign before it, or nothing. -/
inductive IsValue : Text → Prop where
  | absent : IsValue []
  | bare {left right text : Text} (hleft : isBlankText left = true)
      (hright : isBlankText right = true) (htext : IsToken text) :
      IsValue (left ++ '=' :: (right ++ text))
  | quoted {left right text : Text} {q : Char} (hleft : isBlankText left = true)
      (hright : isBlankText right = true) (hq : IsQuote q) (hend : q ∉ text)
      (hopen : '<' ∉ text) (hplain : Plain text) :
      IsValue (left ++ '=' :: (right ++ q :: (text ++ [q])))

/-- **An attribute of a tag**, with the blank space before it. -/
structure Attribute where
  gap : Text
  name : Text
  value : Text
  gap_ne_nil : gap ≠ []
  gap_blank : isBlankText gap = true
  name_token : IsToken name
  value_is : IsValue value

def Attribute.text (a : Attribute) : Text := a.gap ++ a.name ++ a.value

theorem startsVisible_left (h : startsVisible x = true) (t : Text) :
    startsVisible (x ++ t) = true := by
  rw [startsVisible_append (ne_nil_of_starts h), h]

/-- Blank space and a name do not look like a value. -/
theorem fresh_gap (hx : isBlankText x = true) (hne : x ≠ []) (ht : IsToken t) (rest : Text) :
    Fresh (x ++ (t ++ rest)) := by
  constructor
  · intro c hc
    obtain ⟨d, ds, rfl⟩ := List.exists_cons_of_ne_nil hne
    refine Or.inl ?_
    rw [← Option.some.inj hc]
    exact List.all_eq_true.1 hx d List.mem_cons_self
  · obtain ⟨d, ds, rfl⟩ := List.exists_cons_of_ne_nil ht.ne_nil
    obtain ⟨hblank, -, -, -, -, hequals⟩ := ht.char List.mem_cons_self
    exact dropEquals?_append (not_mem_of_isBlankText hx (by decide))
      (dropEquals?_visible hblank hequals _)

/-- Behind a name with a value stands blank space or the equals sign. -/
theorem IsValue.head (h : IsValue v) (hne : v ≠ []) (rest : Text) :
    ∀ c, (v ++ rest).head? = some c → isBlank c = true ∨ c = '=' := by
  have hleft : ∀ {left t : Text}, isBlankText left = true →
      ∀ c, (left ++ '=' :: t).head? = some c → isBlank c = true ∨ c = '=' := by
    intro left t hblank c hc
    cases left with
    | nil => exact Or.inr (Option.some.inj hc).symm
    | cons d ds =>
      rw [← Option.some.inj hc]
      exact Or.inl (Bool.and_eq_true_iff.1 hblank).1
  cases h with
  | absent => exact absurd rfl hne
  | bare hblank _ _ =>
    rw [List.append_assoc]
    exact hleft hblank
  | quoted hblank _ _ _ _ _ =>
    rw [List.append_assoc]
    exact hleft hblank

theorem IsValue.endsWord (h : IsValue v) (hne : v ≠ []) (rest : Text) : EndsWord (v ++ rest) := by
  intro c hc
  rcases h.head hne rest c hc with hblank | rfl
  · exact isWord_of_isBlank hblank
  · decide

/-- What stands behind the equals sign: a token, or text in quotes. -/
inductive IsBody : Text → Prop where
  | bare {text : Text} (htext : IsToken text) : IsBody text
  | quoted {text : Text} {q : Char} (hq : IsQuote q) (hend : q ∉ text) :
      IsBody (q :: (text ++ [q]))

/-- A value is read from behind its equals sign on. -/
theorem IsValue.exists_body (h : IsValue v) (hne : v ≠ []) : ∃ before body, v = before ++ body ∧
    IsBody body ∧ ∀ rest, dropEquals? (v ++ rest) = some (body ++ rest) := by
  have hread : ∀ {left right body rest : Text}, isBlankText left = true →
      isBlankText right = true → startsVisible (body ++ rest) = true →
      dropEquals? (left ++ '=' :: (right ++ body) ++ rest) = some (body ++ rest) := by
    intro left right body rest hleft hright hstart
    rw [List.append_assoc, List.cons_append, List.append_assoc, dropEquals?_left hleft,
      trimStart_append_blank hright, trimStart_of_starts hstart]
  cases h with
  | absent => exact absurd rfl hne
  | @bare left right text hleft hright htext =>
    exact ⟨left ++ '=' :: right, text, by simp, .bare htext,
      fun rest => hread hleft hright (startsVisible_left htext.startsVisible rest)⟩
  | @quoted left right text q hleft hright hq hend hopen hplain =>
    have hstart : ∀ t, startsVisible (q :: t) = true := by
      intro t
      rcases hq with rfl | rfl <;> rfl
    exact ⟨left ++ '=' :: right, q :: (text ++ [q]), by simp, .quoted hq hend,
      fun rest => hread hleft hright (hstart _)⟩

namespace Attribute

theorem text_append (a : Attribute) (rest : Text) :
    a.text ++ rest = a.gap ++ (a.name ++ (a.value ++ rest)) := by
  simp [text]

theorem fresh_text (a : Attribute) (rest : Text) : Fresh (a.text ++ rest) := by
  rw [a.text_append]
  exact fresh_gap a.gap_blank a.gap_ne_nil a.name_token _

theorem text_ne_nil (a : Attribute) : a.text ≠ [] := by
  simp [text, a.gap_ne_nil]

end Attribute

theorem IsValue.open_not_mem (h : IsValue v) : '<' ∉ v := by
  cases h with
  | absent => exact List.not_mem_nil
  | bare hleft hright htext =>
    have htoken := fun hmem => (htext.char hmem).2.2.2.1 rfl
    simp only [List.mem_append, List.mem_cons, not_or]
    exact ⟨not_mem_of_isBlankText hleft (by decide), by decide,
      not_mem_of_isBlankText hright (by decide), htoken⟩
  | @quoted left right text q hleft hright hq hend hopen hplain =>
    have hne : '<' ≠ q := by
      rcases hq with rfl | rfl <;> decide
    simp only [List.mem_append, List.mem_cons, List.not_mem_nil, or_false, not_or]
    exact ⟨not_mem_of_isBlankText hleft (by decide), by decide,
      not_mem_of_isBlankText hright (by decide), hne, hopen, hne⟩

theorem Attribute.open_not_mem (a : Attribute) : '<' ∉ a.text := by
  have hname : '<' ∉ a.name := fun hmem => (a.name_token.char hmem).2.2.2.1 rfl
  unfold Attribute.text
  simp only [List.mem_append, not_or]
  exact ⟨⟨not_mem_of_isBlankText a.gap_blank (by decide), hname⟩, a.value_is.open_not_mem⟩

/-! ## Attributes that are passed over -/

/-- Nothing is found in a value. -/
theorem Asks.passes_value (h : Asks find word) (hword : word ∈ attributeWords) (hv : IsValue v)
    (hrest : Follows rest) : Passes find v rest := by
  cases hv with
  | absent => exact .nil find rest
  | @bare left right text hleft hright htext =>
    have hcons : left ++ '=' :: (right ++ text) = left ++ ['='] ++ (right ++ text) := by simp
    rw [hcons]
    exact (h.passes_sign hleft (by decide) (by decide) _).append
      (h.passes_scrap (htext.scrap hright) hrest)
  | @quoted left right text q hleft hright hq hend hopen hplain =>
    have hcons : left ++ '=' :: (right ++ q :: (text ++ [q])) =
        left ++ ['='] ++ (right ++ [q] ++ (text ++ [q])) := by simp
    have hsign : isBlank q = false ∧ isWord q = false := by
      rcases hq with rfl | rfl <;> decide
    rw [hcons]
    refine (h.passes_sign hleft (by decide) (by decide) _).append ?_
    refine (h.passes_sign hright hsign.1 hsign.2 _).append ?_
    exact h.passes_quoted (hplain.imp_right fun hnone => hnone word hword) hq rest

/-- Nothing is found in an attribute whose name is passed over. -/
theorem Asks.passes_attribute (h : Asks find word) (hword : word ∈ attributeWords) (a : Attribute)
    (hrest : Follows rest)
    (hname : a.value ≠ [] → Passes find (a.gap ++ a.name) (a.value ++ rest)) :
    Passes find a.text rest := by
  refine Passes.append ?_ (h.passes_value hword a.value_is hrest)
  by_cases hvalue : a.value = []
  · rw [hvalue]
    exact h.passes_scrap (a.name_token.scrap a.gap_blank) hrest
  · exact hname hvalue

namespace Anchored

/-- What is found at an attribute is found behind the blank space before it. -/
theorem find_attribute (h : Anchored find word next) (before : Option Char) (a : Attribute)
    (rest : Text) :
    find before (a.text ++ rest) = (dropWord? word (a.name ++ (a.value ++ rest))).bind next := by
  rw [h.reads, a.text_append, dropBlanks?_append a.gap_blank a.gap_ne_nil
    (startsVisible_left a.name_token.startsVisible _)]
  rfl

/-- Where nothing is found at a name, it is passed over. -/
theorem passes_name (h : Anchored find word next) (hgap : isBlankText x = true) (ht : IsToken t)
    (hnone : (dropWord? word (t ++ rest)).bind next = none) : Passes find (x ++ t) rest := by
  refine Passes.append ?_ ?_
  · intro before u hu hne
    have hblank : isBlankText u = true :=
      List.all_eq_true.2 fun d hd => List.all_eq_true.1 hgap d (hu.mem hd)
    rw [h.reads, dropBlanks?_append hblank hne (startsVisible_left ht.startsVisible _)]
    exact hnone
  · intro before u hu hne
    obtain ⟨c, cs, rfl⟩ := List.exists_cons_of_ne_nil hne
    have hvisible := (ht.char (hu.mem List.mem_cons_self)).1
    rw [h.reads, List.cons_append, dropBlanks?_visible hvisible]
    rfl

theorem passes_attribute (h : Anchored find word next) (hword : word ∈ attributeWords)
    (a : Attribute) (hrest : Follows rest)
    (hnone : a.value ≠ [] → (dropWord? word (a.name ++ (a.value ++ rest))).bind next = none) :
    Passes find a.text rest :=
  h.asks.passes_attribute hword a hrest fun hvalue =>
    h.passes_name a.gap_blank a.name_token (hnone hvalue)

/-- An attribute without the word in its name is passed over. -/
theorem passes_other (h : Anchored find word next) (hword : word ∈ attributeWords) (a : Attribute)
    (hrest : Follows rest) (hname : dropWord? word a.name = none) : Passes find a.text rest := by
  refine h.passes_attribute hword a hrest fun hvalue => ?_
  rw [dropWord?_append (a.value_is.endsWord hvalue rest) h.letters, hname]
  rfl

end Anchored

/-! ## Attributes that are taken out -/

theorem splitAtChar?_append (hq : q ∉ t) (rest : Text) :
    splitAtChar? q (t ++ q :: rest) = some (t, rest) := by
  unfold splitAtChar?
  rw [dropWhile_ne_append hq, takeWhile_ne_append hq]

theorem quoted?_append (hq : IsQuote q) (ht : q ∉ t) (rest : Text) :
    quoted? (q :: (t ++ q :: rest)) = some (t, rest) := by
  rcases hq with rfl | rfl
  · exact splitAtChar?_append ht rest
  · exact splitAtChar?_append ht rest

theorem IsToken.quoted?_eq_none (h : IsToken t) (rest : Text) : quoted? (t ++ rest) = none := by
  obtain ⟨c, cs, rfl⟩ := List.exists_cons_of_ne_nil h.ne_nil
  obtain ⟨-, hdouble, hsingle, -⟩ := h.char List.mem_cons_self
  unfold quoted?
  split
  · rename_i heq
    exact absurd (List.cons.inj heq).1 hdouble
  · rename_i heq
    exact absurd (List.cons.inj heq).1 hsingle
  · rfl

/-- A token is read to its end, or there is no equals sign behind what is read. -/
theorem IsToken.dropEquals?_append (h : IsToken t) (hu : u <:+ t) (rest : Text) :
    dropEquals? (u ++ rest) = if u = [] then dropEquals? rest else none := by
  cases u with
  | nil => rfl
  | cons c cs =>
    obtain ⟨hblank, -, -, -, -, hequals⟩ := h.char (hu.mem List.mem_cons_self)
    rw [if_neg (List.cons_ne_nil c cs)]
    exact dropEquals?_visible hblank hequals _

/-- A value without quotes ends where the attribute does. -/
theorem IsToken.dropWhile_isBare (h : IsToken t) (hrest : Fresh rest) :
    (t ++ rest).head?.any isBare = true ∧ (t ++ rest).dropWhile isBare = rest := by
  have hbare : ∀ c ∈ t, isBare c = true := by
    intro c hc
    obtain ⟨hblank, -, -, -, hclose, -⟩ := h.char hc
    simp [isBare, hblank, hclose]
  constructor
  · obtain ⟨c, cs, rfl⟩ := List.exists_cons_of_ne_nil h.ne_nil
    exact hbare c List.mem_cons_self
  · rw [List.dropWhile_append_of_pos hbare]
    cases rest with
    | nil => rfl
    | cons c cs =>
      refine List.dropWhile_cons_of_neg ?_
      rcases hrest.head c rfl with hblank | rfl
      · simp [isBare, hblank]
      · decide

/-- **What a rule finds at an attribute**: nothing, or what it reads in the value behind the equals
sign. The name may have a part that is skipped. -/
theorem Anchored.attribute_cases {skip : Text → Text} {value : Text → Option (Text × Text)}
    (h : Anchored find word fun u => (dropEquals? (skip u)).bind value)
    (hskip : ∀ {rest}, (∀ c, rest.head? = some c → isNameChar c = false ∧ c ≠ ':') →
      ∀ t, skip (t ++ rest) = skip t ++ rest)
    (hsuffix : ∀ t, skip t <:+ t) (hword : word ∈ attributeWords) (a : Attribute)
    (hrest : Follows rest) :
    Passes find a.text rest ∨ ∃ front body found, a.text = front ++ body ∧ front ≠ [] ∧
      IsBody body ∧ value (body ++ rest) = some found ∧
      ∀ before, find before (a.text ++ rest) = some found := by
  by_cases hvalue : a.value = []
  · exact Or.inl (h.passes_attribute hword a hrest fun hne => absurd hvalue hne)
  have hread := dropWord?_append (a.value_is.endsWord hvalue rest) h.letters a.name
  cases hname : dropWord? word a.name with
  | none => exact Or.inl (h.passes_other hword a hrest hname)
  | some n =>
    have hstops : ∀ c, (a.value ++ rest).head? = some c → isNameChar c = false ∧ c ≠ ':' :=
      fun c hc => not_isNameChar ((a.value_is.head hvalue rest c hc).imp_right Or.inr)
    have hequals := a.name_token.dropEquals?_append
      ((hsuffix n).trans (dropWord?_suffix hname)) (a.value ++ rest)
    rw [hname, Option.map_some] at hread
    -- more of a name behind the word stands between it and the equals sign
    by_cases hall : skip n = []
    · obtain ⟨front, body, hfront, hform, hbody⟩ := a.value_is.exists_body hvalue
      have hnext : (dropWord? word (a.name ++ (a.value ++ rest))).bind
          (fun u => (dropEquals? (skip u)).bind value) = value (body ++ rest) := by
        rw [hread, Option.bind_some, hskip hstops, hequals, if_pos hall, hbody, Option.bind_some]
      cases hfound : value (body ++ rest) with
      | none =>
        refine Or.inl (h.passes_attribute hword a hrest fun _ => ?_)
        rw [hnext, hfound]
      | some found =>
        refine Or.inr ⟨a.gap ++ a.name ++ front, body, found, ?_, by simp [a.gap_ne_nil], hform,
          hfound, fun before => ?_⟩
        · rw [Attribute.text, hfront, List.append_assoc _ front body]
        · rw [h.find_attribute, hnext, hfound]
    · refine Or.inl (h.passes_attribute hword a hrest fun _ => ?_)
      rw [hread, Option.bind_some, hskip hstops, hequals, if_neg hall]
      rfl

/-- **A namespace attribute is taken out as a whole**, and others are passed over. -/
theorem findNamespace_cases (a : Attribute) (hrest : Fresh rest) :
    Passes findNamespace a.text rest ∨
      ∀ before, findNamespace before (a.text ++ rest) = some ([], rest) := by
  refine (findNamespace_anchored.attribute_cases dropLocalName_append dropLocalName_suffix
    (by decide) a hrest.follows).imp_right ?_
  rintro ⟨front, body, found, -, -, hbody, hvalue, hfound⟩ before
  rw [hfound, ← hvalue, namespaceValue?]
  cases hbody with
  | bare htoken =>
    obtain ⟨hhead, hdrop⟩ := htoken.dropWhile_isBare hrest
    simp only [htoken.quoted?_eq_none, hhead, if_true, hdrop]
  | @quoted text q hq hend =>
    have hquoted := quoted?_append hq hend rest
    rw [List.cons_append, List.append_assoc, List.singleton_append, hquoted]

theorem dropOfficeClass?_append
    (hrest : ∀ c, rest.head? = some c → isWord c = false ∧ isDigit c = false) (t : Text) :
    dropOfficeClass? (t ++ rest) = (dropOfficeClass? t).map (· ++ rest) := by
  have hends : EndsWord rest := fun c hc => (hrest c hc).1
  unfold dropOfficeClass?
  rw [dropWord?_append hends (by decide), dropWord?_append hends (by decide)]
  cases dropWord? "msonormal" t with
  | some u => rfl
  | none =>
    cases dropWord? "wordsection" t with
    | none => rfl
    | some u => exact congrArg some (dropWhile_append_of_head (fun c hc => (hrest c hc).2) u)

/-- In quotes, an Office class is all that there is. -/
theorem officeValue?_quoted (hq : IsQuote q) (ht : q ∉ t) (rest : Text) :
    officeValue? (q :: (t ++ q :: rest)) = none ∨
      officeValue? (q :: (t ++ q :: rest)) = some ([], rest) := by
  have hclass : dropOfficeClass? (t ++ q :: rest) = (dropOfficeClass? t).map (· ++ q :: rest) := by
    refine dropOfficeClass?_append (fun c hc => ?_) t
    rw [← Option.some.inj hc]
    rcases hq with rfl | rfl <;> decide
  rw [officeValue?_quote hq, hclass]
  cases hdrop : dropOfficeClass? t with
  | none => exact Or.inl rfl
  | some r =>
    rw [Option.map_some, Option.bind_some]
    cases r with
    | nil =>
      rw [List.nil_append, dropChar?, if_pos rfl]
      exact Or.inr rfl
    | cons c cs =>
      have hne : c ≠ q := by
        rintro rfl
        exact ht ((dropOfficeClass?_suffix hdrop).mem List.mem_cons_self)
      rw [List.cons_append, dropChar?, if_neg hne]
      exact Or.inl rfl

/-- Without quotes, an Office class may end within what is written there. -/
theorem officeValue?_token (ht : IsToken t) (x : Text) (hrest : Fresh rest) :
    officeValue? (t ++ (x ++ rest)) = none ∨
      ∃ r, r <:+ t ++ x ∧ officeValue? (t ++ (x ++ rest)) = some ([], r ++ rest) := by
  have hquote : ∀ q, (t ++ (x ++ rest)).head? = some q → ¬ IsQuote q := by
    obtain ⟨c, cs, rfl⟩ := List.exists_cons_of_ne_nil ht.ne_nil
    obtain ⟨-, hdouble, hsingle, -⟩ := ht.char List.mem_cons_self
    intro q hq
    rw [← Option.some.inj hq]
    exact fun h => h.elim hdouble hsingle
  have hhead : ∀ c, rest.head? = some c → isWord c = false ∧ isDigit c = false := by
    intro c hc
    rcases hrest.head c hc with hblank | rfl
    · exact not_isWord_of_isBlank hblank
    · decide
  rw [officeValue?_bare hquote, ← List.append_assoc, dropOfficeClass?_append hhead]
  cases hdrop : dropOfficeClass? (t ++ x) with
  | none => exact Or.inl rfl
  | some r =>
    rw [Option.map_some, Option.bind_some]
    cases (r ++ rest).head?.any isWord with
    | true => exact Or.inl rfl
    | false => exact Or.inr ⟨r, dropOfficeClass?_suffix hdrop, rfl⟩

/-- **An Office class is taken out**, with its attribute and maybe with more of what is written
there, and others are passed over. -/
theorem findOfficeClass_cases (a : Attribute) (hx : Scrap x) (hrest : Fresh rest) :
    Passes findOfficeClass a.text (x ++ rest) ∨ ∃ y r, y ≠ [] ∧ a.text ++ x = y ++ r ∧ Scrap r ∧
      ∀ before, findOfficeClass before (y ++ (r ++ rest)) = some ([], r ++ rest) := by
  rcases findOfficeClass_anchored.attribute_cases (fun _ _ => rfl)
      (fun _ => List.suffix_rfl) (by decide) a (hx.follows hrest.follows) with
    hpass | ⟨front, body, found, htext, hne, hbody, hvalue, hfound⟩
  · exact Or.inl hpass
  refine Or.inr ?_
  cases hbody with
  | bare htoken =>
    obtain hnone | ⟨r, ⟨k, hk⟩, hsome⟩ := officeValue?_token htoken x hrest
    · rw [hnone] at hvalue
      cases hvalue
    · -- the class may end before the value does, or go on in the scrap behind it
      have hscrap : Scrap (body ++ x) := Scrap.append (htoken.scrap (x := []) rfl) hx
      have hsplit : a.text ++ x = (front ++ k) ++ r := by
        rw [htext, List.append_assoc, ← hk, List.append_assoc]
      refine ⟨front ++ k, r, by simp [hne], hsplit, hscrap.suffix ⟨k, hk⟩, fun before => ?_⟩
      rw [← List.append_assoc, ← hsplit, List.append_assoc, hfound, ← hvalue, hsome]
  | @quoted text q hq hend =>
    have hcons : q :: (text ++ [q]) ++ (x ++ rest) = q :: (text ++ q :: (x ++ rest)) := by simp
    rw [hcons] at hvalue
    obtain hnone | hsome := officeValue?_quoted hq hend (x ++ rest)
    · rw [hnone] at hvalue
      cases hvalue
    · refine ⟨a.text, x, a.text_ne_nil, rfl, hx, fun before => ?_⟩
      rw [hfound, ← hvalue, hsome]

/-! ## Attributes in a row -/

variable {a : Attribute} {as : List Attribute}

/-- The text of attributes in a row. -/
def row (as : List Attribute) : Text := as.flatMap Attribute.text

theorem row_cons_append (a : Attribute) (as : List Attribute) (rest : Text) :
    row (a :: as) ++ rest = a.text ++ (row as ++ rest) := by
  simp [row]

theorem fresh_row (as : List Attribute) (h : Fresh rest) : Fresh (row as ++ rest) := by
  cases as with
  | nil => exact h
  | cons a as =>
    rw [row_cons_append]
    exact a.fresh_text _

/-- A row may stand behind whatever the rest may stand behind. -/
theorem follows_row (as : List Attribute) (h : Follows rest) : Follows (row as ++ rest) := by
  cases as with
  | nil => exact h
  | cons a as =>
    rw [row_cons_append]
    exact (a.fresh_text _).follows

theorem open_not_mem_row (as : List Attribute) : '<' ∉ row as := by
  intro hmem
  obtain ⟨a, -, hmem⟩ := List.mem_flatMap.1 hmem
  exact a.open_not_mem hmem

/-- **A name without another word in it.** -/
def Lacks (word : Text) (a : Attribute) : Prop := dropThrough? word a.name = none

instance (word : Text) (a : Attribute) : Decidable (Lacks word a) :=
  inferInstanceAs (Decidable (_ = _))

theorem Lacks.dropWord? (h : Lacks word a) (hne : word ≠ []) : dropWord? word a.name = none :=
  (dropThrough?_eq_none_iff hne).1 h a.name List.suffix_rfl

theorem passes_row (h : ∀ a ∈ as, ∀ rest, Fresh rest → Passes find a.text rest)
    (hrest : Fresh rest) : Passes find (row as) rest := by
  induction as with
  | nil => exact .nil find rest
  | cons a as ih =>
    obtain ⟨ha, has⟩ := List.forall_mem_cons.1 h
    exact (ha _ (fresh_row as hrest)).append (ih has)

/-- **Namespaces are taken out of a row**, and the other attributes stay. -/
theorem rewrites_row_namespace (as : List Attribute) (hrest : Fresh rest) :
    ∃ kept, kept.Sublist as ∧ Rewrites findNamespace (row as) (row kept) rest := by
  induction as with
  | nil => exact ⟨[], List.Sublist.refl _, (Passes.nil findNamespace rest).rewrites⟩
  | cons a as ih =>
    obtain ⟨kept, hkept, hrow⟩ := ih
    rcases findNamespace_cases a (fresh_row as hrest) with hpass | hfound
    · exact ⟨a :: kept, hkept.cons_cons a, hpass.rewrites.append hrow⟩
    · exact ⟨kept, hkept.cons a, (rewrites_of_found a.text_ne_nil hfound).append hrow⟩

end HtmlMarkdown.Email.Outlook
