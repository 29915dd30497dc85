import HtmlMarkdown.Proofs.Text.Replacement

/-!
# Reading attributes

The passes over Office markup look for attributes by their names: a word in either case, behind
blank space or at the start of a word, that an equals sign follows (`Assigns`). So nothing is found
in a text that has no equals sign, nor in one that lacks the word, as long as what follows it cannot
be taken for more of a name (`StopsName`).

* `not_assigns`: **where no attribute is spelled.**
* `Asks`, `Anchored`: what the rules for attributes have in common.
-/

namespace HtmlMarkdown.Email.Outlook

open Text

variable {find : Finder} {next : Text → Option (Text × Text)} {c q : Char}
  {t u x y rest word : Text}

/-! ## Blank space and equals signs -/

/-- Blank space that is dropped is at least one character. -/
theorem dropBlanks?_cons_suffix (h : dropBlanks? (c :: t) = some u) : u <:+ t := by
  unfold dropBlanks? at h
  split at h
  · rename_i hblank
    cases h
    rw [trimStart_cons_blank hblank]
    exact trimStart_suffix t
  · cases h

theorem dropBlanks?_visible (h : isBlank c = false) (t : Text) : dropBlanks? (c :: t) = none := by
  unfold dropBlanks?
  exact if_neg (by simp [startsBlank, h])

theorem dropBlanks?_append (hx : isBlankText x = true) (hne : x ≠ [])
    (ht : startsVisible t = true) : dropBlanks? (x ++ t) = some t := by
  have hstart : startsBlank (x ++ t) = true := by
    obtain ⟨c, cs, rfl⟩ := List.exists_cons_of_ne_nil hne
    exact List.all_eq_true.1 hx c List.mem_cons_self
  unfold dropBlanks?
  rw [if_pos hstart, trimStart_append_blank hx, trimStart_of_starts ht]

theorem dropEquals?_left (hx : isBlankText x = true) (t : Text) :
    dropEquals? (x ++ '=' :: t) = some (trimStart t) := by
  have hstart : startsVisible ('=' :: t) = true := rfl
  unfold dropEquals?
  rw [trimStart_append_blank hx, trimStart_of_starts hstart, dropChar?, if_pos rfl]
  rfl

theorem dropEquals?_visible (h : isBlank c = false) (hc : c ≠ '=') (t : Text) :
    dropEquals? (c :: t) = none := by
  have hstart : startsVisible (c :: t) = true := by simp [h]
  unfold dropEquals?
  rw [trimStart_of_starts hstart, dropChar?, if_neg hc]
  rfl

theorem dropEquals?_append (ht : '=' ∉ t) (hrest : dropEquals? rest = none) :
    dropEquals? (t ++ rest) = none := by
  unfold dropEquals? at hrest ⊢
  unfold trimStart
  rw [List.dropWhile_append]
  split
  · exact hrest
  · rename_i hvisible
    cases hdrop : t.dropWhile isBlank with
    | nil => exact absurd (by rw [hdrop]; rfl) hvisible
    | cons c cs =>
      have hc : c ≠ '=' := by
        rintro rfl
        exact ht ((List.dropWhile_suffix _).mem (by rw [hdrop]; exact List.mem_cons_self))
      rw [List.cons_append, dropChar?, if_neg hc]
      rfl

/-! ## Names -/

/-- The characters of a name. -/
def isNameChar (c : Char) : Bool := isWord c || c == '-'

/-- What is left behind a colon and a name, if they are there. -/
def dropLocalName (t : Text) : Text :=
  match t with
  | ':' :: c :: rest => if isNameChar c then rest.dropWhile isNameChar else t
  | _ => t

theorem dropLocalName_suffix (t : Text) : dropLocalName t <:+ t := by
  unfold dropLocalName
  split
  · split
    · exact (List.dropWhile_suffix _).trans ((List.suffix_cons _ _).trans (List.suffix_cons _ _))
    · exact List.suffix_rfl
  · exact List.suffix_rfl

theorem dropLocalName_of_head (h : t.head? ≠ some ':') : dropLocalName t = t := by
  unfold dropLocalName
  split
  · exact absurd rfl h
  · rfl

/-- No name goes on with blank space or with one of the signs around it. -/
theorem not_isNameChar (h : isBlank c = true ∨ c = '>' ∨ c = '=') :
    isNameChar c = false ∧ c ≠ ':' := by
  rcases h with hblank | rfl | rfl
  · have hsigns : isBlank '-' = false ∧ isBlank ':' = false := by decide
    constructor
    · rw [isNameChar, isWord_of_isBlank hblank, Bool.false_or, beq_eq_false_iff_ne]
      rintro rfl
      exact Bool.false_ne_true (hsigns.1.symm.trans hblank)
    · rintro rfl
      exact Bool.false_ne_true (hsigns.2.symm.trans hblank)
  · decide
  · decide

theorem dropLocalName_append
    (hrest : ∀ c, rest.head? = some c → isNameChar c = false ∧ c ≠ ':') (t : Text) :
    dropLocalName (t ++ rest) = dropLocalName t ++ rest := by
  cases t with
  | nil => exact dropLocalName_of_head fun h => (hrest _ h).2 rfl
  | cons c cs =>
    by_cases hcolon : c = ':'
    · subst hcolon
      cases cs with
      | nil =>
        cases hr : rest with
        | nil => rfl
        | cons d ds =>
          have hd := (hrest d (by rw [hr]; rfl)).1
          unfold dropLocalName
          simp [hd]
      | cons d ds =>
        have hrun : (ds ++ rest).dropWhile isNameChar = ds.dropWhile isNameChar ++ rest :=
          dropWhile_append_of_head (fun c hc => (hrest c hc).1) ds
        unfold dropLocalName
        simp only [List.cons_append, hrun]
        split <;> rfl
    · have hhead : ∀ u : Text, (c :: u).head? ≠ some ':' := fun u h => hcolon (Option.some.inj h)
      rw [dropLocalName_of_head (hhead cs)]
      exact dropLocalName_of_head (hhead _)

theorem dropLocalName_of_dropEquals? (h : dropEquals? t = some u) : dropLocalName t = t := by
  refine dropLocalName_of_head fun hhead => ?_
  cases t with
  | nil => cases hhead
  | cons c cs =>
    rw [Option.some.inj hhead, dropEquals?_visible (by decide) (by decide)] at h
    cases h

/-- **What stops a name**: neither a character of a name follows nor a colon or an equals sign, be
it behind blank space. -/
structure StopsName (t : Text) : Prop where
  head : ∀ c, t.head? = some c → isNameChar c = false ∧ c ≠ ':'
  equals : dropEquals? t = none

theorem StopsName.endsWord (h : StopsName t) : EndsWord t := by
  intro c hc
  have hname := (h.head c hc).1
  unfold isNameChar at hname
  exact (Bool.or_eq_false_iff.1 hname).1

/-! ## Rules for attributes -/

theorem dropThrough?_eq_none_iff (hne : word ≠ []) :
    dropThrough? word t = none ↔ ∀ u, u <:+ t → dropWord? word u = none := by
  induction t with
  | nil =>
    refine iff_of_true rfl fun u hu => ?_
    rw [List.suffix_nil.1 hu]
    cases word with
    | nil => exact absurd rfl hne
    | cons w ws => rfl
  | cons c cs ih =>
    rw [dropThrough?, Option.or_eq_none_iff, ih]
    constructor
    · rintro ⟨hfirst, hrest⟩ u hu
      rcases List.suffix_cons_iff.1 hu with rfl | hu
      · exact hfirst
      · exact hrest u hu
    · intro h
      exact ⟨h _ List.suffix_rfl, fun u hu => h u (hu.trans (List.suffix_cons c cs))⟩

/-- **A word that an equals sign follows**, behind blank space if there is any. -/
def Assigns (word t : Text) : Prop :=
  ∃ u v, dropWord? word (trimStart t) = some u ∧ dropEquals? (dropLocalName u) = some v

/-- **No attribute is spelled** in a text that has no equals sign, or that lacks the word. -/
theorem not_assigns (hword : word.all Char.isAlpha = true) (hne : word ≠ [])
    (hx : '=' ∉ x ∨ dropThrough? word x = none) (hrest : StopsName rest) (hu : u <:+ x)
    (hvisible : isBlankText u = false ∨ startsVisible rest = true) :
    ¬ Assigns word (u ++ rest) := by
  rintro ⟨v, w, hv, hw⟩
  have htrim : ∃ y, y <:+ u ∧ trimStart (u ++ rest) = y ++ rest := by
    cases hblank : isBlankText u with
    | true =>
      have hstart : startsVisible rest = true :=
        hvisible.resolve_left (by rw [hblank]; exact Bool.noConfusion)
      refine ⟨[], List.nil_suffix, ?_⟩
      rw [trimStart_append_blank hblank, trimStart_of_starts hstart]
      rfl
    | false =>
      refine ⟨trimStart u, trimStart_suffix u, ?_⟩
      unfold trimStart
      rw [List.dropWhile_append, if_neg]
      intro hnil
      rw [List.isEmpty_iff, List.dropWhile_eq_nil_iff] at hnil
      rw [isBlankText, List.all_eq_true.2 hnil] at hblank
      cases hblank
  obtain ⟨y, hy, htrim⟩ := htrim
  rw [htrim, dropWord?_append hrest.endsWord hword] at hv
  obtain ⟨z, hz, rfl⟩ := Option.map_eq_some_iff.1 hv
  rcases hx with hequals | hnone
  · have hsuffix : dropLocalName z <:+ x :=
      (dropLocalName_suffix z).trans ((dropWord?_suffix hz).trans (hy.trans hu))
    rw [dropLocalName_append hrest.head,
      dropEquals?_append (fun hmem => hequals (hsuffix.mem hmem)) hrest.equals] at hw
    cases hw
  · rw [(dropThrough?_eq_none_iff hne).1 hnone y (hy.trans hu)] at hz
    cases hz

/-- **A rule that looks for an attribute**: it finds nothing where the name is not spelled. -/
structure Asks (find : Finder) (word : Text) : Prop where
  letters : word.all Char.isAlpha = true
  ne_nil : word ≠ []
  assigns : ∀ {before t found}, find before t = some found → Assigns word t

/-- Nothing is found in blank space before a sign. -/
theorem Asks.passes_sign (h : Asks find word) (hx : isBlankText x = true)
    (hc : isBlank c = false) (hsign : isWord c = false) (rest : Text) :
    Passes find (x ++ [c]) rest := by
  intro before u hu hne
  rcases List.suffix_concat_iff.1 hu with rfl | ⟨y, rfl, hy⟩
  · exact absurd rfl hne
  · have hblank : isBlankText y = true :=
      List.all_eq_true.2 fun d hd => List.all_eq_true.1 hx d (hy.mem hd)
    have hstart : startsVisible (c :: rest) = true := by simp [hc]
    cases hfind : find before (y ++ [c] ++ rest) with
    | none => rfl
    | some found =>
      obtain ⟨v, w, hv, -⟩ := h.assigns hfind
      rw [List.append_assoc, List.singleton_append, trimStart_append_blank hblank,
        trimStart_of_starts hstart,
        dropWord?_endsWord h.letters h.ne_nil (endsWord_cons hsign rest)] at hv
      cases hv

/-- Nothing is found in what stands before a visible sign, if it spells no attribute. -/
theorem Asks.passes_stop (h : Asks find word) (hx : '=' ∉ x ∨ dropThrough? word x = none)
    (hblank : isBlank c = false) (hname : isNameChar c = false ∧ c ≠ ':') (hequals : c ≠ '=')
    (rest : Text) : Passes find (x ++ [c]) rest := by
  have hstart : startsVisible (c :: rest) = true := by simp [hblank]
  have hstops : StopsName (c :: rest) := by
    refine ⟨fun d hd => ?_, dropEquals?_visible hblank hequals rest⟩
    rw [← Option.some.inj hd]
    exact hname
  intro before u hu hne
  rcases List.suffix_concat_iff.1 hu with rfl | ⟨y, rfl, hy⟩
  · exact absurd rfl hne
  · cases hfind : find before (y ++ [c] ++ rest) with
    | none => rfl
    | some found =>
      have hassigns := h.assigns hfind
      rw [List.append_assoc] at hassigns
      exact absurd hassigns (not_assigns h.letters h.ne_nil hx hstops hy (Or.inr hstart))

/-- Is the character a quote of either kind? -/
def IsQuote (q : Char) : Prop := q = '"' ∨ q = '\''

instance (q : Char) : Decidable (IsQuote q) := inferInstanceAs (Decidable (_ ∨ _))

theorem Asks.passes_quoted (h : Asks find word) (hx : '=' ∉ x ∨ dropThrough? word x = none)
    (hq : IsQuote q) (rest : Text) : Passes find (x ++ [q]) rest := by
  rcases hq with rfl | rfl
  · exact h.passes_stop hx (by decide) (by decide) (by decide) rest
  · exact h.passes_stop hx (by decide) (by decide) (by decide) rest

/-- **A rule for an attribute behind blank space**: it reads the name of the attribute and then
what comes next. -/
structure Anchored (find : Finder) (word : Text) (next : Text → Option (Text × Text)) : Prop where
  letters : word.all Char.isAlpha = true
  ne_nil : word ≠ []
  reads : ∀ before t, find before t = ((dropBlanks? t).bind (dropWord? word)).bind next
  equals : ∀ {u found}, next u = some found → ∃ v, dropEquals? (dropLocalName u) = some v

theorem Anchored.asks (h : Anchored find word next) : Asks find word where
  letters := h.letters
  ne_nil := h.ne_nil
  assigns := by
    intro before t found hfind
    rw [h.reads] at hfind
    obtain ⟨u, hu, hnext⟩ := Option.bind_eq_some_iff.1 hfind
    obtain ⟨t', ht', hu⟩ := Option.bind_eq_some_iff.1 hu
    obtain ⟨v, hv⟩ := h.equals hnext
    unfold dropBlanks? at ht'
    split at ht'
    · cases ht'
      exact ⟨u, v, hu, hv⟩
    · cases ht'

/-- Nothing is found from a visible character on. -/
theorem Anchored.passes_visible (h : Anchored find word next) (hx : ∀ c ∈ x, isBlank c = false)
    (rest : Text) : Passes find x rest := by
  intro before u hu hne
  obtain ⟨c, cs, rfl⟩ := List.exists_cons_of_ne_nil hne
  have hc := hx c (hu.mem List.mem_cons_self)
  rw [h.reads, List.cons_append, dropBlanks?_visible hc, Option.bind_none, Option.bind_none]

/-! ### The rules -/

/-- What is left behind the name of a namespace attribute and its equals sign. -/
def dropNamespaceName? (t : Text) : Option Text :=
  (dropBlanks? t).bind fun t => (dropWord? "xmlns" t).bind fun t => dropEquals? (dropLocalName t)

theorem dropNamespaceName?_suffix (h : dropNamespaceName? (c :: t) = some u) : u <:+ t := by
  unfold dropNamespaceName? at h
  obtain ⟨v, hv, h⟩ := Option.bind_eq_some_iff.1 h
  obtain ⟨w, hw, h⟩ := Option.bind_eq_some_iff.1 h
  exact (dropEquals?_suffix h).trans ((dropLocalName_suffix w).trans
    ((dropWord?_suffix hw).trans (dropBlanks?_cons_suffix hv)))

/-- The characters of a value without quotes. -/
def isBare (c : Char) : Bool := !isBlank c && c != '>'

/-- What is found behind the equals sign of a namespace attribute. -/
def namespaceValue? (t : Text) : Option (Text × Text) :=
  match quoted? t with
  | some (_, rest) => some ([], rest)
  | none => if t.head?.any isBare then some ([], t.dropWhile isBare) else none

theorem findNamespace_eq (before : Option Char) (t : Text) :
    findNamespace before t = (dropNamespaceName? t).bind namespaceValue? := by
  unfold dropNamespaceName?
  simp only [Option.bind_assoc]
  rfl

theorem findNamespace_anchored : Anchored findNamespace "xmlns" fun u =>
    (dropEquals? (dropLocalName u)).bind namespaceValue? where
  letters := by decide
  ne_nil := by decide
  reads := by
    intro before t
    rw [findNamespace_eq]
    unfold dropNamespaceName?
    simp only [Option.bind_assoc]
  equals := by
    intro u found h
    obtain ⟨v, hv, -⟩ := Option.bind_eq_some_iff.1 h
    exact ⟨v, hv⟩

/-- Rules that read on behind an equals sign. -/
theorem Anchored.of_equals {value : Text → Option (Text × Text)}
    (hword : word.all Char.isAlpha = true) (hne : word ≠ [])
    (hreads : ∀ before t, find before t = (dropBlanks? t).bind fun t =>
      (dropWord? word t).bind fun t => (dropEquals? t).bind value) :
    Anchored find word fun u => (dropEquals? u).bind value where
  letters := hword
  ne_nil := hne
  reads := by
    intro before t
    rw [hreads, Option.bind_assoc]
  equals := by
    intro u found h
    obtain ⟨v, hv, -⟩ := Option.bind_eq_some_iff.1 h
    rw [dropLocalName_of_dropEquals? hv]
    exact ⟨v, hv⟩

theorem dropOfficeClass?_suffix (h : dropOfficeClass? t = some u) : u <:+ t := by
  unfold dropOfficeClass? at h
  rcases Option.or_eq_some_iff.1 h with h | ⟨-, h⟩
  · exact dropWord?_suffix h
  · obtain ⟨v, hv, rfl⟩ := Option.map_eq_some_iff.1 h
    exact (List.dropWhile_suffix _).trans (dropWord?_suffix hv)

/-- What is found behind the equals sign of an attribute with an Office class. -/
def officeValue? : Text → Option (Text × Text)
  | '"' :: t => do return ([], ← dropChar? '"' (← dropOfficeClass? t))
  | '\'' :: t => do return ([], ← dropChar? '\'' (← dropOfficeClass? t))
  | t => do
    let rest ← dropOfficeClass? t
    if rest.head?.any isWord then none else some ([], rest)

/-- In quotes, the class ends at the same quote. -/
theorem officeValue?_quote (hq : IsQuote q) (t : Text) : officeValue? (q :: t) =
    (dropOfficeClass? t).bind fun u => (dropChar? q u).bind fun rest => some ([], rest) := by
  rcases hq with rfl | rfl <;> rfl

/-- Without quotes, it ends where no word character follows. -/
theorem officeValue?_bare (h : ∀ q, t.head? = some q → ¬ IsQuote q) : officeValue? t =
    (dropOfficeClass? t).bind fun rest =>
      if rest.head?.any isWord then none else some ([], rest) := by
  unfold officeValue?
  split
  · exact absurd (Or.inl rfl) (h _ rfl)
  · exact absurd (Or.inr rfl) (h _ rfl)
  · rfl

theorem findOfficeClass_anchored :
    Anchored findOfficeClass "class" fun u => (dropEquals? u).bind officeValue? :=
  .of_equals (by decide) (by decide) fun _ _ => rfl

theorem findEmptyStyle_anchored : Anchored findEmptyStyle "style" fun u =>
    (dropEquals? u).bind fun t => (quoted? t).bind fun found =>
      if isBlankText found.1 then some ([], found.2) else none :=
  .of_equals (by decide) (by decide) fun _ _ => rfl

theorem findStyle_asks : Asks findStyle "style" where
  letters := by decide
  ne_nil := by decide
  assigns := by
    intro before t found h
    unfold findStyle at h
    obtain ⟨-, -, h⟩ := Option.bind_eq_some_iff.1 h
    obtain ⟨u, hu, h⟩ := Option.bind_eq_some_iff.1 h
    obtain ⟨v, hv, -⟩ := Option.bind_eq_some_iff.1 h
    -- the name is no blank space, so there is none before it
    have hstart : trimStart t = t := by
      cases t with
      | nil => rfl
      | cons c cs =>
        refine trimStart_of_starts ?_
        rw [startsVisible_cons, Bool.not_eq_true']
        refine Bool.eq_false_iff.2 fun hblank => ?_
        have hends : EndsWord (c :: cs) := endsWord_cons (isWord_of_isBlank hblank) cs
        rw [dropWord?_endsWord (by decide) (by decide) hends] at hu
        cases hu
    refine ⟨u, v, by rwa [hstart], ?_⟩
    rwa [dropLocalName_of_dropEquals? hv]

end HtmlMarkdown.Email.Outlook
