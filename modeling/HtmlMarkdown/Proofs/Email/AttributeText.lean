import HtmlMarkdown.Proofs.Email.StyledSpan

/-!
# Text that reads as an attribute

The passes for attributes do not ask whether they are in a tag: they go by what the text looks like.
This module says what that is, without the passes: a name, an equals sign with blank space around it
and a value (`IsAssignment`), behind blank space where the attribute is to be taken out
(`IsAttribute`).

* `findNamespace_ne_none_iff`, `findEmptyStyle_ne_none_iff`, `findOfficeClass_ne_none_iff`: what the
  passes take out, and `findNamespace_eq_some_iff` with its end.
* `findStyle_eq_some_iff`: **what is written again.**
-/

namespace HtmlMarkdown.Email.Outlook

open Text

variable {find : Finder} {before : Option Char} {isName : Text → Prop}
  {value : Text → Option (Text × Text)} {found : Text × Text} {c q : Char}
  {t u v word x rest : Text}

/-! ## Blank space and quotes -/

theorem dropBlanks?_eq_some_iff : dropBlanks? t = some u ↔
    ∃ gap, t = gap ++ u ∧ gap ≠ [] ∧ isBlankText gap = true ∧ startsBlank u = false := by
  unfold dropBlanks?
  constructor
  · intro h
    split at h
    · rename_i hstart
      cases h
      obtain ⟨gap, hgap, hsplit⟩ := exists_trimStart t
      refine ⟨gap, hsplit, ?_, hgap, startsBlank_trimStart t⟩
      rintro rfl
      rw [hsplit, List.nil_append, startsBlank_trimStart] at hstart
      cases hstart
    · cases h
  · rintro ⟨gap, rfl, hne, hgap, hu⟩
    have hstart : startsBlank (gap ++ u) = true := by
      obtain ⟨c, cs, rfl⟩ := List.exists_cons_of_ne_nil hne
      exact (Bool.and_eq_true_iff.1 hgap).1
    rw [if_pos hstart, trimStart_append_of_not_starts hgap hu]

theorem dropEquals?_eq_some_iff : dropEquals? t = some u ↔
    ∃ left right, t = left ++ '=' :: (right ++ u) ∧ isBlankText left = true ∧
      isBlankText right = true ∧ startsBlank u = false := by
  constructor
  · intro h
    obtain ⟨v, hv, rfl⟩ := Option.map_eq_some_iff.1 h
    obtain ⟨left, hleft, hsplit⟩ := exists_trimStart t
    obtain ⟨right, hright, hsplit'⟩ := exists_trimStart v
    refine ⟨left, right, ?_, hleft, hright, startsBlank_trimStart v⟩
    rw [← hsplit', ← dropChar?_eq_some_iff.1 hv, ← hsplit]
  · rintro ⟨left, right, rfl, hleft, hright, hu⟩
    rw [dropEquals?_left hleft, trimStart_append_of_not_starts hright hu]

theorem splitAtChar?_eq_some_iff :
    splitAtChar? c t = some (v, rest) ↔ t = v ++ c :: rest ∧ c ∉ v := by
  constructor
  · intro h
    unfold splitAtChar? at h
    split at h
    · rename_i hdrop
      obtain ⟨rfl, w, hw, hu⟩ := eq_append_of_dropWhile_ne hdrop
      rw [hu, takeWhile_ne_append hw] at h
      cases h
      exact ⟨hu, hw⟩
    · cases h
  · rintro ⟨rfl, hv⟩
    exact splitAtChar?_append hv rest

theorem quoted?_eq_some_iff : quoted? t = some (v, rest) ↔
    ∃ q, t = q :: (v ++ q :: rest) ∧ IsQuote q ∧ q ∉ v := by
  constructor
  · intro h
    unfold quoted? at h
    split at h
    · obtain ⟨rfl, hq⟩ := splitAtChar?_eq_some_iff.1 h
      exact ⟨_, rfl, Or.inl rfl, hq⟩
    · obtain ⟨rfl, hq⟩ := splitAtChar?_eq_some_iff.1 h
      exact ⟨_, rfl, Or.inr rfl, hq⟩
    · cases h
  · rintro ⟨q, rfl, hq, hv⟩
    exact quoted?_append hq hv rest

theorem quoted?_suffix (h : quoted? t = some (v, rest)) : rest <:+ t := by
  obtain ⟨q, rfl, -, -⟩ := quoted?_eq_some_iff.1 h
  exact ⟨q :: (v ++ [q]), by simp⟩

/-! ## Assignments -/

/-- The name is a word in either case. -/
def IsWord (word name : Text) : Prop := name.map foldChar = word

/-- **A name, an equals sign with blank space around it, and a value.** -/
def IsAssignment (isName : Text → Prop) (t v : Text) : Prop :=
  ∃ name left right, t = name ++ (left ++ '=' :: (right ++ v)) ∧ isName name ∧
    isBlankText left = true ∧ isBlankText right = true

/-- **An assignment behind blank space.** -/
def IsAttribute (isName : Text → Prop) (t v : Text) : Prop :=
  ∃ gap u, t = gap ++ u ∧ gap ≠ [] ∧ isBlankText gap = true ∧ IsAssignment isName u v

theorem isAssignment_iff (hv : startsBlank v = false) :
    ((dropWord? word t).bind fun u => dropEquals? u) = some v ↔ IsAssignment (IsWord word) t v := by
  rw [Option.bind_eq_some_iff]
  constructor
  · rintro ⟨u, hu, hequals⟩
    obtain ⟨name, hname, rfl⟩ := dropWord?_eq_some_iff.1 hu
    obtain ⟨left, right, rfl, hleft, hright, -⟩ := dropEquals?_eq_some_iff.1 hequals
    exact ⟨name, left, right, rfl, hname, hleft, hright⟩
  · rintro ⟨name, left, right, rfl, hname, hleft, hright⟩
    exact ⟨_, dropWord?_eq_some_iff.2 ⟨name, hname, rfl⟩,
      dropEquals?_eq_some_iff.2 ⟨left, right, rfl, hleft, hright, hv⟩⟩

/-- A word of letters in front is no blank space. -/
theorem startsBlank_of_word (hword : word.all Char.isAlpha = true) (hne : word ≠ [])
    (h : dropWord? word t = some u) : startsBlank t = false := by
  cases t with
  | nil => rfl
  | cons c cs =>
    refine Bool.eq_false_iff.2 fun hblank => ?_
    have hends : EndsWord (c :: cs) := endsWord_cons (isWord_of_isBlank hblank) cs
    rw [dropWord?_endsWord hword hne hends] at h
    cases h

/-- **What a rule for an attribute finds** it reads in the value of the attribute. The name may have
a part that is skipped. -/
theorem Anchored.eq_some_iff {skip : Text → Text}
    (h : Anchored find word fun u => (dropEquals? (skip u)).bind value)
    (hname : ∀ {t v}, startsBlank v = false →
      (((dropWord? word t).bind fun u => dropEquals? (skip u)) = some v ↔
        IsAssignment isName t v)) :
    find before t = some found ↔
      ∃ v, IsAttribute isName t v ∧ startsBlank v = false ∧ value v = some found := by
  rw [h.reads]
  constructor
  · intro hfound
    obtain ⟨u, hu, hnext⟩ := Option.bind_eq_some_iff.1 hfound
    obtain ⟨x, hx, hread⟩ := Option.bind_eq_some_iff.1 hu
    obtain ⟨v, hv, hvalue⟩ := Option.bind_eq_some_iff.1 hnext
    obtain ⟨gap, rfl, hne, hgap, -⟩ := dropBlanks?_eq_some_iff.1 hx
    obtain ⟨-, -, -, -, -, hstart⟩ := dropEquals?_eq_some_iff.1 hv
    refine ⟨v, ⟨gap, x, rfl, hne, hgap, (hname hstart).1 ?_⟩, hstart, hvalue⟩
    rw [hread, Option.bind_some, hv]
  · rintro ⟨v, ⟨gap, x, rfl, hne, hgap, hassign⟩, hstart, hvalue⟩
    obtain ⟨u, hu, hv⟩ := Option.bind_eq_some_iff.1 ((hname hstart).2 hassign)
    have hx := startsBlank_of_word h.letters h.ne_nil hu
    rw [dropBlanks?_eq_some_iff.2 ⟨gap, rfl, hne, hgap, hx⟩, Option.bind_some, hu,
      Option.bind_some, hv, Option.bind_some, hvalue]

theorem Anchored.ne_none_iff {skip : Text → Text}
    (h : Anchored find word fun u => (dropEquals? (skip u)).bind value)
    (hname : ∀ {t v}, startsBlank v = false →
      (((dropWord? word t).bind fun u => dropEquals? (skip u)) = some v ↔ IsAssignment isName t v))
    (before : Option Char) (t : Text) : find before t ≠ none ↔
      ∃ v, IsAttribute isName t v ∧ startsBlank v = false ∧ value v ≠ none := by
  simp only [Option.ne_none_iff_exists', h.eq_some_iff hname]
  constructor
  · rintro ⟨found, v, hattribute, hstart, hvalue⟩
    exact ⟨v, hattribute, hstart, found, hvalue⟩
  · rintro ⟨v, hattribute, hstart, found, hvalue⟩
    exact ⟨found, v, hattribute, hstart, hvalue⟩

/-- **What is found is taken out**, if the rule reads on behind the equals sign and writes
nothing. -/
theorem Anchored.drops {skip : Text → Text}
    (h : Anchored find word fun u => (dropEquals? (skip u)).bind value)
    (hskip : ∀ t, skip t <:+ t)
    (hvalue : ∀ {t found}, value t = some found → found.1 = [] ∧ found.2 <:+ t)
    (hfind : find before (c :: t) = some found) : found.1 = [] ∧ found.2 <:+ t := by
  rw [h.reads] at hfind
  obtain ⟨u, hu, hnext⟩ := Option.bind_eq_some_iff.1 hfind
  obtain ⟨x, hx, hread⟩ := Option.bind_eq_some_iff.1 hu
  obtain ⟨v, hv, hfound⟩ := Option.bind_eq_some_iff.1 hnext
  refine (hvalue hfound).imp_right fun hsuffix => hsuffix.trans ?_
  exact (dropEquals?_suffix hv).trans ((hskip u).trans
    ((dropWord?_suffix hread).trans (dropBlanks?_cons_suffix hx)))

/-! ## Namespaces -/

/-- The part of a name behind a colon, or nothing. -/
def IsLocalName (t : Text) : Prop :=
  t = [] ∨ ∃ more, t = ':' :: more ∧ more ≠ [] ∧ more.all isNameChar = true

/-- The name of a namespace: the word in either case, and maybe a part behind a colon. -/
def IsNamespaceName (name : Text) : Prop :=
  ∃ front back, name = front ++ back ∧ IsWord "xmlns" front ∧ IsLocalName back

/-- **A namespace attribute**: its value starts with a character that is neither blank nor a closing
bracket. -/
def IsNamespace (t : Text) : Prop :=
  ∃ c cs, IsAttribute IsNamespaceName t (c :: cs) ∧ isBlank c = false ∧ c ≠ '>'

theorem exists_localName (t : Text) : ∃ back, IsLocalName back ∧ t = back ++ dropLocalName t := by
  unfold dropLocalName
  split
  · rename_i c rest
    split
    · rename_i hc
      refine ⟨':' :: c :: rest.takeWhile isNameChar, Or.inr ⟨_, rfl, List.cons_ne_nil _ _, ?_⟩, ?_⟩
      · rw [List.all_cons, hc, Bool.true_and]
        exact List.all_takeWhile
      · rw [List.cons_append, List.cons_append, List.takeWhile_append_dropWhile]
    · exact ⟨[], Or.inl rfl, rfl⟩
  · exact ⟨[], Or.inl rfl, rfl⟩

theorem dropLocalName_localName (hx : IsLocalName x)
    (ht : ∀ c, t.head? = some c → isNameChar c = false ∧ c ≠ ':') :
    dropLocalName (x ++ t) = t := by
  rcases hx with rfl | ⟨more, rfl, hne, hall⟩
  · exact dropLocalName_of_head fun h => (ht _ h).2 rfl
  · obtain ⟨c, cs, rfl⟩ := List.exists_cons_of_ne_nil hne
    obtain ⟨hc, hcs⟩ := Bool.and_eq_true_iff.1 hall
    have hdrop : (cs ++ t).dropWhile isNameChar = t := dropWhile_run hcs fun d hd => (ht d hd).1
    unfold dropLocalName
    simp only [List.cons_append, hc, if_true, hdrop]

theorem isAssignment_namespace_iff (hv : startsBlank v = false) :
    ((dropWord? "xmlns" t).bind fun u => dropEquals? (dropLocalName u)) = some v ↔
      IsAssignment IsNamespaceName t v := by
  rw [Option.bind_eq_some_iff]
  constructor
  · rintro ⟨u, hu, hequals⟩
    obtain ⟨front, hfront, rfl⟩ := dropWord?_eq_some_iff.1 hu
    obtain ⟨back, hback, hsplit⟩ := exists_localName u
    obtain ⟨left, right, hread, hleft, hright, -⟩ := dropEquals?_eq_some_iff.1 hequals
    refine ⟨front ++ back, left, right, ?_, ⟨front, back, rfl, hfront, hback⟩, hleft, hright⟩
    rw [List.append_assoc, ← hread, ← hsplit]
  · rintro ⟨name, left, right, rfl, ⟨front, back, rfl, hfront, hback⟩, hleft, hright⟩
    -- the name has ended where blank space or the equals sign starts
    have hhead : ∀ c, (left ++ '=' :: (right ++ v)).head? = some c →
        isNameChar c = false ∧ c ≠ ':' := by
      intro c hc
      refine not_isNameChar ?_
      cases left with
      | nil => exact Or.inr (Or.inr (Option.some.inj hc).symm)
      | cons d ds =>
        rw [← Option.some.inj hc]
        exact Or.inl (Bool.and_eq_true_iff.1 hleft).1
    refine ⟨back ++ (left ++ '=' :: (right ++ v)),
      dropWord?_eq_some_iff.2 ⟨front, hfront, List.append_assoc _ _ _⟩, ?_⟩
    rw [dropLocalName_localName hback hhead]
    exact dropEquals?_eq_some_iff.2 ⟨left, right, rfl, hleft, hright, hv⟩

/-- A value in quotes, up to where they close. -/
def IsQuotedValue (v rest : Text) : Prop :=
  ∃ q inside, v = q :: (inside ++ q :: rest) ∧ IsQuote q ∧ q ∉ inside

/-- **A value and what is left behind it**: it is in quotes, or else it goes on up to blank space or
a closing bracket. -/
def ReadsValue (v rest : Text) : Prop :=
  IsQuotedValue v rest ∨ (∀ behind, ¬ IsQuotedValue v behind) ∧
    ∃ value, v = value ++ rest ∧ value ≠ [] ∧ value.all isBare = true ∧
      rest.head?.any isBare = false

/-- **A namespace attribute and what is left behind it.** -/
def ReadsNamespace (t rest : Text) : Prop :=
  ∃ v, IsAttribute IsNamespaceName t v ∧ startsBlank v = false ∧ ReadsValue v rest

theorem quoted?_eq_none_iff : quoted? v = none ↔ ∀ behind, ¬ IsQuotedValue v behind := by
  rw [Option.eq_none_iff_forall_ne_some]
  constructor
  · rintro h behind ⟨q, inside, hsplit, hq, hend⟩
    exact h (inside, behind) (quoted?_eq_some_iff.2 ⟨q, hsplit, hq, hend⟩)
  · rintro h ⟨inside, behind⟩ hquoted
    obtain ⟨q, hsplit, hq, hend⟩ := quoted?_eq_some_iff.1 hquoted
    exact h behind ⟨q, inside, hsplit, hq, hend⟩

theorem namespaceValue?_eq_some_iff :
    namespaceValue? v = some found ↔ found.1 = [] ∧ ReadsValue v found.2 := by
  obtain ⟨new, rest⟩ := found
  have hbare : ∀ {x : Text}, x.head?.any isBare = false →
      ∀ c, x.head? = some c → isBare c = false := by
    intro x hx c hc
    rwa [hc] at hx
  unfold namespaceValue?
  constructor
  · intro h
    split at h
    · rename_i hquoted
      obtain ⟨q, hsplit, hq, hend⟩ := quoted?_eq_some_iff.1 hquoted
      cases h
      exact ⟨rfl, Or.inl ⟨q, _, hsplit, hq, hend⟩⟩
    · rename_i hquoted
      split at h
      · rename_i hfirst
        cases h
        exact ⟨rfl, Or.inr ⟨quoted?_eq_none_iff.1 hquoted, v.takeWhile isBare,
          List.takeWhile_append_dropWhile.symm, takeWhile_ne_nil hfirst,
          List.all_takeWhile, any_head?_dropWhile isBare v⟩⟩
      · cases h
  · rintro ⟨rfl, ⟨q, inside, rfl, hq, hend⟩ | ⟨hquoted, value, rfl, hne, hall, hstop⟩⟩
    · rw [quoted?_append hq hend]
    · obtain ⟨c, cs, rfl⟩ := List.exists_cons_of_ne_nil hne
      have hfirst : (c :: cs ++ rest).head?.any isBare = true := (Bool.and_eq_true_iff.1 hall).1
      rw [quoted?_eq_none_iff.2 hquoted]
      simp only [hfirst, if_true]
      rw [dropWhile_run hall (hbare hstop)]

/-- **What is found are the namespace attributes**, with what is left behind them. -/
theorem findNamespace_eq_some_iff :
    findNamespace before t = some found ↔ found.1 = [] ∧ ReadsNamespace t found.2 := by
  rw [findNamespace_anchored.eq_some_iff isAssignment_namespace_iff]
  simp only [namespaceValue?_eq_some_iff]
  constructor
  · rintro ⟨v, hattribute, hstart, hnew, hvalue⟩
    exact ⟨hnew, v, hattribute, hstart, hvalue⟩
  · rintro ⟨hnew, v, hattribute, hstart, hvalue⟩
    exact ⟨v, hattribute, hstart, hnew, hvalue⟩

theorem findNamespace_ne_none_iff : findNamespace before t ≠ none ↔ IsNamespace t := by
  rw [findNamespace_anchored.ne_none_iff isAssignment_namespace_iff]
  constructor
  · rintro ⟨v, hattribute, hstart, hvalue⟩
    cases v with
    | nil => exact absurd rfl hvalue
    | cons c cs =>
      refine ⟨c, cs, hattribute, hstart, ?_⟩
      rintro rfl
      exact hvalue rfl
  · rintro ⟨c, cs, hattribute, hblank, hclose⟩
    refine ⟨c :: cs, hattribute, hblank, ?_⟩
    have hbare : isBare c = true := by simp [isBare, hblank, hclose]
    unfold namespaceValue?
    cases quoted? (c :: cs) with
    | some found => exact Option.some_ne_none _
    | none =>
      simp only [List.head?_cons, Option.any_some, hbare, if_true]
      exact Option.some_ne_none _

theorem ReadsValue.suffix (h : ReadsValue v rest) : rest <:+ v := by
  rcases h with ⟨q, inside, rfl, -, -⟩ | ⟨-, value, rfl, -, -, -⟩
  · exact ⟨q :: (inside ++ [q]), by simp⟩
  · exact List.suffix_append value rest

theorem findNamespace_drops (h : findNamespace before (c :: t) = some found) :
    found.1 = [] ∧ found.2 <:+ t :=
  findNamespace_anchored.drops dropLocalName_suffix (fun hvalue => by
    obtain ⟨hnew, hread⟩ := namespaceValue?_eq_some_iff.1 hvalue
    exact ⟨hnew, hread.suffix⟩) h

/-! ## Blank styles -/

/-- **A blank style attribute**: its value is blank space in quotes. -/
def IsBlankStyle (t : Text) : Prop :=
  ∃ q inside rest, IsAttribute (IsWord "style") t (q :: (inside ++ q :: rest)) ∧ IsQuote q ∧
    isBlankText inside = true

theorem IsQuote.not_blank (h : IsQuote q) (t : Text) : startsBlank (q :: t) = false := by
  rcases h with rfl | rfl <;> rfl

/-- **What is found are the blank style attributes.** -/
theorem findEmptyStyle_ne_none_iff : findEmptyStyle before t ≠ none ↔ IsBlankStyle t := by
  rw [findEmptyStyle_anchored.ne_none_iff isAssignment_iff]
  constructor
  · rintro ⟨v, hattribute, -, hvalue⟩
    obtain ⟨found, hfound⟩ := Option.ne_none_iff_exists'.1 hvalue
    obtain ⟨⟨inside, rest⟩, hquoted, hblank⟩ := Option.bind_eq_some_iff.1 hfound
    obtain ⟨q, rfl, hq, -⟩ := quoted?_eq_some_iff.1 hquoted
    refine ⟨q, inside, rest, hattribute, hq, ?_⟩
    by_contra hvisible
    rw [if_neg hvisible] at hblank
    cases hblank
  · rintro ⟨q, inside, rest, hattribute, hq, hblank⟩
    -- blank space has no quote in it, so the value closes where it should
    have hend : q ∉ inside := not_mem_of_isBlankText hblank (hq.not_blank [])
    have hquoted := quoted?_append hq hend rest
    refine ⟨_, hattribute, hq.not_blank _, ?_⟩
    rw [hquoted, Option.bind_some, if_pos hblank]
    exact Option.some_ne_none _

theorem findEmptyStyle_drops (h : findEmptyStyle before (c :: t) = some found) :
    found.1 = [] ∧ found.2 <:+ t := by
  refine findEmptyStyle_anchored.drops (fun _ => List.suffix_rfl) (fun {v found} hvalue => ?_) h
  obtain ⟨⟨inside, rest⟩, hquoted, hblank⟩ := Option.bind_eq_some_iff.1 hvalue
  split at hblank
  · cases hblank
    exact ⟨rfl, quoted?_suffix hquoted⟩
  · cases hblank

/-! ## Office classes -/

/-- The name of an Office class, in either case. -/
def IsOfficeName (t : Text) : Prop :=
  IsWord "msonormal" t ∨
    ∃ name digits, t = name ++ digits ∧ IsWord "wordsection" name ∧ digits.all isDigit = true

/-- The name of an Office class in quotes, or without them and with nothing behind it that could be
more of a word. -/
def IsOfficeValue (v : Text) : Prop :=
  (∃ q name rest, v = q :: (name ++ q :: rest) ∧ IsQuote q ∧ IsOfficeName name) ∨
    ∃ name rest, v = name ++ rest ∧ IsOfficeName name ∧ EndsWord rest

/-- **A class attribute with nothing but an Office class.** -/
def IsOfficeClass (t : Text) : Prop := ∃ v, IsAttribute (IsWord "class") t v ∧ IsOfficeValue v

theorem isOfficeName_of_drop (h : dropOfficeClass? t = some u) :
    ∃ name, t = name ++ u ∧ IsOfficeName name := by
  rcases Option.or_eq_some_iff.1 h with hnormal | ⟨-, hsection⟩
  · obtain ⟨name, hname, rfl⟩ := dropWord?_eq_some_iff.1 hnormal
    exact ⟨name, rfl, Or.inl hname⟩
  · obtain ⟨v, hv, rfl⟩ := Option.map_eq_some_iff.1 hsection
    obtain ⟨name, hname, rfl⟩ := dropWord?_eq_some_iff.1 hv
    refine ⟨name ++ v.takeWhile isDigit, ?_, Or.inr ⟨name, _, rfl, hname, ?_⟩⟩
    · rw [List.append_assoc, List.takeWhile_append_dropWhile]
    · exact List.all_takeWhile

theorem dropOfficeClass?_name (h : IsOfficeName x) (ht : EndsWord t) :
    dropOfficeClass? (x ++ t) = some t := by
  unfold dropOfficeClass?
  rcases h with hname | ⟨name, digits, rfl, hname, hdigits⟩
  · rw [dropWord?_eq_some_iff.2 ⟨x, hname, rfl⟩]
    rfl
  · -- the two names start with different letters
    have hother : dropWord? "msonormal" (name ++ digits ++ t) = none := by
      have hfold : name.map foldChar = 'w' :: "ordsection" := hname
      obtain ⟨c, cs, rfl, hc, -⟩ := List.map_eq_cons_iff.1 hfold
      simp [dropWord?, hc]
    have hread := dropWord?_eq_some_iff.2 ⟨name, hname, List.append_assoc name digits t⟩
    have hdrop : (digits ++ t).dropWhile isDigit = t := by
      have hstop : ∀ c, t.head? = some c → isDigit c = false := by
        intro c hc
        refine Bool.eq_false_iff.2 fun hdigit => ?_
        have hword := ht c hc
        rw [isWord_of_isDigit hdigit] at hword
        cases hword
      exact dropWhile_run hdigits hstop
    rw [hother, Option.none_or, hread, Option.map_some, hdrop]

/-- The name starts with a letter. -/
theorem IsOfficeName.exists_cons (h : IsOfficeName x) : ∃ c cs, x = c :: cs ∧ isWord c = true := by
  have hletter : ∀ {w : Char} {ws name : Text}, name.map foldChar = w :: ws → w.isAlpha = true →
      ∃ c cs, name = c :: cs ∧ isWord c = true := by
    intro w ws name hfold hw
    obtain ⟨c, cs, rfl, hc, -⟩ := List.map_eq_cons_iff.1 hfold
    exact ⟨c, cs, rfl, isWord_of_foldChar (by rwa [hc])⟩
  rcases h with hname | ⟨name, digits, rfl, hname, -⟩
  · have hfold : x.map foldChar = 'm' :: "sonormal" := hname
    exact hletter hfold (by decide)
  · have hfold : name.map foldChar = 'w' :: "ordsection" := hname
    obtain ⟨c, cs, rfl, hc⟩ := hletter hfold (by decide)
    exact ⟨c, cs ++ digits, rfl, hc⟩

theorem IsQuote.not_word (h : IsQuote q) : isWord q = false := by
  rcases h with rfl | rfl <;> decide

theorem officeValue?_ne_none_iff : officeValue? v ≠ none ↔ IsOfficeValue v := by
  constructor
  · intro hvalue
    obtain ⟨found, hfound⟩ := Option.ne_none_iff_exists'.1 hvalue
    by_cases hq : ∃ q u, v = q :: u ∧ IsQuote q
    · obtain ⟨q, u, rfl, hq⟩ := hq
      rw [officeValue?_quote hq] at hfound
      obtain ⟨r, hr, hfound⟩ := Option.bind_eq_some_iff.1 hfound
      obtain ⟨rest, hrest, -⟩ := Option.bind_eq_some_iff.1 hfound
      obtain ⟨name, rfl, hname⟩ := isOfficeName_of_drop hr
      rw [dropChar?_eq_some_iff.1 hrest]
      exact Or.inl ⟨q, name, rest, rfl, hq, hname⟩
    · have hhead : ∀ q, v.head? = some q → ¬ IsQuote q := by
        intro q hv hq'
        obtain ⟨u, rfl⟩ := List.head?_eq_some_iff.1 hv
        exact hq ⟨q, u, rfl, hq'⟩
      rw [officeValue?_bare hhead] at hfound
      obtain ⟨rest, hrest, hends⟩ := Option.bind_eq_some_iff.1 hfound
      obtain ⟨name, rfl, hname⟩ := isOfficeName_of_drop hrest
      refine Or.inr ⟨name, rest, rfl, hname, fun c hc => ?_⟩
      rw [hc, Option.any_some] at hends
      cases hword : isWord c with
      | false => rfl
      | true =>
        rw [hword, if_pos rfl] at hends
        cases hends
  · rintro (⟨q, name, rest, rfl, hq, hname⟩ | ⟨name, rest, rfl, hname, hrest⟩)
    · rw [officeValue?_quote hq, dropOfficeClass?_name hname (endsWord_cons hq.not_word rest),
        Option.bind_some, dropChar?_eq_some_iff.2 rfl]
      exact Option.some_ne_none _
    · have hhead : ∀ q, (name ++ rest).head? = some q → ¬ IsQuote q := by
        obtain ⟨c, cs, rfl, hc⟩ := hname.exists_cons
        intro q hq hquote
        rw [← Option.some.inj hq] at hquote
        rw [hquote.not_word] at hc
        cases hc
      have hends : rest.head?.any isWord = false := by
        cases hfirst : rest.head? with
        | none => rfl
        | some c => exact hrest c hfirst
      rw [officeValue?_bare hhead, dropOfficeClass?_name hname hrest, Option.bind_some, hends]
      exact Option.some_ne_none _

theorem IsOfficeValue.not_blank (h : IsOfficeValue v) : startsBlank v = false := by
  rcases h with ⟨q, name, rest, rfl, hq, -⟩ | ⟨name, rest, rfl, hname, -⟩
  · exact hq.not_blank _
  · obtain ⟨c, cs, rfl, hc⟩ := hname.exists_cons
    refine Bool.eq_false_iff.2 fun hblank => ?_
    rw [isWord_of_isBlank hblank] at hc
    cases hc

/-- **What is found are the class attributes with nothing but an Office class.** -/
theorem findOfficeClass_ne_none_iff : findOfficeClass before t ≠ none ↔ IsOfficeClass t := by
  rw [findOfficeClass_anchored.ne_none_iff isAssignment_iff]
  refine exists_congr fun v => and_congr_right fun _ => ?_
  rw [officeValue?_ne_none_iff]
  exact and_iff_right_of_imp IsOfficeValue.not_blank

theorem findOfficeClass_drops (h : findOfficeClass before (c :: t) = some found) :
    found.1 = [] ∧ found.2 <:+ t := by
  refine findOfficeClass_anchored.drops (fun _ => List.suffix_rfl) (fun {v found} hvalue => ?_) h
  have hquoted : ∀ {q : Char} {u : Text}, ((dropOfficeClass? u).bind fun r =>
      (dropChar? q r).bind fun rest => some (([] : Text), rest)) = some found →
      found.1 = [] ∧ found.2 <:+ q :: u := by
    intro q u hfound
    obtain ⟨r, hr, hfound⟩ := Option.bind_eq_some_iff.1 hfound
    obtain ⟨rest, hrest, hfound⟩ := Option.bind_eq_some_iff.1 hfound
    cases hfound
    exact ⟨rfl, (dropChar?_suffix hrest).trans
      ((dropOfficeClass?_suffix hr).trans (List.suffix_cons q u))⟩
  unfold officeValue? at hvalue
  split at hvalue
  · exact hquoted hvalue
  · exact hquoted hvalue
  · obtain ⟨rest, hrest, hfound⟩ := Option.bind_eq_some_iff.1 hvalue
    split at hfound
    · cases hfound
    · cases hfound
      exact ⟨rfl, dropOfficeClass?_suffix hrest⟩

/-! ## Styles -/

/-- **What is written again**: a style attribute in quotes, at the edge of a word. -/
theorem findStyle_eq_some_iff {new : Text} : findStyle before t = some (new, rest) ↔
    ∃ q inside, IsAssignment (IsWord "style") t (q :: (inside ++ q :: rest)) ∧ IsQuote q ∧
      q ∉ inside ∧ atWordEdge before t = true ∧
      new = "style=\"" ++ trim (replaceAll findVendorDeclaration inside) ++ "\"" := by
  rw [findStyle_eq]
  constructor
  · intro h
    split at h
    · rename_i hedge
      obtain ⟨u, hu, h⟩ := Option.bind_eq_some_iff.1 h
      obtain ⟨⟨inside, rest'⟩, hquoted, hfound⟩ := Option.map_eq_some_iff.1 h
      obtain ⟨v, hv, hquoted⟩ := Option.bind_eq_some_iff.1 hquoted
      obtain ⟨q, rfl, hq, hend⟩ := quoted?_eq_some_iff.1 hquoted
      obtain ⟨hnew, hrest⟩ := Prod.mk.inj hfound
      subst hrest
      refine ⟨q, inside, (isAssignment_iff (hq.not_blank _)).1 ?_, hq, hend, hedge, hnew.symm⟩
      rw [hu, Option.bind_some, hv]
    · cases h
  · rintro ⟨q, inside, hassign, hq, hend, hedge, rfl⟩
    obtain ⟨u, hu, hv⟩ := Option.bind_eq_some_iff.1 ((isAssignment_iff (hq.not_blank _)).2 hassign)
    rw [if_pos hedge, hu, Option.bind_some, hv, Option.bind_some, quoted?_append hq hend]
    rfl

end HtmlMarkdown.Email.Outlook
