import HtmlMarkdown.Proofs.Email.AttributeText

/-!
# Text that is left alone

Without an opening bracket there is no markup in a text, but the passes for attributes go by what
the text looks like and change it all the same. Three of them take out what they find, and one
writes style attributes again, which it leaves as they are if they are written that way already
(`StylesWritten`). No pass makes a text longer, so none of them makes up for what another one has
taken out.

* `replaceAllFrom_style_eq_iff`: when styles are left alone.
* `clean_eq_self_iff`: **when text without a bracket is left alone.**
-/

namespace HtmlMarkdown.Email.Outlook

open Text

variable {before : Option Char} {c : Char} {t new rest : Text}

/-! ## Styles that are written already -/

/-- **A style attribute in quotes**, at the edge of a word. -/
def IsStyle (before : Option Char) (t : Text) : Prop :=
  atWordEdge before t = true ∧ ∃ q inside rest,
    IsAssignment (IsWord "style") t (q :: (inside ++ q :: rest)) ∧ IsQuote q ∧ q ∉ inside

/-- **Each style attribute is written as the cleanup writes it**: in small letters and double
quotes, with no blank space around the equals sign or at an end of the value, and without vendor
declarations. What stands in the quotes of a style attribute is not read for others. -/
inductive StylesWritten : Option Char → Text → Prop where
  | nil {before : Option Char} : StylesWritten before []
  | char {before : Option Char} {c : Char} {t : Text} (hnone : ¬ IsStyle before (c :: t))
      (ht : StylesWritten (some c) t) : StylesWritten before (c :: t)
  | style {before : Option Char} {value t : Text} (hedge : before.any isWord = false)
      (hend : '"' ∉ value) (htrim : trim value = value) (hvendor : ¬ HasVendorDeclaration value)
      (ht : StylesWritten (some '"') t) :
      StylesWritten before ("style=\"" ++ (value ++ '"' :: t))

theorem findStyle_ne_none_iff : findStyle before t ≠ none ↔ IsStyle before t := by
  constructor
  · intro h
    obtain ⟨⟨new, rest⟩, hfound⟩ := Option.ne_none_iff_exists'.1 h
    obtain ⟨q, inside, hassign, hq, hend, hedge, -⟩ := findStyle_eq_some_iff.1 hfound
    exact ⟨hedge, q, inside, rest, hassign, hq, hend⟩
  · rintro ⟨hedge, q, inside, rest, hassign, hq, hend⟩
    rw [findStyle_eq_some_iff.2 ⟨q, inside, hassign, hq, hend, hedge, rfl⟩]
    exact Option.some_ne_none _

/-- A style is written with as many characters as it was read with, or fewer. If it is written as it
was read, it was well written. -/
theorem findStyle_cases (h : findStyle before t = some (new, rest)) :
    ∃ old, t = old ++ rest ∧ old ≠ [] ∧ new.length ≤ old.length ∧
      (new = old → ∃ value, old = "style=\"" ++ (value ++ ['"']) ∧ '"' ∉ value ∧
        trim value = value ∧ ¬ HasVendorDeclaration value) := by
  obtain ⟨q, inside, ⟨name, left, right, rfl, hname, hleft, hright⟩, hq, hend, -, rfl⟩ :=
    findStyle_eq_some_iff.1 h
  have hlength : name.length = 5 := by
    have hfold := congrArg List.length hname
    rwa [List.length_map] at hfold
  have hshort := (trim_replaceAll_vendor_sublist inside).length_le
  refine ⟨name ++ (left ++ '=' :: (right ++ q :: (inside ++ [q]))), by simp, by simp, ?_, ?_⟩
  · simp [hlength]
    omega
  · intro hsame
    -- the texts are compared from the front: the name, the blank space, the quote
    have hsplit : "style".toList ++ '=' :: '"' ::
          (trim (replaceAll findVendorDeclaration inside) ++ ['"']) =
        name ++ (left ++ '=' :: (right ++ q :: (inside ++ [q]))) := by
      rw [← hsame]
      simp
    obtain ⟨hstyle, hbehind⟩ := List.append_inj hsplit (by rw [hlength]; rfl)
    have hleft : left = [] := by
      cases left with
      | nil => rfl
      | cons c cs =>
        rw [← (List.cons.inj hbehind).1] at hleft
        cases hleft
    subst hleft
    have hvalue := (List.cons.inj hbehind).2
    have hright : right = [] := by
      cases right with
      | nil => rfl
      | cons c cs =>
        rw [← (List.cons.inj hvalue).1] at hright
        cases hright
    subst hright
    obtain ⟨hquote, hshown⟩ := List.cons.inj hvalue
    subst hquote
    have hinside : trim (replaceAll findVendorDeclaration inside) = inside :=
      List.append_cancel_right hshown
    have htrim : trim inside = inside := by
      rw [← hinside, trim_trim]
    refine ⟨inside, ?_, hend, htrim, (trim_replaceAll_vendor_iff inside).1 ?_⟩
    · rw [← hstyle]
      simp
    · rw [hinside, htrim]

theorem length_replaceAllFrom_style_le (before : Option Char) (t : Text) :
    (replaceAllFrom findStyle before 0 t).length ≤ t.length := by
  refine length_replaceAllFrom_le (fun h => ?_) before t
  obtain ⟨old, hsplit, hne, hle, -⟩ := findStyle_cases h
  exact ⟨old, hsplit, hne, hle⟩

theorem IsStyle.edge (h : IsStyle before t) : before.any isWord = false := by
  obtain ⟨hedge, q, inside, rest, ⟨name, left, right, rfl, hname, -, -⟩, -, -⟩ := h
  obtain ⟨c, cs, rfl, hc, -⟩ := List.map_eq_cons_iff.1 hname
  have hword : isWord c = true := isWord_of_foldChar (by rw [hc]; decide)
  simpa [atWordEdge, hword] using hedge

/-- What is well written is written again as it is. -/
theorem findStyle_written {value : Text} (hedge : before.any isWord = false) (hend : '"' ∉ value)
    (htrim : trim value = value) (hvendor : ¬ HasVendorDeclaration value) (rest : Text) :
    findStyle before ("style=\"" ++ (value ++ '"' :: rest)) =
      some ("style=\"" ++ value ++ "\"", rest) := by
  have hassign : IsAssignment (IsWord "style") ("style=\"" ++ (value ++ '"' :: rest))
      ('"' :: (value ++ '"' :: rest)) := ⟨"style", [], [], rfl, rfl, rfl, rfl⟩
  have hword : atWordEdge before ("style=\"" ++ (value ++ '"' :: rest)) = true := by
    have hletter : isWord 's' = true := by decide
    simp [atWordEdge, hedge, hletter]
  refine findStyle_eq_some_iff.2 ⟨'"', value, hassign, Or.inl rfl, hend, hword, ?_⟩
  rw [(trim_replaceAll_vendor_iff value).2 hvendor, htrim]

/-- **Styles are left alone** if and only if they are written as the cleanup writes them. -/
theorem replaceAllFrom_style_eq_iff :
    replaceAllFrom findStyle before 0 t = t ↔ StylesWritten before t := by
  constructor
  · -- a match takes several characters at once, so the induction is on the length
    induction hk : t.length using Nat.strong_induction_on generalizing before t with
    | _ k ih =>
      intro hsame
      cases t with
      | nil => exact .nil
      | cons c cs =>
        rw [List.length_cons] at hk
        cases hfound : findStyle before (c :: cs) with
        | none =>
          rw [replaceAllFrom_of_none hfound] at hsame
          refine .char (fun hstyle => findStyle_ne_none_iff.2 hstyle hfound) ?_
          exact ih cs.length (by omega) rfl (List.cons.inj hsame).2
        | some found =>
          obtain ⟨new, rest⟩ := found
          have hstyle : IsStyle before (c :: cs) :=
            findStyle_ne_none_iff.1 (by rw [hfound]; exact Option.some_ne_none _)
          obtain ⟨old, hsplit, hne, hle, hwritten⟩ := findStyle_cases hfound
          obtain ⟨d, skipped, rfl⟩ := List.exists_cons_of_ne_nil hne
          obtain ⟨rfl, hcs⟩ : c = d ∧ cs = skipped ++ rest := List.cons.inj hsplit
          subst hcs
          obtain ⟨hnew, hbehind⟩ :=
            replaceAllFrom_match_eq length_replaceAllFrom_style_le hfound hle hsame
          obtain ⟨value, hold, hend, htrim, hvendor⟩ := hwritten hnew
          have hlast : (c :: skipped).getLast? = some '"' := by
            rw [hold, ← List.append_assoc, List.getLast?_concat]
          rw [hlast] at hbehind
          rw [← List.cons_append, hold, List.append_assoc, List.append_assoc]
          refine .style hstyle.edge hend htrim hvendor (ih rest.length ?_ rfl hbehind)
          rw [List.length_append] at hk
          omega
  · intro h
    induction h with
    | nil => rfl
    | char hnone ht ih =>
      rw [replaceAllFrom_of_none (not_not.1 fun h => hnone (findStyle_ne_none_iff.1 h)), ih]
    | @style before value t hedge hend htrim hvendor ht ih =>
      have hfound := findStyle_written hedge hend htrim hvendor t
      have hsplit : ("style=\"" ++ (value ++ '"' :: t) : Text) =
          's' :: ("tyle=\"" ++ value ++ ['"'] ++ t) := by
        simp
      rw [hsplit] at hfound ⊢
      rw [replaceAllFrom_match hfound, ← List.cons_append, List.getLast?_concat, ih]
      simp

/-! ## Texts that are left alone -/

/-- A rule that takes out what it finds leaves a text alone if there is nothing to be found. -/
theorem replaceAll_eq_self_iff {find : Finder} {isFound : Text → Prop}
    (hdrops : ∀ {before c t found}, find before (c :: t) = some found →
      found.1 = [] ∧ found.2 <:+ t)
    (hbefore : ∀ before before' t, find before t = find before' t)
    (hfound : ∀ {before t}, find before t ≠ none ↔ isFound t) (hnil : ¬ isFound []) :
    replaceAll find t = t ↔ ∀ u, u <:+ t → ¬ isFound u := by
  constructor
  · intro hsame u hu hspelled
    have hne : u ≠ [] := by
      rintro rfl
      exact hnil hspelled
    have hnone := find_eq_none_of_filter (p := fun _ => true)
      (fun h => ⟨rfl, hdrops h⟩) hbefore (congrArg _ hsame) none u hu hne
    exact hfound.2 hspelled hnone
  · intro hnone
    exact replaceAll_eq_of_none fun before u hu =>
      not_not.1 fun h => hnone u hu (hfound.1 h)

/-- There is blank space in front of an attribute. -/
theorem IsAttribute.ne_nil {isName : Text → Prop} {v : Text} (h : IsAttribute isName t v) :
    t ≠ [] := by
  obtain ⟨gap, u, rfl, hne, -⟩ := h
  exact fun hnil => hne (List.append_eq_nil_iff.1 hnil).1

/-- Without a bracket there are four passes that can find something. -/
theorem clean_eq_of_open_not_mem (hopen : '<' ∉ t) : clean t =
    replaceAll findOfficeClass (replaceAll findEmptyStyle
      (replaceAll findStyle (replaceAll findNamespace t))) := by
  have hsub : (replaceAll findNamespace t).Sublist t := replaceAll_sublist findNamespace_drops t
  have hopen' : '<' ∉ replaceAll findNamespace t := fun hmem => hopen (hsub.mem hmem)
  unfold clean
  simp only [List.foldl_cons, List.foldl_nil, findPrologue_needs.replaceAll_eq hopen,
    findConditional_needs.replaceAll_eq hopen', findRevealed_needs.replaceAll_eq hopen',
    findOfficeParagraph_needs.replaceAll_eq hopen']

/-- **Text without a bracket is left alone** if and only if nothing in it reads as an attribute that
is taken out, and its styles are written already. -/
theorem clean_eq_self_iff (hopen : '<' ∉ t) : clean t = t ↔
    (∀ u, u <:+ t → ¬ IsNamespace u ∧ ¬ IsBlankStyle u ∧ ¬ IsOfficeClass u) ∧
      StylesWritten none t := by
  have hnamespace : replaceAll findNamespace t = t ↔ ∀ u, u <:+ t → ¬ IsNamespace u :=
    replaceAll_eq_self_iff findNamespace_drops (fun _ _ _ => rfl) findNamespace_ne_none_iff
      fun ⟨_, _, h, _⟩ => h.ne_nil rfl
  have hblank : replaceAll findEmptyStyle t = t ↔ ∀ u, u <:+ t → ¬ IsBlankStyle u :=
    replaceAll_eq_self_iff findEmptyStyle_drops (fun _ _ _ => rfl) findEmptyStyle_ne_none_iff
      fun ⟨_, _, _, h, _⟩ => h.ne_nil rfl
  have hoffice : replaceAll findOfficeClass t = t ↔ ∀ u, u <:+ t → ¬ IsOfficeClass u :=
    replaceAll_eq_self_iff findOfficeClass_drops (fun _ _ _ => rfl) findOfficeClass_ne_none_iff
      fun ⟨_, h, _⟩ => h.ne_nil rfl
  have hstyle : replaceAll findStyle t = t ↔ StylesWritten none t := replaceAllFrom_style_eq_iff
  rw [clean_eq_of_open_not_mem hopen]
  constructor
  · intro hsame
    -- each pass gives a text that is no longer, and the last one is as long as the first
    have hchain : ∀ {n s e o : Text}, n.Sublist t → s.length ≤ n.length → e.Sublist s →
        o.Sublist e → o = t → n = t ∧ e = s ∧ o = e := by
      intro n s e o hn hs he ho hsame
      subst hsame
      have hle := hn.length_le
      have hle' := he.length_le
      have hle'' := ho.length_le
      exact ⟨hn.eq_of_length (by omega), he.eq_of_length (by omega), ho.eq_of_length (by omega)⟩
    have hsecond : ∀ u, (replaceAll findStyle u).length ≤ u.length :=
      length_replaceAllFrom_style_le none
    obtain ⟨hfirst, hthird, hfourth⟩ := hchain (replaceAll_sublist findNamespace_drops t)
      (hsecond _) (replaceAll_sublist findEmptyStyle_drops _)
      (replaceAll_sublist findOfficeClass_drops _) hsame
    rw [hfirst] at hthird hfourth hsame
    rw [hthird] at hfourth hsame
    rw [hfourth] at hsame
    rw [hsame] at hthird hfourth
    exact ⟨fun u hu => ⟨hnamespace.1 hfirst u hu, hblank.1 hthird u hu, hoffice.1 hfourth u hu⟩,
      hstyle.1 hsame⟩
  · rintro ⟨hnone, hwritten⟩
    rw [hnamespace.2 fun u hu => (hnone u hu).1, hstyle.2 hwritten,
      hblank.2 fun u hu => (hnone u hu).2.1, hoffice.2 fun u hu => (hnone u hu).2.2]

/-- Attributes that are written like this in running text stay there. -/
theorem clean_eq_self_iff_sample :
    '<' ∉ ("Use style=\"color:red\", class=\"MsoNormal x\" or xmlns:o" : Text) ∧
      (∀ u, u <:+ ("Use style=\"color:red\", class=\"MsoNormal x\" or xmlns:o" : Text) →
        ¬ IsNamespace u ∧ ¬ IsBlankStyle u ∧ ¬ IsOfficeClass u) ∧
      StylesWritten none "Use style=\"color:red\", class=\"MsoNormal x\" or xmlns:o" :=
  ⟨by decide, (clean_eq_self_iff (by decide)).1 (by decide +kernel)⟩

/-- Text that reads as an attribute is taken out, tag or no tag. -/
theorem clean_sentence : '<' ∉ ("Set class=MsoNormal here" : Text) ∧
    clean "Set class=MsoNormal here" = "Set here" ∧
    clean "Set class=MsoNormal here" ≠ "Set class=MsoNormal here" := by
  decide +kernel

end HtmlMarkdown.Email.Outlook
