import HtmlMarkdown.Email.Outlook
import HtmlMarkdown.Entity
import HtmlMarkdown.Markdown.Layout
import HtmlMarkdown.Proofs.Text.Scan
import HtmlMarkdown.Proofs.Text.Word
import HtmlMarkdown.Service

/-!
# Texts without a match

A rule of replacement that finds nothing anywhere leaves a text alone (`replaceAll_eq_of_none`), and
where a rule that takes out what is visible leaves it alone, it has found nothing
(`find_eq_none_of_filter`). A rule that asks for a character finds nothing in a text that lacks it
(`Needs.replaceAll_eq`). What a rule has read is gone from the front of the text, so a character
that is found later on was there from the start (`Needs`).

* `findScriptOrStyle_needs`, `findReference_needs`, `findBlankLines_needs`: what the passes over a
  whole source ask for.
* `clean_eq`: **without an angle bracket and an equals sign there is no Office markup.**
-/

namespace HtmlMarkdown

namespace Text

variable {find : Finder} {c : Char} {t : Text}

/-- A rule that finds nothing from any place on leaves the text alone. -/
theorem replaceAll_eq_of_none (h : ∀ before u, u <:+ t → find before u = none) :
    replaceAll find t = t := by
  have hpass : Passes find t [] := by
    intro before u hu _
    rw [List.append_nil]
    exact h before u hu
  exact hpass.rewrites.replaceAll_eq

/-- **Nothing is found where nothing is lost**, as far as the characters of a kind are looked at, if
a rule takes out what it finds and that starts with a character of the kind. -/
theorem find_eq_none_of_filter {p : Char → Bool}
    (hdrops : ∀ {before c t found}, find before (c :: t) = some found →
      p c = true ∧ found.1 = [] ∧ found.2 <:+ t)
    (hbefore : ∀ before before' t, find before t = find before' t)
    (h : (replaceAll find t).filter p = t.filter p) :
    ∀ before u, u <:+ t → u ≠ [] → find before u = none := by
  have hcons : ∀ {c : Char} {t u : Text}, (c :: u).filter p = (c :: t).filter p →
      u.filter p = t.filter p := by
    intro c t u h
    cases hc : p c with
    | true => simpa [hc] using h
    | false => simpa [hc] using h
  -- a match makes the filtered text shorter, and what comes later cannot make up for it
  refine (replaceAllFrom_induction (motive := fun t u =>
    (u.filter p).length ≤ (t.filter p).length ∧
      (u.filter p = t.filter p → ∀ before v, v <:+ t → v ≠ [] → find before v = none))
    (fun hfind => (hdrops hfind).2.2) ?nil ?keep ?replace none t).2 h
  case nil =>
    exact ⟨le_rfl, fun _ before v hv hne => absurd (List.suffix_nil.1 hv) hne⟩
  case keep =>
    rintro before c t u hnone ⟨hle, hfinds⟩
    constructor
    · rw [List.filter_cons, List.filter_cons]
      split
      · exact Nat.succ_le_succ hle
      · exact hle
    · intro hsame before' v hv hne
      rcases List.suffix_cons_iff.1 hv with rfl | hv
      · rw [hbefore before' before, hnone]
      · exact hfinds (hcons hsame) before' v hv hne
  case replace =>
    rintro before c skipped new rest u hfind ⟨hle, -⟩
    obtain ⟨hc, hnew, -⟩ := hdrops hfind
    simp only at hnew
    subst hnew
    have hlt : (u.filter p).length < ((c :: (skipped ++ rest)).filter p).length := by
      rw [List.filter_cons_of_pos hc, List.filter_append, List.length_cons, List.length_append]
      omega
    rw [List.nil_append]
    exact ⟨hlt.le, fun hsame => absurd (congrArg List.length hsame) hlt.ne⟩

/-- The rule finds something only where the character comes later on. -/
def Needs (find : Finder) (needed : Char) : Prop :=
  ∀ {before : Option Char} {t : Text} {found : Text × Text},
    find before t = some found → needed ∈ t

/-- Nothing is found where the character does not come any more. -/
theorem Needs.passes {x rest : Text} (h : Needs find c) (hx : c ∉ x) (hrest : c ∉ rest) :
    Passes find x rest := by
  intro before u hu _
  cases hfound : find before (u ++ rest) with
  | none => rfl
  | some found =>
    rcases List.mem_append.1 (h hfound) with hmem | hmem
    · exact absurd (hu.mem hmem) hx
    · exact absurd hmem hrest

/-- **A text without the character stays as it is.** -/
theorem Needs.replaceAll_eq (h : Needs find c) (hc : c ∉ t) : replaceAll find t = t :=
  (h.passes hc List.not_mem_nil).rewrites.replaceAll_eq

end Text

/-! ## The passes over a source -/

namespace Email.Outlook

open Text

variable {c : Char} {t u : Text}

theorem dropBlanks?_suffix (h : dropBlanks? t = some u) : u <:+ t := by
  unfold dropBlanks? at h
  split at h
  · cases h
    exact trimStart_suffix t
  · cases h

theorem dropEquals?_suffix (h : dropEquals? t = some u) : u <:+ t := by
  unfold dropEquals? at h
  obtain ⟨v, hv, rfl⟩ := Option.map_eq_some_iff.1 h
  exact (trimStart_suffix v).trans ((dropChar?_suffix hv).trans (trimStart_suffix t))

theorem mem_of_dropEquals? (h : dropEquals? t = some u) : '=' ∈ t := by
  unfold dropEquals? at h
  obtain ⟨v, hv, -⟩ := Option.map_eq_some_iff.1 h
  exact (trimStart_suffix t).mem (mem_of_dropChar? hv)

theorem findPrologue_needs : Needs findPrologue '<' := by
  intro before t found h
  unfold findPrologue at h
  obtain ⟨u, hu, -⟩ := Option.bind_eq_some_iff.1 h
  exact mem_of_dropWord? (by decide) (by decide) hu

theorem findConditional_needs : Needs findConditional '<' := by
  intro before t found h
  unfold findConditional at h
  obtain ⟨u, hu, -⟩ := Option.bind_eq_some_iff.1 h
  exact mem_of_dropWord? (by decide) (by decide) hu

theorem findRevealed_needs : Needs findRevealed '<' := by
  intro before t found h
  unfold findRevealed at h
  obtain ⟨u, hu, -⟩ := Option.map_eq_some_iff.1 h
  rcases Option.or_eq_some_iff.1 hu with hu | ⟨-, hu⟩
  · obtain ⟨v, hv, -⟩ := Option.bind_eq_some_iff.1 hu
    exact mem_of_dropWord? (by decide) (by decide) hv
  · exact mem_of_dropWord? (by decide) (by decide) hu

theorem findOfficeParagraph_needs : Needs findOfficeParagraph '<' := by
  intro before t found h
  unfold findOfficeParagraph at h
  obtain ⟨u, hu, -⟩ := Option.bind_eq_some_iff.1 h
  exact mem_of_dropChar? hu

theorem findNamespace_needs : Needs findNamespace '=' := by
  intro before t found h
  unfold findNamespace at h
  obtain ⟨u, hu, h⟩ := Option.bind_eq_some_iff.1 h
  obtain ⟨v, hv, h⟩ := Option.bind_eq_some_iff.1 h
  obtain ⟨w, hw, -⟩ := Option.bind_eq_some_iff.1 h
  refine (dropBlanks?_suffix hu).mem ((dropWord?_suffix hv).mem ?_)
  have hmem := mem_of_dropEquals? hw
  -- the name between the colon and the equals sign may be left out
  split at hmem
  · split at hmem
    · exact List.mem_cons_of_mem _ (List.mem_cons_of_mem _ ((List.dropWhile_suffix _).mem hmem))
    · exact hmem
  · exact hmem

theorem findStyle_needs : Needs findStyle '=' := by
  intro before t found h
  unfold findStyle at h
  obtain ⟨-, -, h⟩ := Option.bind_eq_some_iff.1 h
  obtain ⟨u, hu, h⟩ := Option.bind_eq_some_iff.1 h
  obtain ⟨v, hv, -⟩ := Option.bind_eq_some_iff.1 h
  exact (dropWord?_suffix hu).mem (mem_of_dropEquals? hv)

theorem findEmptyStyle_needs : Needs findEmptyStyle '=' := by
  intro before t found h
  unfold findEmptyStyle at h
  obtain ⟨u, hu, h⟩ := Option.bind_eq_some_iff.1 h
  obtain ⟨v, hv, h⟩ := Option.bind_eq_some_iff.1 h
  obtain ⟨w, hw, -⟩ := Option.bind_eq_some_iff.1 h
  exact (dropBlanks?_suffix hu).mem ((dropWord?_suffix hv).mem (mem_of_dropEquals? hw))

theorem findOfficeClass_needs : Needs findOfficeClass '=' := by
  intro before t found h
  unfold findOfficeClass at h
  obtain ⟨u, hu, h⟩ := Option.bind_eq_some_iff.1 h
  obtain ⟨v, hv, h⟩ := Option.bind_eq_some_iff.1 h
  obtain ⟨w, hw, -⟩ := Option.bind_eq_some_iff.1 h
  exact (dropBlanks?_suffix hu).mem ((dropWord?_suffix hv).mem (mem_of_dropEquals? hw))

/-- **There is no Office markup** without an angle bracket and an equals sign. -/
theorem clean_eq (hopen : '<' ∉ t) (hequals : '=' ∉ t) : clean t = t := by
  unfold clean
  simp only [List.foldl_cons, List.foldl_nil, findPrologue_needs.replaceAll_eq hopen,
    findNamespace_needs.replaceAll_eq hequals, findConditional_needs.replaceAll_eq hopen,
    findRevealed_needs.replaceAll_eq hopen, findOfficeParagraph_needs.replaceAll_eq hopen,
    findStyle_needs.replaceAll_eq hequals, findEmptyStyle_needs.replaceAll_eq hequals,
    findOfficeClass_needs.replaceAll_eq hequals]

end Email.Outlook

theorem Entity.findReference_needs : Text.Needs findReference '&' := by
  intro before t found h
  unfold findReference at h
  split at h
  · exact List.mem_cons_self
  · cases h

theorem Service.findScriptOrStyle_needs : Text.Needs findScriptOrStyle '<' := by
  intro before t found h
  have helement : ∀ {name rest : Text}, dropElement? name t = some rest → '<' ∈ t := by
    intro name rest h
    unfold dropElement? at h
    obtain ⟨u, hu, -⟩ := Option.bind_eq_some_iff.1 h
    exact Text.mem_of_dropWord? (by decide) List.mem_cons_self hu
  unfold findScriptOrStyle at h
  obtain ⟨u, hu, -⟩ := Option.map_eq_some_iff.1 h
  rcases Option.or_eq_some_iff.1 hu with hu | ⟨-, hu⟩
  · exact helement hu
  · exact helement hu

theorem Markdown.findBlankLines_needs : Text.Needs findBlankLines '\n' := by
  intro before t found h
  unfold findBlankLines at h
  split at h
  · exact List.mem_cons_self
  · cases h

end HtmlMarkdown
