import HtmlMarkdown.Proofs.Email.Markup

/-!
# Vendor declarations

Some declarations of a style are made for Office programs or for WebKit only: their names start with
the mark of a vendor (`IsVendorDeclaration`). They are taken out of a style wherever one starts,
also in the midst of a name, and nothing else is.

* `trim_replaceAll_vendor_iff`: **when a style stays as it is.**
-/

namespace HtmlMarkdown.Email.Outlook

open Text

variable {before : Option Char} {found : Text × Text} {c : Char} {t u : Text}

/-- The mark of a vendor, in either case. -/
def IsVendor (mark : Text) : Prop :=
  mark.map foldChar = "mso-" ∨ mark.map foldChar = "-webkit-"

/-- **A vendor declaration**, at least its start: a name that goes on behind the mark of a vendor,
and a colon. -/
def IsVendorDeclaration (t : Text) : Prop :=
  ∃ mark name gap behind, t = mark ++ (name ++ (gap ++ ':' :: behind)) ∧ IsVendor mark ∧
    name ≠ [] ∧ name.all isNameChar = true ∧ isBlankText gap = true

/-- Does a vendor declaration start anywhere in the text? -/
def HasVendorDeclaration (t : Text) : Prop := ∃ u, u <:+ t ∧ IsVendorDeclaration u

/-! ## What is found -/

theorem findVendorDeclaration_eq (before : Option Char) (t : Text) :
    findVendorDeclaration before t =
      ((dropWord? "mso-" t).or (dropWord? "-webkit-" t)).bind fun u =>
        if u.head?.any isNameChar then
          (dropChar? ':' (trimStart (u.dropWhile isNameChar))).map fun v =>
            ([], (v.dropWhile (· != ';')).drop 1)
        else none := by
  refine congrArg ((dropWord? "mso-" t).or (dropWord? "-webkit-" t)).bind (funext fun u => ?_)
  change ((guard (u.head?.any isNameChar = true) : Option Unit).bind fun _ =>
    (dropChar? ':' (trimStart (u.dropWhile isNameChar))).bind fun v =>
      some ([], (v.dropWhile (· != ';')).drop 1)) = _
  cases u.head?.any isNameChar with
  | false => rfl
  | true => exact Option.map_eq_bind.symm

/-- What is found is nothing but a declaration: the mark of a vendor, the rest of a name, a colon,
and what is behind it up to a semicolon. -/
theorem findVendorDeclaration_eq_some (h : findVendorDeclaration before t = some found) :
    found.1 = [] ∧
      ∃ u v, (dropWord? "mso-" t = some u ∨ dropWord? "-webkit-" t = some u) ∧
        u.head?.any isNameChar = true ∧
        dropChar? ':' (trimStart (u.dropWhile isNameChar)) = some v ∧ found.2 <:+ v := by
  rw [findVendorDeclaration_eq] at h
  obtain ⟨u, hu, h⟩ := Option.bind_eq_some_iff.1 h
  split at h
  · rename_i hname
    obtain ⟨v, hv, rfl⟩ := Option.map_eq_some_iff.1 h
    refine ⟨rfl, u, v, (Option.or_eq_some_iff.1 hu).imp_right And.right, hname, hv, ?_⟩
    exact (List.drop_suffix _ _).trans (List.dropWhile_suffix _)
  · cases h

/-- **A declaration is taken out**, from its first character on, and that is visible. -/
theorem findVendorDeclaration_drops (h : findVendorDeclaration before (c :: t) = some found) :
    (!isBlank c) = true ∧ found.1 = [] ∧ found.2 <:+ t := by
  obtain ⟨hnew, u, v, hword, -, hv, hrest⟩ := findVendorDeclaration_eq_some h
  have hread : isBlank c = false ∧ u <:+ t := by
    rcases hword with hword | hword
    · obtain ⟨hfold, hu⟩ := foldChar_of_dropWord? hword
      refine ⟨Bool.eq_false_iff.2 fun hblank => ?_, hu⟩
      have hletter : isWord c = true := isWord_of_foldChar (by rw [hfold]; decide)
      rw [isWord_of_isBlank hblank] at hletter
      cases hletter
    · obtain ⟨hfold, hu⟩ := foldChar_of_dropWord? hword
      rw [eq_of_foldChar hfold (by decide)]
      exact ⟨by decide, hu⟩
  refine ⟨by rw [hread.1]; rfl, hnew, hrest.trans ((dropChar?_suffix hv).trans ?_)⟩
  exact (trimStart_suffix _).trans ((List.dropWhile_suffix _).trans hread.2)

/-- The mark of a vendor is read as itself, for no text starts with two of them. -/
theorem dropVendor?_eq_some_iff :
    (dropWord? "mso-" t).or (dropWord? "-webkit-" t) = some u ↔
      ∃ mark, IsVendor mark ∧ t = mark ++ u := by
  constructor
  · intro h
    rcases Option.or_eq_some_iff.1 h with h | ⟨-, h⟩
    · obtain ⟨mark, hfold, ht⟩ := dropWord?_eq_some_iff.1 h
      exact ⟨mark, Or.inl hfold, ht⟩
    · obtain ⟨mark, hfold, ht⟩ := dropWord?_eq_some_iff.1 h
      exact ⟨mark, Or.inr hfold, ht⟩
  · rintro ⟨mark, hoffice | hwebkit, rfl⟩
    · rw [dropWord?_eq_some_iff.2 ⟨mark, hoffice, rfl⟩]
      rfl
    · have hmark : mark.map foldChar = '-' :: "webkit-" := hwebkit
      obtain ⟨c, cs, rfl, hc, -⟩ := List.map_eq_cons_iff.1 hmark
      have hnone : dropWord? "mso-" (c :: cs ++ u) = none := by
        simp [dropWord?, hc]
      rw [hnone, Option.none_or, dropWord?_eq_some_iff.2 ⟨c :: cs, hwebkit, rfl⟩]

/-- **What is found are the vendor declarations.** -/
theorem findVendorDeclaration_ne_none_iff :
    findVendorDeclaration before t ≠ none ↔ IsVendorDeclaration t := by
  constructor
  · intro h
    obtain ⟨found, hfound⟩ := Option.ne_none_iff_exists'.1 h
    rw [findVendorDeclaration_eq] at hfound
    obtain ⟨u, hu, hbody⟩ := Option.bind_eq_some_iff.1 hfound
    obtain ⟨mark, hmark, rfl⟩ := dropVendor?_eq_some_iff.1 hu
    split at hbody
    · rename_i hname
      obtain ⟨v, hcolon, -⟩ := Option.map_eq_some_iff.1 hbody
      -- the name is taken as long as it goes, and so is the blank space behind it
      refine ⟨mark, u.takeWhile isNameChar, (u.dropWhile isNameChar).takeWhile isBlank, v, ?_,
        hmark, takeWhile_ne_nil hname, ?_, ?_⟩
      · have hgap : (u.dropWhile isNameChar).takeWhile isBlank ++ ':' :: v =
            u.dropWhile isNameChar := by
          rw [← dropChar?_eq_some_iff.1 hcolon]
          exact List.takeWhile_append_dropWhile
        rw [hgap, List.takeWhile_append_dropWhile]
      · exact List.all_takeWhile
      · exact List.all_takeWhile
    · cases hbody
  · rintro ⟨mark, name, gap, behind, rfl, hmark, hne, hname, hgap⟩
    have hhead : (name ++ (gap ++ ':' :: behind)).head?.any isNameChar = true := by
      obtain ⟨c, cs, rfl⟩ := List.exists_cons_of_ne_nil hne
      exact (Bool.and_eq_true_iff.1 hname).1
    have hends : (gap ++ ':' :: behind).dropWhile isNameChar = gap ++ ':' :: behind := by
      cases gap with
      | nil => exact List.dropWhile_cons_of_neg (by decide)
      | cons c cs =>
        have hc := (not_isNameChar (Or.inl (Bool.and_eq_true_iff.1 hgap).1)).1
        exact List.dropWhile_cons_of_neg (by rw [hc]; exact Bool.false_ne_true)
    have hrest : trimStart ((name ++ (gap ++ ':' :: behind)).dropWhile isNameChar) =
        ':' :: behind := by
      rw [List.dropWhile_append_of_pos fun c hc => List.all_eq_true.1 hname c hc, hends,
        trimStart_append_blank hgap]
      rfl
    rw [findVendorDeclaration_eq, dropVendor?_eq_some_iff.2 ⟨mark, hmark, rfl⟩,
      Option.bind_some, if_pos hhead, hrest, dropChar?_eq_some_iff.2 rfl]
    exact Option.some_ne_none _

instance (t : Text) : Decidable (HasVendorDeclaration t) :=
  decidable_of_iff (∃ u ∈ t.tails, findVendorDeclaration none u ≠ none) <| by
    simp only [List.mem_tails, findVendorDeclaration_ne_none_iff]
    rfl

/-! ## What is left of a style -/

theorem trim_replaceAll_vendor_sublist (t : Text) :
    (trim (replaceAll findVendorDeclaration t)).Sublist t :=
  (trim_sublist _).trans (replaceAll_sublist (fun hfind => (findVendorDeclaration_drops hfind).2) t)

/-- **Trimming aside, a style stays as it is** if and only if it has no vendor declaration. -/
theorem trim_replaceAll_vendor_iff (t : Text) :
    trim (replaceAll findVendorDeclaration t) = trim t ↔ ¬ HasVendorDeclaration t := by
  constructor
  · rintro hsame ⟨u, hu, hvendor⟩
    have hne : u ≠ [] := by
      rintro rfl
      obtain ⟨mark, name, gap, behind, hsplit, -⟩ := hvendor
      simp at hsplit
    have hvisible := congrArg visible hsame
    rw [visible_trim, visible_trim] at hvisible
    have hnone : findVendorDeclaration none u = none :=
      find_eq_none_of_filter findVendorDeclaration_drops (fun _ _ _ => rfl) hvisible none u hu hne
    exact findVendorDeclaration_ne_none_iff.2 hvendor hnone
  · intro hnone
    rw [replaceAll_eq_of_none fun before u hu => ?_]
    by_contra hfound
    exact hnone ⟨u, hu, findVendorDeclaration_ne_none_iff.1 hfound⟩

end HtmlMarkdown.Email.Outlook
