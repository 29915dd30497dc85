import HtmlMarkdown.Proofs.Text.Edges
import HtmlMarkdown.Text.Class

/-!
# Words in either case

A fixed word is read character by character, each by what it folds to, and it has ended before a
character that is none of its own (`dropWord?_append_of_head`). What folds to a letter is a word
character, so a word of letters has ended where a text goes on with something else
(`dropWord?_append`); and only one character folds to a sign, which therefore stands in the text
itself (`mem_of_dropWord?`).

* `dropWord?_eq_some_iff`: **a word that is read** stands at the start of the text.
-/

namespace HtmlMarkdown.Text

variable {c w : Char} {t u word rest : Text}

/-! ## Folding -/

/-- The lower-case form of a character is the character itself, or a letter. -/
theorem toLower_cases (c : Char) : c.toLower = c ∨ c.toLower.isAlpha = true := by
  by_cases hupper : c.val ≥ 'A'.val ∧ c.val ≤ 'Z'.val
  · have hlower : c.val + ('a'.val - 'A'.val) ≥ 'a'.val ∧
        c.val + ('a'.val - 'A'.val) ≤ 'z'.val := by
      simp [UInt32.le_iff_toNat_le] at hupper ⊢
      omega
    refine Or.inr (Bool.or_eq_true_iff.2 (Or.inr ?_))
    unfold Char.toLower
    rw [dif_pos hupper]
    exact Bool.and_eq_true_iff.2 ⟨decide_eq_true hlower.1, decide_eq_true hlower.2⟩
  · refine Or.inl ?_
    unfold Char.toLower
    rw [dif_neg hupper]

/-- Only one character folds to a character that is no letter. -/
theorem eq_of_foldChar (h : foldChar c = w) (hw : w.isAlpha = false) : c = w := by
  unfold foldChar at h
  split at h
  · rw [← h] at hw
    cases hw
  · split at h
    · rw [← h] at hw
      cases hw
    · rcases toLower_cases c with hsame | halpha
      · rw [← hsame, h]
      · rw [h, hw] at halpha
        cases halpha

/-- A character with a letter for its lower-case form folds to it. -/
theorem foldChar_of_toLower (h : c.toLower.isAlpha = true) : foldChar c = c.toLower := by
  have hsigns : 'ſ'.toLower.isAlpha = false ∧ '\u212A'.toLower.isAlpha = false := by decide
  unfold foldChar
  rw [if_neg, if_neg]
  · rintro rfl
    exact Bool.false_ne_true (hsigns.2.symm.trans h)
  · rintro rfl
    exact Bool.false_ne_true (hsigns.1.symm.trans h)

/-- **What folds to a letter** is a word character. -/
theorem isWord_of_foldChar (h : (foldChar c).isAlpha = true) : isWord c = true := by
  have hsigns : isWord 'ſ' = true ∧ isWord '\u212A' = true := by decide +kernel
  unfold foldChar at h
  split at h
  · rename_i hc
    rw [hc]
    exact hsigns.1
  · split at h
    · rename_i hc
      rw [hc]
      exact hsigns.2
    · have halpha : c.isAlpha = true := by
        unfold Char.toLower at h
        split at h
        · rename_i hupper
          refine Bool.or_eq_true_iff.2 (Or.inl ?_)
          unfold Char.isUpper
          simpa using hupper
        · exact h
      have hascii : c.toNat < 128 := by
        have hle : c.val.toNat ≤ 'z'.val.toNat := by
          unfold Char.isAlpha Char.isUpper Char.isLower at halpha
          simp [UInt32.le_iff_toNat_le] at halpha ⊢
          omega
        exact Nat.lt_of_le_of_lt hle (by decide)
      unfold isWord
      rw [if_pos hascii, Char.isAlphanum, halpha]
      rfl

/-- Blank characters are no word characters, and no digits either. -/
theorem not_isWord_of_isBlank (h : isBlank c = true) : isWord c = false ∧ isDigit c = false := by
  have hcodes : ∀ n ∈ [9, 10, 11, 12, 13, 0x20, 0x85, 0xA0, 0x1680, 0x2000, 0x2001, 0x2002, 0x2003,
      0x2004, 0x2005, 0x2006, 0x2007, 0x2008, 0x2009, 0x200A, 0x2028, 0x2029, 0x202F, 0x205F,
      0x3000], isWord (Char.ofNat n) = false ∧ isDigit (Char.ofNat n) = false := by
    decide +kernel
  rw [← Char.ofNat_toNat c]
  refine hcodes c.toNat ?_
  simp [isBlank] at h
  simp
  omega

theorem isWord_of_isBlank (h : isBlank c = true) : isWord c = false := (not_isWord_of_isBlank h).1

/-- Digits are word characters. -/
theorem isWord_of_isDigit (h : isDigit c = true) : isWord c = true := by
  have htables : (decimalDigits.all fun r =>
      wordRanges.any fun s => Nat.ble s.1 r.1 && Nat.ble r.2 s.2) = true := by
    decide +kernel
  unfold isDigit at h
  unfold isWord
  split at h
  · rename_i hascii
    rw [if_pos hascii, Char.isAlphanum, h, Bool.or_true, Bool.true_or]
  · rename_i hascii
    obtain ⟨r, hr, hc⟩ := List.any_eq_true.1 h
    obtain ⟨s, hs, hwithin⟩ := List.any_eq_true.1 (List.all_eq_true.1 htables r hr)
    rw [if_neg hascii]
    refine List.any_eq_true.2 ⟨s, hs, ?_⟩
    simp only [Bool.and_eq_true, decide_eq_true_eq, Nat.ble_eq] at hc hwithin ⊢
    omega

/-! ## A character -/

theorem dropChar?_eq_some_iff : dropChar? c t = some u ↔ t = c :: u := by
  cases t with
  | nil => exact iff_of_false nofun nofun
  | cons d ds =>
    rw [dropChar?, List.cons.injEq]
    split
    · rename_i hd
      rw [Option.some.injEq, and_iff_right hd]
    · rename_i hd
      exact iff_of_false nofun fun h => hd h.1

theorem mem_of_dropChar? (h : dropChar? c t = some u) : c ∈ t := by
  rw [dropChar?_eq_some_iff.1 h]
  exact List.mem_cons_self

theorem dropChar?_suffix (h : dropChar? c t = some u) : u <:+ t := by
  rw [dropChar?_eq_some_iff.1 h]
  exact List.suffix_cons c u

/-! ## A word -/

/-- **A word that is read** stands at the start, in either case. -/
theorem dropWord?_eq_some_iff : dropWord? word t = some u ↔
    ∃ written, written.map foldChar = word ∧ t = written ++ u := by
  induction word generalizing t with
  | nil =>
    constructor
    · intro h
      exact ⟨[], rfl, Option.some.inj h⟩
    · rintro ⟨written, hfold, rfl⟩
      rw [List.map_eq_nil_iff.1 hfold]
      rfl
  | cons w ws ih =>
    cases t with
    | nil =>
      refine iff_of_false nofun ?_
      rintro ⟨written, hfold, hnil⟩
      rw [(List.append_eq_nil_iff.1 hnil.symm).1] at hfold
      cases hfold
    | cons c cs =>
      rw [dropWord?]
      split
      · rename_i hc
        rw [ih]
        constructor
        · rintro ⟨written, rfl, rfl⟩
          exact ⟨c :: written, by rw [List.map_cons, hc], rfl⟩
        · rintro ⟨written, hfold, hsplit⟩
          obtain ⟨d, ds, rfl, -, hds⟩ := List.map_eq_cons_iff.1 hfold
          exact ⟨ds, hds, (List.cons.inj hsplit).2⟩
      · rename_i hc
        refine iff_of_false nofun ?_
        rintro ⟨written, hfold, hsplit⟩
        obtain ⟨d, ds, rfl, hd, -⟩ := List.map_eq_cons_iff.1 hfold
        rw [(List.cons.inj hsplit).1] at hc
        exact hc hd

theorem dropWord?_suffix (h : dropWord? word t = some u) : u <:+ t := by
  obtain ⟨written, -, rfl⟩ := dropWord?_eq_some_iff.1 h
  exact List.suffix_append written u

/-- The first character of a word is read first. -/
theorem foldChar_of_dropWord? (h : dropWord? (w :: word) (c :: t) = some u) :
    foldChar c = w ∧ u <:+ t := by
  rw [dropWord?] at h
  split at h
  · rename_i hfold
    exact ⟨hfold, dropWord?_suffix h⟩
  · cases h

/-- A sign of a word that is read stands in the text. -/
theorem mem_of_dropWord? (hw : w.isAlpha = false) (hmem : w ∈ word)
    (h : dropWord? word t = some u) : w ∈ t := by
  obtain ⟨written, rfl, rfl⟩ := dropWord?_eq_some_iff.1 h
  obtain ⟨c, hc, hfold⟩ := List.mem_map.1 hmem
  rw [← eq_of_foldChar hfold hw]
  exact List.mem_append_left u hc

/-- A word is read in its own letters, in either case. -/
theorem dropWord?_of_toLower (rest : Text) (h : t.map Char.toLower = word)
    (hword : word.all Char.isAlpha = true) : dropWord? word (t ++ rest) = some rest := by
  refine dropWord?_eq_some_iff.2 ⟨t, ?_, rfl⟩
  rw [← h]
  refine List.map_congr_left fun c hc => foldChar_of_toLower ?_
  refine List.all_eq_true.1 hword _ ?_
  rw [← h]
  exact List.mem_map_of_mem hc

/-- Does no word character start the text? -/
def EndsWord (t : Text) : Prop := ∀ c, t.head? = some c → isWord c = false

theorem endsWord_cons (h : isWord c = false) (t : Text) : EndsWord (c :: t) := by
  intro d hd
  rwa [← Option.some.inj hd]

/-- **A word ends** before a character that is none of its own. -/
theorem dropWord?_append_of_head : ∀ {word : Text}, (∀ c, rest.head? = some c → foldChar c ∉ word) →
    ∀ t, dropWord? word (t ++ rest) = (dropWord? word t).map (· ++ rest) := by
  intro word
  induction word with
  | nil => intro _ t; rfl
  | cons w ws ih =>
    intro hrest t
    cases t with
    | nil =>
      cases rest with
      | nil => rfl
      | cons c cs =>
        have hne : foldChar c ≠ w := by
          rintro rfl
          exact hrest c rfl List.mem_cons_self
        rw [List.nil_append, dropWord?, if_neg hne]
        rfl
    | cons c cs =>
      have hrest' : ∀ c, rest.head? = some c → foldChar c ∉ ws :=
        fun c hc hmem => hrest c hc (List.mem_cons_of_mem w hmem)
      rw [List.cons_append, dropWord?, dropWord?, ih hrest' cs]
      split <;> rfl

/-- A word of letters ends before what follows it, if this is no letter. -/
theorem dropWord?_append (hrest : EndsWord rest) (hword : word.all Char.isAlpha = true) (t : Text) :
    dropWord? word (t ++ rest) = (dropWord? word t).map (· ++ rest) := by
  refine dropWord?_append_of_head (fun c hc hmem => ?_) t
  have hletter := isWord_of_foldChar (List.all_eq_true.1 hword _ hmem)
  rw [hrest c hc] at hletter
  cases hletter

/-- A word is read one part after the other. -/
theorem dropWord?_append_word (ws word t : Text) :
    dropWord? (ws ++ word) t = (dropWord? ws t).bind (dropWord? word) := by
  induction ws generalizing t with
  | nil => rfl
  | cons w ws ih =>
    cases t with
    | nil => rfl
    | cons c cs =>
      rw [List.cons_append, dropWord?, dropWord?, ih]
      split <;> rfl

/-- A word is not read where no letter is. -/
theorem dropWord?_endsWord (hword : word.all Char.isAlpha = true) (hne : word ≠ [])
    (h : EndsWord t) : dropWord? word t = none := by
  have happend := dropWord?_append h hword []
  cases word with
  | nil => exact absurd rfl hne
  | cons w ws => exact happend

end HtmlMarkdown.Text
