import HtmlMarkdown.Text.Case

/-!
# Lower case and ASCII

ASCII text becomes lower case letter by letter (`lower_ascii`). Two characters beyond ASCII have an
ASCII letter in their lower-case form: the Kelvin sign, whose form is a k, and the capital I with
dot, whose form is an i with a combining dot behind it (`lowerChar_cases`). A word without a k that
does not end in an i therefore starts the lower-case form of a text if and only if the text starts
with that word in ASCII letters of either case (`isPrefix_lower_iff`).
-/

namespace HtmlMarkdown.Text

variable {c : Char} {t word : Text}

/-- A character of ASCII. -/
def isAscii (c : Char) : Bool := c.toNat < 128

theorem isAscii_iff : isAscii c = true ↔ c.toNat < 128 := decide_eq_true_iff

theorem lowerChar_ascii (h : isAscii c = true) : lowerChar c = [c.toLower] := by
  unfold lowerChar
  rw [if_pos (isAscii_iff.1 h)]

/-- The codes of letters and digits. -/
theorem code_of_isAlphanum (h : c.isAlphanum = true) :
    65 ≤ c.toNat ∧ c.toNat ≤ 90 ∨ 97 ≤ c.toNat ∧ c.toNat ≤ 122 ∨
      48 ≤ c.toNat ∧ c.toNat ≤ 57 := by
  rcases Bool.or_eq_true_iff.1 h with hletter | hdigit
  · rcases Bool.or_eq_true_iff.1 hletter with hupper | hlower
    · exact .inl (of_decide_eq_true hupper)
    · obtain ⟨hge, hle⟩ := Bool.and_eq_true_iff.1 hlower
      exact .inr (.inl ⟨of_decide_eq_true hge, of_decide_eq_true hle⟩)
  · obtain ⟨hge, hle⟩ := Bool.and_eq_true_iff.1 hdigit
    exact .inr (.inr ⟨of_decide_eq_true hge, of_decide_eq_true hle⟩)

/-- Letters and digits are of ASCII. -/
theorem isAscii_of_isAlphanum (h : c.isAlphanum = true) : isAscii c = true := by
  have hcode := code_of_isAlphanum h
  rw [isAscii_iff]
  omega

/-- A capital letter moves to a small one, and any other character stays. -/
theorem toLower_code (c : Char) : c.toLower = c ∧ ¬ (65 ≤ c.toNat ∧ c.toNat ≤ 90) ∨
    c.toLower.toNat = c.toNat + 32 ∧ 65 ≤ c.toNat ∧ c.toNat ≤ 90 := by
  by_cases hupper : c.val ≥ 'A'.val ∧ c.val ≤ 'Z'.val
  · have hcode : c.toLower.toNat = (c.val + ('a'.val - 'A'.val)).toNat := by
      unfold Char.toLower
      rw [dif_pos hupper]
      rfl
    rw [hcode]
    simp [UInt32.le_iff_toNat_le] at hupper ⊢
    omega
  · have hsame : c.toLower = c := by
      unfold Char.toLower
      rw [dif_neg hupper]
    simp only [ge_iff_le, UInt32.le_iff_toNat_le] at hupper
    exact .inl ⟨hsame, hupper⟩

theorem isAscii_toLower (h : isAscii c = true) : isAscii c.toLower = true := by
  rw [isAscii_iff] at h ⊢
  rcases toLower_code c with ⟨hsame, -⟩ | ⟨hcode, -, hle⟩
  · rwa [hsame]
  · omega

theorem toLower_toLower (c : Char) : c.toLower.toLower = c.toLower := by
  rcases toLower_code c with ⟨hsame, -⟩ | ⟨hcode, hge, -⟩
  · rw [hsame, hsame]
  · rcases toLower_code c.toLower with ⟨hsame, -⟩ | ⟨-, -, hle⟩
    · exact hsame
    · omega

/-- Beyond ASCII there are no two cases of a letter, as far as ASCII is concerned. -/
theorem toLower_of_not_isAscii (h : isAscii c = false) : c.toLower = c := by
  have hcode : ¬ c.toNat < 128 := fun hlt => by
    rw [isAscii_iff.2 hlt] at h
    cases h
  rcases toLower_code c with ⟨hsame, -⟩ | ⟨-, -, hle⟩
  · exact hsame
  · omega

/-- **Lower case of ASCII text** is a matter of its letters, one by one. -/
theorem lower_ascii (h : t.all isAscii = true) : lower t = t.map Char.toLower := by
  have key : ∀ {t : Text}, t.all isAscii = true →
      ∀ before, lowerFrom before t = t.map Char.toLower := by
    intro t
    induction t with
    | nil => intro _ _; rfl
    | cons c cs ih =>
      intro h before
      rw [List.all_cons, Bool.and_eq_true] at h
      have hsigma : c ≠ '\u03A3' := by
        rintro rfl
        exact absurd h.1 (by decide)
      rw [lowerFrom, if_neg hsigma, lowerChar_ascii h.1, ih h.2]
      rfl
  exact key h []

theorem lower_lower (h : t.all isAscii = true) : lower (lower t) = lower t := by
  have hlower : (t.map Char.toLower).all isAscii = true := by
    rw [List.all_map]
    exact List.all_eq_true.2 fun c hc => isAscii_toLower (List.all_eq_true.1 h c hc)
  rw [lower_ascii h, lower_ascii hlower, List.map_map]
  exact List.map_congr_left fun c _ => toLower_toLower c

/-! ## Beyond ASCII -/

/-- Every run of the case table leads to characters beyond ASCII, but for the Kelvin sign. -/
theorem lowerRuns_target : ∀ r ∈ lowerRuns, (r.first = 0x212A ∧ r.last = 0x212A ∧ r.target = 107) ∨
    (128 ≤ r.target ∧ (r.target + (r.last - r.first) < 0xD800 ∨
      0xE000 ≤ r.target ∧ r.target + (r.last - r.first) < 0x110000)) := by
  have hall : (lowerRuns.all fun r =>
      (r.first == 0x212A && r.last == 0x212A && r.target == 107) ||
        (Nat.ble 128 r.target && (Nat.blt (r.target + (r.last - r.first)) 0xD800 ||
          Nat.ble 0xE000 r.target &&
            Nat.blt (r.target + (r.last - r.first)) 0x110000))) = true := by
    decide +kernel
  intro r hr
  have h := List.all_eq_true.1 hall r hr
  simpa only [Bool.or_eq_true, Bool.and_eq_true, beq_iff_eq, Nat.ble_eq, Nat.blt_eq,
    and_assoc] using h

theorem isAscii_ofNat {n : Nat} (h : 128 ≤ n) (hvalid : n.isValidChar) :
    isAscii (Char.ofNat n) = false := by
  have hcode : (Char.ofNat n).toNat = n := by
    unfold Char.ofNat
    rw [dif_pos hvalid]
    rfl
  refine Bool.eq_false_iff.2 fun hascii => ?_
  rw [isAscii_iff, hcode] at hascii
  omega

/-- **The lower-case form of a character beyond ASCII** is of such characters too, but for the
Kelvin sign and the capital I with dot. -/
theorem lowerChar_cases (h : isAscii c = false) :
    lowerChar c = ['k'] ∨ lowerChar c = ['i', '\u0307'] ∨
      ∃ d, lowerChar c = [d] ∧ isAscii d = false := by
  have hcode : ¬ c.toNat < 128 := fun hlt => by
    rw [isAscii_iff.2 hlt] at h
    cases h
  unfold lowerChar
  rw [if_neg hcode]
  split
  · exact .inr (.inl rfl)
  · cases hfind : lowerRuns.find? (·.maps c.toNat) with
    | none => exact .inr (.inr ⟨c, rfl, h⟩)
    | some r =>
      have hmaps : r.first ≤ c.toNat ∧ c.toNat ≤ r.last := by
        have hfound := List.find?_some (p := fun r : CaseRun => r.maps c.toNat) hfind
        unfold CaseRun.maps at hfound
        simp only [Bool.and_eq_true, decide_eq_true_eq] at hfound
        exact hfound.1
      rcases lowerRuns_target r (List.mem_of_find?_eq_some hfind) with
        ⟨hfirst, hlast, htarget⟩ | ⟨hascii, hvalid⟩
      · have hzero : r.target + (c.toNat - r.first) = 107 := by omega
        refine .inl ?_
        simp only [hzero]
      · refine .inr (.inr ⟨_, rfl, isAscii_ofNat (by omega) ?_⟩)
        unfold Nat.isValidChar
        omega

/-! ## A word in front -/

/-- The characters of a word that is looked for in lower case: the k is left out, which the Kelvin
sign becomes. -/
def isSchemeChar (w : Char) : Bool := isAscii w && w != 'k'

theorem not_isPrefix_of_head {w d : Char} {ws u : Text} (h : w ≠ d) :
    ¬ isPrefix (w :: ws) (d :: u) = true := by
  rw [isPrefix, List.isPrefixOf_cons_cons, beq_eq_false_iff_ne.2 h, Bool.false_and]
  exact Bool.false_ne_true

/-- Beyond ASCII nothing becomes such a word. -/
theorem not_isPrefix_lowerFrom {w : Char} {ws before : Text}
    (hword : (w :: ws).all isSchemeChar = true) (hlast : (w :: ws).getLast? ≠ some 'i')
    (h : isAscii c = false) (t : Text) :
    ¬ isPrefix (w :: ws) (lowerFrom before (c :: t)) = true := by
  rw [List.all_cons, Bool.and_eq_true] at hword
  obtain ⟨hw, hws⟩ := hword
  obtain ⟨hascii, hk⟩ : isAscii w = true ∧ w ≠ 'k' := by simpa [isSchemeChar] using hw
  have hbeyond : ∀ {d : Char}, isAscii d = false → w ≠ d := by
    rintro d hd rfl
    rw [hascii] at hd
    cases hd
  rw [lowerFrom]
  split
  · refine not_isPrefix_of_head (hbeyond ?_)
    unfold lowerSigma
    split <;> decide
  · rcases lowerChar_cases h with hform | hform | ⟨d, hform, hd⟩
    · rw [hform]
      exact not_isPrefix_of_head hk
    · rw [hform]
      cases ws with
      | nil =>
        refine not_isPrefix_of_head ?_
        rintro rfl
        exact hlast rfl
      | cons v vs =>
        -- the i has its combining dot behind it
        have hv : isAscii v = true := by
          rw [List.all_cons, Bool.and_eq_true] at hws
          exact (Bool.and_eq_true_iff.1 hws.1).1
        have hdot : v ≠ '\u0307' := by
          rintro rfl
          cases hv
        have hrest : ¬ isPrefix (v :: vs) ('\u0307' :: lowerFrom (c :: before) t) = true :=
          not_isPrefix_of_head hdot
        rw [isPrefix] at hrest ⊢
        rw [List.cons_append, List.cons_append, List.nil_append, List.isPrefixOf_cons_cons,
          Bool.and_eq_true]
        exact fun hboth => hrest hboth.2
    · rw [hform]
      exact not_isPrefix_of_head (hbeyond hd)

/-- **A word at the start of the lower-case form** of a text stands at the start of the text in
ASCII letters of either case, if the word has no k and does not end in an i. -/
theorem isPrefix_lower_iff (hword : word.all isSchemeChar = true)
    (hlast : word.getLast? ≠ some 'i') :
    isPrefix word (lower t) = true ↔
      ∃ start rest, t = start ++ rest ∧ start.map Char.toLower = word := by
  have key : ∀ {word : Text}, word.all isSchemeChar = true → word.getLast? ≠ some 'i' →
      ∀ before t : Text, isPrefix word (lowerFrom before t) = true ↔
        ∃ start rest, t = start ++ rest ∧ start.map Char.toLower = word := by
    intro word
    induction word with
    | nil =>
      intro _ _ before t
      exact iff_of_true List.isPrefixOf_nil_left ⟨[], t, rfl, rfl⟩
    | cons w ws ih =>
      intro hword hlast before t
      cases t with
      | nil =>
        refine iff_of_false Bool.false_ne_true ?_
        rintro ⟨start, rest, hsplit, hstart⟩
        rw [(List.append_eq_nil_iff.1 hsplit.symm).1] at hstart
        cases hstart
      | cons c cs =>
        have hcons : (∃ start rest, c :: cs = start ++ rest ∧ start.map Char.toLower = w :: ws) ↔
            c.toLower = w ∧ ∃ start rest, cs = start ++ rest ∧ start.map Char.toLower = ws := by
          constructor
          · rintro ⟨start, rest, hsplit, hstart⟩
            obtain ⟨d, ds, rfl, hd, hds⟩ := List.map_eq_cons_iff.1 hstart
            obtain ⟨rfl, rfl⟩ := List.cons.inj hsplit
            exact ⟨hd, ds, rest, rfl, hds⟩
          · rintro ⟨rfl, start, rest, rfl, rfl⟩
            exact ⟨c :: start, rest, rfl, rfl⟩
        rw [hcons]
        cases hc : isAscii c with
        | true =>
          have hsigma : c ≠ '\u03A3' := by
            rintro rfl
            cases hc
          have hlast' : ws.getLast? ≠ some 'i' := by
            intro h
            rw [List.getLast?_cons, h] at hlast
            exact hlast rfl
          have hrest := ih (Bool.and_eq_true_iff.1 hword).2 hlast' (c :: before) cs
          rw [lowerFrom, if_neg hsigma, lowerChar_ascii hc, List.singleton_append, isPrefix,
            List.isPrefixOf_cons_cons, Bool.and_eq_true, beq_iff_eq, ← isPrefix, hrest,
            eq_comm (a := w)]
        | false =>
          refine iff_of_false (not_isPrefix_lowerFrom hword hlast hc cs) ?_
          rintro ⟨hcw, -⟩
          have hw := (Bool.and_eq_true_iff.1 (Bool.and_eq_true_iff.1 hword).1).1
          rw [← hcw, toLower_of_not_isAscii hc, hc] at hw
          cases hw
  exact key hword hlast [] t

end HtmlMarkdown.Text
