import HtmlMarkdown.Entity
import HtmlMarkdown.Proofs.Text.Scan
import Mathlib.Data.List.TakeWhile
import Mathlib.Data.Nat.Digits.Defs

/-!
# Character references

A reference is a run of digits or letters that a semicolon closes, so no ampersand stands in one
(`reference?_append`). A text is decoded from its start on, and the pieces of it that ampersands
begin are decoded by themselves.

* `decode_cons`, `decode_reference`, `decode_no_reference`: what decoding does at the start of a
  text.
* `decode_append_ampersand`: **decoding is local**.
* `number_eq_valueOf`: the digits of a numeral are read by their place.
* `decode_local_exact`: **a numeral stands for the character with its value**, and stays as it is
  where there is none.
-/

namespace HtmlMarkdown.Entity

open Text

variable {c d : Char} {t u run rest body digits : Text} {p : Char → Bool} {least most base n : Nat}

/-! ## Runs -/

theorem closedRun?_suffix (h : closedRun? p least most t = some (run, rest)) : rest <:+ t := by
  unfold closedRun? at h
  simp only at h
  split at h
  · rename_i heq
    split at h
    · cases h
      exact (List.suffix_cons ';' rest).trans (heq ▸ List.dropWhile_suffix p)
    · cases h
  · cases h

/-- A run that is closed is read, if it is neither too short nor too long. -/
theorem closedRun?_closed (hrun : ∀ c ∈ run, p c = true) (hclose : p ';' = false)
    (hleast : least ≤ run.length) (hmost : run.length ≤ most) :
    closedRun? p least most (run ++ ';' :: rest) = some (run, rest) := by
  have hhead : ∀ c, (';' :: rest).head? = some c → p c = false := by simpa using hclose
  have hall := List.all_eq_true.2 hrun
  unfold closedRun?
  rw [takeWhile_run hall hhead, dropWhile_run hall hhead]
  simp [hleast, hmost]

/-- An ampersand ends no run, so what is behind it is left. -/
theorem closedRun?_append (hamp : p '&' = false) (t u : Text) :
    closedRun? p least most (t ++ '&' :: u) =
      (closedRun? p least most t).map fun found => (found.1, found.2 ++ '&' :: u) := by
  have hhead : ∀ c, ('&' :: u).head? = some c → p c = false := by simpa using hamp
  unfold closedRun?
  rw [takeWhile_append_of_head hhead, dropWhile_append_of_head hhead]
  cases t.dropWhile p with
  | nil => rfl
  | cons c cs =>
    by_cases hc : c = ';'
    · subst hc
      simp only [List.cons_append]
      split <;> rfl
    · simp [hc]

/-- What a closed run means, and what is left behind it. -/
def readRun (p : Char → Bool) (most : Nat) (meaning : Text → Option Char) (t : Text) :
    Option (Char × Text) :=
  (closedRun? p 1 most t).bind fun found => (meaning found.1).map fun c => (c, found.2)

variable {meaning : Text → Option Char}

theorem readRun_suffix (h : readRun p most meaning t = some (c, rest)) : rest <:+ t := by
  obtain ⟨found, hfound, h⟩ := Option.bind_eq_some_iff.1 h
  obtain ⟨_, -, heq⟩ := Option.map_eq_some_iff.1 h
  cases heq
  exact closedRun?_suffix hfound

theorem readRun_append (hamp : p '&' = false) (t u : Text) :
    readRun p most meaning (t ++ '&' :: u) =
      (readRun p most meaning t).map fun found => (found.1, found.2 ++ '&' :: u) := by
  unfold readRun
  rw [closedRun?_append hamp]
  cases closedRun? p 1 most t with
  | none => rfl
  | some found =>
    rw [Option.map_some, Option.bind_some, Option.bind_some, Option.map_map]
    rfl

/-! ## Reading a reference -/

/-- The character with a name, given by its first character and the others. -/
def ofName? (c : Char) (name : Text) : Option Char :=
  (named.find? fun entry => entry.1.toList == c :: name).map (·.2)

/-- A numeral is read as a run of digits in its base. -/
theorem readRun_digits (base most : Nat) (p : Char → Bool) (t : Text) :
    (do
      let (digits, rest) ← closedRun? p 1 most t
      return (← ofCode? (number base digits), rest)) =
    readRun p most (fun digits => ofCode? (number base digits)) t := by
  unfold readRun
  cases closedRun? p 1 most t with
  | none => rfl
  | some found =>
    obtain ⟨digits, rest⟩ := found
    simp only [Option.bind_eq_bind, Option.bind_some]
    cases ofCode? (number base digits) <;> rfl

theorem reference?_hexadecimal (h : c = 'x' ∨ c = 'X') (t : Text) :
    reference? ('#' :: c :: t) =
      readRun isHexDigit 8 (fun digits => ofCode? (number 16 digits)) t := by
  rcases h with rfl | rfl <;> exact readRun_digits 16 8 isHexDigit t

theorem reference?_decimal (h : ∀ c, t.head? = some c → ¬ (c = 'x' ∨ c = 'X')) :
    reference? ('#' :: t) =
      readRun Char.isDigit 10 (fun digits => ofCode? (number 10 digits)) t := by
  rw [reference?]
  · exact readRun_digits 10 10 Char.isDigit t
  · rintro u rfl
    exact h 'x' rfl (Or.inl rfl)
  · rintro u rfl
    exact h 'X' rfl (Or.inr rfl)

theorem reference?_named (h : c ≠ '#') (t : Text) :
    reference? (c :: t) =
      if c.isAlpha then readRun Char.isAlphanum 31 (ofName? c) t else none := by
  rw [reference?]
  · unfold readRun ofName?
    cases hletter : c.isAlpha with
    | false => rfl
    | true =>
      cases closedRun? Char.isAlphanum 1 31 t with
      | none => rfl
      | some found =>
        obtain ⟨name, rest⟩ := found
        simp only [Option.bind_eq_bind, Option.bind_some]
        cases named.find? fun entry => entry.1.toList == c :: name <;> rfl
  · exact fun u hc _ => h hc
  · exact fun u hc _ => h hc
  · exact h

/-- **A reference is a run behind a sign**, and an ampersand further on does not change which. -/
theorem reference?_eq_readRun (t : Text) :
    (reference? t = none ∧ ∀ u, reference? (t ++ '&' :: u) = none) ∨
      ∃ sign run p most meaning, t = sign ++ run ∧ p '&' = false ∧
        reference? t = readRun p most meaning run ∧
        ∀ u, reference? (t ++ '&' :: u) = readRun p most meaning (run ++ '&' :: u) := by
  match t with
  | [] => exact Or.inl ⟨rfl, fun u => rfl⟩
  | c :: cs =>
    by_cases hc : c = '#'
    · subst hc
      -- the sign of a hexadecimal numeral has two characters, so what stands behind the `#` counts
      match cs with
      | [] =>
        exact Or.inr ⟨['#'], [], _, _, _, rfl, by decide, reference?_decimal (by simp),
          fun u => reference?_decimal (by simp)⟩
      | d :: ds =>
        by_cases hd : d = 'x' ∨ d = 'X'
        · exact Or.inr ⟨['#', d], ds, _, _, _, rfl, by decide, reference?_hexadecimal hd ds,
            fun u => reference?_hexadecimal hd _⟩
        · exact Or.inr ⟨['#'], d :: ds, _, _, _, rfl, by decide,
            reference?_decimal (by simpa using hd), fun u => reference?_decimal (by simpa using hd)⟩
    · have hnamed := reference?_named hc
      cases hletter : c.isAlpha with
      | false =>
        simp only [hletter, Bool.false_eq_true, if_false] at hnamed
        exact Or.inl ⟨hnamed cs, fun u => hnamed _⟩
      | true =>
        simp only [hletter, if_true] at hnamed
        exact Or.inr ⟨[c], cs, _, _, _, rfl, by decide, hnamed cs, fun u => hnamed _⟩

/-- An ampersand ends a reference, so a text has its references whatever stands behind that. -/
theorem reference?_append (t u : Text) :
    reference? (t ++ '&' :: u) =
      (reference? t).map fun found => (found.1, found.2 ++ '&' :: u) := by
  rcases reference?_eq_readRun t with ⟨hnone, hnone'⟩ | ⟨_, run, _, _, _, -, hamp, hread, hread'⟩
  · rw [hnone, hnone' u]
    rfl
  · rw [hread, hread' u, readRun_append hamp]

theorem reference?_suffix (h : reference? t = some (c, rest)) : rest <:+ t := by
  rcases reference?_eq_readRun t with ⟨hnone, -⟩ | ⟨sign, run, _, _, _, rfl, -, hread, -⟩
  · rw [hnone] at h
    cases h
  · rw [hread] at h
    exact (readRun_suffix h).trans (List.suffix_append sign run)

/-! ## Decoding, from left to right -/

@[simp] theorem decode_nil : decode [] = [] := rfl

/-- The place of a text does not matter. -/
theorem replaceAllFrom_findReference (before : Option Char) (t : Text) :
    replaceAllFrom findReference before 0 t = decode t := by
  have hfind : ∀ u, findReference before u = findReference none u := by
    intro u
    unfold findReference
    split <;> rfl
  unfold decode replaceAll
  cases t with
  | nil => rfl
  | cons c cs =>
    rw [replaceAllFrom, replaceAllFrom, hfind]

theorem decode_cons (h : c ≠ '&') (t : Text) : decode (c :: t) = c :: decode t := by
  have hfind : findReference none (c :: t) = none := by
    rw [findReference]
    simpa using h
  unfold decode replaceAll
  rw [replaceAllFrom_of_none hfind, replaceAllFrom_findReference]
  rfl

/-- **A reference is replaced**, and the text behind it is decoded by itself. -/
theorem decode_reference (h : reference? t = some (c, rest)) :
    decode ('&' :: t) = c :: decode rest := by
  obtain ⟨skipped, rfl⟩ := reference?_suffix h
  have hfind : findReference none ('&' :: (skipped ++ rest)) = some ([c], rest) := by
    rw [findReference, h]
    rfl
  obtain ⟨before, hdecode⟩ := replaceAllFrom_found hfind
  rw [replaceAllFrom_findReference, replaceAllFrom_findReference] at hdecode
  exact hdecode

/-- **An ampersand before anything else stays.** -/
theorem decode_no_reference (h : reference? t = none) : decode ('&' :: t) = '&' :: decode t := by
  have hfind : findReference none ('&' :: t) = none := by
    rw [findReference, h]
    rfl
  unfold decode replaceAll
  rw [replaceAllFrom_of_none hfind, replaceAllFrom_findReference]
  rfl

theorem decode_append_plain (h : '&' ∉ t) (u : Text) : decode (t ++ u) = t ++ decode u := by
  induction t with
  | nil => rfl
  | cons c cs ih =>
    rw [List.mem_cons, not_or] at h
    rw [List.cons_append, decode_cons (fun e => h.1 e.symm), ih h.2, List.cons_append]

/-- **Decoding is local**: what stands before an ampersand is decoded by itself. -/
theorem decode_append_ampersand (t u : Text) :
    decode (t ++ '&' :: u) = decode t ++ decode ('&' :: u) := by
  -- a reference takes several characters at once, so the induction is on the length
  induction hlen : t.length using Nat.strong_induction_on generalizing t with
  | _ k ih =>
    subst hlen
    match t with
    | [] => rfl
    | c :: cs =>
      by_cases hc : c = '&'
      · subst hc
        have hread := reference?_append cs u
        rw [List.cons_append]
        cases hfound : reference? cs with
        | none =>
          rw [hfound] at hread
          rw [decode_no_reference hread, decode_no_reference hfound, ih cs.length (by simp) cs rfl,
            List.cons_append]
        | some found =>
          obtain ⟨d, rest⟩ := found
          have hshort := (reference?_suffix hfound).length_le
          rw [hfound] at hread
          rw [decode_reference hread, decode_reference hfound,
            ih rest.length (by simp; omega) rest rfl, List.cons_append]
      · rw [List.cons_append, decode_cons hc, decode_cons hc, ih cs.length (by simp) cs rfl,
          List.cons_append]

/-! ## Numerals -/

/-- The digits by their value. -/
def hexDigits : Text := "0123456789abcdef"

/-- The value of digits in a base: the last one counts once, the others as often as their place
says. -/
def valueOf (base : Nat) (digits : Text) : Nat :=
  Nat.ofDigits base (digits.reverse.map fun d => hexDigits.idxOf d.toLower)

theorem isHexDigit_of_isDigit (h : c.isDigit = true) : isHexDigit c = true := by
  simp [isHexDigit, h]

theorem isHexDigit_lt (h : isHexDigit c = true) : c.toNat < 128 := by
  have hval : c.toNat = c.val.toNat := rfl
  have h9 : '9'.val.toNat = 57 := rfl
  have hf : 'f'.val.toNat = 102 := rfl
  have hF : 'F'.val.toNat = 70 := rfl
  simp only [isHexDigit, Char.isDigit, Bool.or_eq_true, Bool.and_eq_true, decide_eq_true_eq,
    Char.le_def, UInt32.le_iff_toNat_le, ge_iff_le] at h
  omega

theorem hexDigitValue_eq_idxOf (h : isHexDigit c = true) :
    hexDigitValue c = hexDigits.idxOf c.toLower := by
  have hall : ∀ n < 128, isHexDigit (Char.ofNat n) = true →
      hexDigitValue (Char.ofNat n) = hexDigits.idxOf (Char.ofNat n).toLower := by decide
  have hc := hall c.toNat (isHexDigit_lt h)
  rw [Char.ofNat_toNat] at hc
  exact hc h

/-- **The digits are read by their place.** -/
theorem number_eq_valueOf (h : ∀ d ∈ digits, isHexDigit d = true) :
    number base digits = valueOf base digits := by
  -- a number grows by its last digit
  induction digits using List.reverseRecOn with
  | nil => rfl
  | append_singleton digits d ih =>
    have hnumber : number base (digits ++ [d]) = base * number base digits + hexDigitValue d := by
      unfold number
      rw [List.foldl_append]
      rfl
    rw [hnumber, ih fun d hd => h d (List.mem_append_left _ hd),
      hexDigitValue_eq_idxOf (h d (by simp))]
    unfold valueOf
    rw [List.reverse_append, List.reverse_singleton, List.singleton_append, List.map_cons,
      Nat.ofDigits_cons, Nat.add_comm]

/-- The code of a character other than the zero: no surrogate, and not above the last character. -/
def IsCode (n : Nat) : Prop := 0 < n ∧ (n < 0xD800 ∨ 0xDFFF < n ∧ n ≤ 0x10FFFF)

theorem ofCode?_of_isCode (h : IsCode n) : ∃ c, c.toNat = n ∧ ofCode? n = some c := by
  obtain ⟨hpos, hrange⟩ := h
  have hvalid : n.isValidChar := by
    unfold Nat.isValidChar
    omega
  refine ⟨Char.ofNat n, ?_, if_pos ⟨by omega, hvalid⟩⟩
  rw [Char.ofNat, dif_pos hvalid]
  rfl

theorem ofCode?_of_not_isCode (h : ¬ IsCode n) : ofCode? n = none := by
  refine if_neg fun ⟨hne, hvalid⟩ => h ⟨by omega, ?_⟩
  unfold Nat.isValidChar at hvalid
  omega

/-- **A numeral and its value**: up to ten decimal digits, or up to eight hexadecimal ones behind
an `x`. -/
inductive Numeral : Text → Nat → Prop where
  | decimal {digits : Text} : (∀ d ∈ digits, d.isDigit = true) → 1 ≤ digits.length →
    digits.length ≤ 10 → Numeral digits (valueOf 10 digits)
  | hexadecimal {x : Char} {digits : Text} : x = 'x' ∨ x = 'X' →
    (∀ d ∈ digits, isHexDigit d = true) → 1 ≤ digits.length → digits.length ≤ 8 →
    Numeral (x :: digits) (valueOf 16 digits)

theorem reference?_numeral (h : Numeral body n) (rest : Text) :
    reference? ('#' :: (body ++ ';' :: rest)) = (ofCode? n).map fun c => (c, rest) := by
  cases h with
  | decimal hdigits hleast hmost =>
    -- it starts with a digit, so it is not read as a hexadecimal one
    have hhead : ∀ c, (body ++ ';' :: rest).head? = some c → ¬ (c = 'x' ∨ c = 'X') := by
      intro c hc hx
      rw [List.head?_append_of_ne_nil _ (List.ne_nil_of_length_pos hleast)] at hc
      have hdigit := hdigits c (List.mem_of_head? hc)
      rcases hx with rfl | rfl <;> cases hdigit
    rw [reference?_decimal hhead, readRun,
      closedRun?_closed hdigits (by decide) hleast hmost, Option.bind_some,
      number_eq_valueOf fun d hd => isHexDigit_of_isDigit (hdigits d hd)]
  | hexadecimal hx hdigits hleast hmost =>
    rw [List.cons_append, reference?_hexadecimal hx, readRun,
      closedRun?_closed hdigits (by decide) hleast hmost, Option.bind_some,
      number_eq_valueOf hdigits]

theorem Numeral.no_ampersand (h : Numeral body n) : '&' ∉ body := by
  intro hamp
  cases h with
  | decimal hdigits => cases hdigits '&' hamp
  | hexadecimal hx hdigits =>
    rcases List.mem_cons.1 hamp with rfl | hamp
    · rcases hx with hx | hx <;> cases hx
    · cases hdigits '&' hamp

/-- **Decoding is local, and exact on numerals.** What stands before an ampersand is decoded by
itself. A numeral is replaced by the character with its value, if there is one, and stays as it is
written otherwise. -/
theorem decode_local_exact :
    (∀ t u, decode (t ++ '&' :: u) = decode t ++ decode ('&' :: u)) ∧
    ∀ body n, Numeral body n → ∀ rest,
      (IsCode n → ∃ c : Char, c.toNat = n ∧
        decode ("&#".toList ++ body ++ ";".toList ++ rest) = c :: decode rest) ∧
      (¬ IsCode n → decode ("&#".toList ++ body ++ ";".toList ++ rest) =
        "&#".toList ++ body ++ ";".toList ++ decode rest) := by
  refine ⟨decode_append_ampersand, fun body n hbody rest => ?_⟩
  have hwritten : ∀ t : Text, "&#".toList ++ body ++ ";".toList ++ t =
      '&' :: ('#' :: (body ++ [';']) ++ t) := by
    intro t
    simp
  have hread : reference? ('#' :: (body ++ [';']) ++ rest) =
      (ofCode? n).map fun c => (c, rest) := by
    rw [← reference?_numeral hbody rest]
    simp
  rw [hwritten, hwritten]
  refine ⟨fun hcode => ?_, fun hcode => ?_⟩
  · obtain ⟨c, hc, hchar⟩ := ofCode?_of_isCode hcode
    rw [hchar] at hread
    exact ⟨c, hc, decode_reference hread⟩
  · -- the ampersand stays, and what is read next is behind the semicolon
    rw [ofCode?_of_not_isCode hcode] at hread
    have hplain : '&' ∉ '#' :: (body ++ [';']) := by
      simp [hbody.no_ampersand]
    rw [decode_no_reference hread, decode_append_plain hplain]

/-- A capital letter, and a surrogate that stays before a name. -/
theorem decode_local_exact_letter :
    Numeral "x41".toList 65 ∧ Numeral "x0d800".toList 0xD800 ∧ IsCode 65 ∧ ¬ IsCode 0xD800 ∧
      (∃ c : Char, c.toNat = 65 ∧ decode "&#x41;&lt;".toList = c :: "<".toList) ∧
      decode "&#x0d800;&lt;".toList = "&#x0d800;<".toList := by
  have hletter : Numeral "x41".toList 65 :=
    @Numeral.hexadecimal 'x' "41".toList (Or.inl rfl) (List.all_eq_true.1 rfl) (by decide)
      (by decide)
  have hsurrogate : Numeral "x0d800".toList 0xD800 :=
    @Numeral.hexadecimal 'x' "0d800".toList (Or.inl rfl) (List.all_eq_true.1 rfl) (by decide)
      (by decide)
  have hcode : IsCode 65 := ⟨by decide, by decide⟩
  have hnone : ¬ IsCode 0xD800 := by
    unfold IsCode
    omega
  exact ⟨hletter, hsurrogate, hcode, hnone,
    (decode_local_exact.2 _ _ hletter "&lt;".toList).1 hcode,
    (decode_local_exact.2 _ _ hsurrogate "&lt;".toList).2 hnone⟩

end HtmlMarkdown.Entity
