import HtmlMarkdown.Proofs.Text.Edges
import HtmlMarkdown.Proofs.Text.References
import HtmlMarkdown.Text.Class

/-!
# Encoded text

An encoded text has no brackets and no quotes, only references. It is decoded to what it was
(`decode_encode`), and until then it is read like the text itself by whatever stops at the special
characters: a run of characters (`dropWhile_encode`), a character (`dropChar?_encode`), a word of
letters (`dropWord?_encode`) and blank space (`encode_keepsBlank`).
-/

namespace HtmlMarkdown

namespace Entity

open Text

variable {c d : Char} {t ref : Text} {p : Char → Bool}

/-- The characters that are written as references. -/
def special : Text := ['&', '<', '>', '"', '\'']

/-- A character of a reference behind its ampersand: a visible one, and not special. -/
def isReferenceChar (c : Char) : Bool := !isBlank c && decide (c ∉ special)

theorem forall_special {P : Char → Prop} :
    (∀ c ∈ special, P c) ↔ P '&' ∧ P '<' ∧ P '>' ∧ P '"' ∧ P '\'' := by
  simp [special]

theorem isReferenceChar_of_mem (h : ref.all isReferenceChar = true) (hd : d ∈ ref) :
    isBlank d = false ∧ d ∉ special := by
  simpa [isReferenceChar] using List.all_eq_true.1 h d hd

theorem encode_cons (c : Char) (cs : Text) : encode (c :: cs) = encodeChar c ++ encode cs :=
  List.flatMap_cons

theorem encode_append (t u : Text) : encode (t ++ u) = encode t ++ encode u :=
  List.flatMap_append

theorem encodeChar_plain (h : c ∉ special) : encodeChar c = [c] := by
  simp only [special, List.mem_cons, List.not_mem_nil, or_false, not_or] at h
  obtain ⟨h₁, h₂, h₃, h₄, h₅⟩ := h
  unfold encodeChar
  split
  · exact absurd rfl h₁
  · exact absurd rfl h₂
  · exact absurd rfl h₃
  · exact absurd rfl h₄
  · exact absurd rfl h₅
  · rfl

/-- A special character is written as a reference: an ampersand, and what is read as the character
again. -/
theorem encodeChar_special (h : c ∈ special) : ∃ ref, encodeChar c = '&' :: ref ∧
    ref.all isReferenceChar = true ∧ ∀ u, reference? (ref ++ u) = some (c, u) := by
  simp only [special, List.mem_cons, List.not_mem_nil, or_false] at h
  rcases h with rfl | rfl | rfl | rfl | rfl
  · exact ⟨"amp;".toList, rfl, by decide, fun u => rfl⟩
  · exact ⟨"lt;".toList, rfl, by decide, fun u => rfl⟩
  · exact ⟨"gt;".toList, rfl, by decide, fun u => rfl⟩
  · exact ⟨"quot;".toList, rfl, by decide, fun u => rfl⟩
  · exact ⟨"#x27;".toList, rfl, by decide, fun u => rfl⟩

/-- **What is encoded is decoded in one pass**, whatever stands behind it. -/
theorem decode_encode_append (t u : Text) : decode (encode t ++ u) = t ++ decode u := by
  induction t with
  | nil => rfl
  | cons c cs ih =>
    rw [encode_cons, List.append_assoc, List.cons_append, ← ih]
    by_cases hc : c ∈ special
    · obtain ⟨ref, hchar, -, hread⟩ := encodeChar_special hc
      rw [hchar, List.cons_append, decode_reference (hread _)]
    · have hplain : c ≠ '&' := by
        rintro rfl
        exact hc (by decide)
      rw [encodeChar_plain hc, List.singleton_append, decode_cons hplain]

theorem decode_encode (t : Text) : decode (encode t) = t := by
  simpa using decode_encode_append t []

/-! ## Reading what is encoded -/

/-- **What is read up to the first special character** is read alike in the encoded text. -/
theorem dropWhile_encode (hp : ∀ c ∈ special, p c = false) (t : Text) :
    (encode t).dropWhile p = encode (t.dropWhile p) := by
  induction t with
  | nil => rfl
  | cons c cs ih =>
    rw [encode_cons]
    by_cases hc : c ∈ special
    · obtain ⟨ref, hchar, -, -⟩ := encodeChar_special hc
      rw [hchar, List.cons_append, List.dropWhile_cons, hp '&' (by decide), List.dropWhile_cons,
        hp c hc, if_neg Bool.false_ne_true, if_neg Bool.false_ne_true, encode_cons, hchar,
        List.cons_append]
    · rw [encodeChar_plain hc, List.singleton_append, List.dropWhile_cons, List.dropWhile_cons, ih]
      split
      · rfl
      · rw [encode_cons, encodeChar_plain hc, List.singleton_append]

theorem any_head?_encode (hp : ∀ c ∈ special, p c = false) (t : Text) :
    (encode t).head?.any p = t.head?.any p := by
  cases t with
  | nil => rfl
  | cons c cs =>
    rw [encode_cons]
    by_cases hc : c ∈ special
    · obtain ⟨ref, hchar, -, -⟩ := encodeChar_special hc
      rw [hchar]
      exact (hp '&' (by decide)).trans (hp c hc).symm
    · rw [encodeChar_plain hc]
      rfl

theorem dropChar?_encode (hc : c ∉ special) (t : Text) :
    dropChar? c (encode t) = (dropChar? c t).map encode := by
  cases t with
  | nil => rfl
  | cons d ds =>
    rw [encode_cons]
    by_cases hd : d ∈ special
    · obtain ⟨ref, hchar, -, -⟩ := encodeChar_special hd
      have hamp : '&' ≠ c := by
        rintro rfl
        exact hc (by decide)
      have hne : d ≠ c := by
        rintro rfl
        exact hc hd
      rw [hchar, List.cons_append, dropChar?, if_neg hamp, dropChar?, if_neg hne]
      rfl
    · rw [encodeChar_plain hd, List.singleton_append, dropChar?, dropChar?]
      split <;> rfl

/-- **A word of letters** is read alike, since no special character is one. -/
theorem dropWord?_encode : ∀ {word : Text}, word.all Char.isAlpha = true → ∀ t : Text,
    dropWord? word (encode t) = (dropWord? word t).map encode := by
  have hsign : ∀ c ∈ special, (foldChar c).isAlpha = false := forall_special.2 (by decide)
  intro word
  induction word with
  | nil => intro _ t; rfl
  | cons w ws ih =>
    intro hw t
    obtain ⟨hletter, hws⟩ := Bool.and_eq_true_iff.1 hw
    have hfold : ∀ c ∈ special, foldChar c ≠ w := by
      rintro c hc rfl
      exact Bool.false_ne_true ((hsign c hc).symm.trans hletter)
    cases t with
    | nil => rfl
    | cons c cs =>
      rw [encode_cons]
      by_cases hc : c ∈ special
      · obtain ⟨ref, hchar, -, -⟩ := encodeChar_special hc
        rw [hchar, List.cons_append, dropWord?, if_neg (hfold '&' (by decide)), dropWord?,
          if_neg (hfold c hc)]
        rfl
      · rw [encodeChar_plain hc, List.singleton_append, dropWord?, dropWord?]
        split
        · exact ih hws cs
        · rfl

/-! ## Blank space and brackets -/

/-- References are visible. -/
theorem encode_keepsBlank : KeepsBlank encodeChar where
  blank := by
    intro c hc
    refine encodeChar_plain fun hmem => ?_
    have hvisible : ∀ c ∈ special, isBlank c = false := forall_special.2 (by decide)
    rw [hvisible c hmem] at hc
    cases hc
  ne_nil := by
    intro c _
    by_cases hc : c ∈ special
    · obtain ⟨ref, hchar, -, -⟩ := encodeChar_special hc
      rw [hchar]
      exact List.cons_ne_nil _ _
    · rw [encodeChar_plain hc]
      exact List.cons_ne_nil _ _
  visible := by
    intro c hvisible d hd
    by_cases hc : c ∈ special
    · obtain ⟨ref, hchar, href, -⟩ := encodeChar_special hc
      rw [hchar] at hd
      rcases List.mem_cons.1 hd with rfl | hd
      · decide
      · exact (isReferenceChar_of_mem href hd).1
    · rw [encodeChar_plain hc, List.mem_singleton] at hd
      rwa [hd]

/-- **The ampersand is the only special character of an encoded text.** -/
theorem eq_ampersand_of_mem (hc : c ∈ special) (h : c ∈ encode t) : c = '&' := by
  obtain ⟨d, -, hd⟩ := List.mem_flatMap.1 h
  by_cases hspecial : d ∈ special
  · obtain ⟨ref, hchar, href, -⟩ := encodeChar_special hspecial
    rw [hchar] at hd
    rcases List.mem_cons.1 hd with rfl | hd
    · rfl
    · exact absurd hc (isReferenceChar_of_mem href hd).2
  · rw [encodeChar_plain hspecial, List.mem_singleton] at hd
    rw [hd] at hc
    exact absurd hc hspecial

/-- **Decoding undoes encoding**, also of a text that has references already. An encoded text has
no brackets and no quotes, and what stands behind it does not matter. -/
theorem encode_reads_back (t : Text) :
    decode (encode t) = t ∧
    ('<' ∉ encode t ∧ '>' ∉ encode t ∧ '"' ∉ encode t ∧ '\'' ∉ encode t) ∧
    ∀ u, decode (encode t ++ u) = t ++ decode u := by
  have hspecial : ∀ c ∈ special, c ≠ '&' → c ∉ encode t :=
    fun c hc hne hmem => hne (eq_ampersand_of_mem hc hmem)
  obtain ⟨-, hless, hgreater, hquote, happ⟩ := forall_special.1 hspecial
  exact ⟨decode_encode t, ⟨hless (by decide), hgreater (by decide), hquote (by decide),
    happ (by decide)⟩, decode_encode_append t⟩

/-- A reference and a bare ampersand. -/
example : encode "&lt; & b".toList = "&amp;lt; &amp; b".toList := by decide

theorem trimStart_encode (t : Text) : trimStart (encode t) = encode (trimStart t) :=
  encode_keepsBlank.trimStart t

end Entity

end HtmlMarkdown
