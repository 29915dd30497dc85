import HtmlMarkdown.Proofs.Text.Edges
import HtmlMarkdown.Proofs.Text.LowerCase
import HtmlMarkdown.Selector

/-!
# What a selector looks like

The language of selectors, apart from its reader: a tag, a test in brackets, or a tag and right
behind it a test (`IsBody`), with blank space around the whole (`Written`) and around each part of
the test. The reader takes the tag, the name and a bare value as far as they go, so nothing that may
follow one of them may go on with it: that is why there is one way to read a text at most.

* `readTest?_eq_some_iff`, `readBrackets?_eq_some_iff`: what each part of the reader accepts.
* `parse?_eq_some_iff`: **the reader accepts what is written so**, and nothing else.
-/

namespace HtmlMarkdown.Selector

open Text

variable {c q : Char} {t u v w rest : Text} {name : String} {tag : Option String}
  {p : AttributeTest} {s : Selector}

/-! ## The grammar -/

/-- **A tag as it is written**, and the tag that is asked for: that name in lower case, or any for
a star. -/
inductive IsTag : Text → Option String → Prop
  | star : IsTag ['*'] none
  | named {c : Char} {cs : Text} : c.isAlpha = true → cs.all Char.isAlphanum = true →
      IsTag (c :: cs) (some (lowerName (String.ofList (c :: cs))))

/-- **The name of an attribute** as it is written. -/
inductive IsName : Text → Prop
  | intro {c : Char} {cs : Text} : startsName c = true → cs.all continuesName = true →
      IsName (c :: cs)

/-- **A value as it is written**, and the value itself: in quotes of either kind, which do not come
in it, or bare. -/
inductive IsValue : Text → Text → Prop
  | quoted {q : Char} {v : Text} : q = '"' ∨ q = '\'' → q ∉ v → IsValue (q :: (v ++ [q])) v
  | bare {v : Text} : v ≠ [] → v.all isBare = true → IsValue v v

/-- What a value is asked for. -/
inductive Comparison where
  | equals
  | includes

/-- The sign of a comparison. -/
def Comparison.sign : Comparison → Text
  | equals => "="
  | includes => "*="

/-- The test that a comparison makes. -/
def Comparison.test : Comparison → String → Text → AttributeTest
  | equals => .equals
  | includes => .includes

/-- **What is asked of an attribute**, behind its name and up to the closing bracket. -/
inductive IsDemand (name : String) : Text → AttributeTest → Prop
  | present {a : Text} : isBlankText a = true → IsDemand name (a ++ [']']) (.present name)
  | compared (k : Comparison) {a b d w v : Text} : isBlankText a = true → isBlankText b = true →
      IsValue w v → isBlankText d = true →
        IsDemand name (a ++ (k.sign ++ (b ++ (w ++ (d ++ [']']))))) (k.test name v)

/-- **A test as it is written.** The name counts in lower case. -/
inductive IsTest : Text → AttributeTest → Prop
  | intro {a n u : Text} {p : AttributeTest} : isBlankText a = true → IsName n →
      IsDemand (lowerName (String.ofList n)) u p → IsTest ('[' :: (a ++ (n ++ u))) p

/-- **A tag, a test, or both**, with nothing between them. -/
inductive IsBody : Text → Selector → Prop
  | tag {w : Text} {tag : Option String} : IsTag w tag → IsBody w ⟨tag, none⟩
  | test {u : Text} {p : AttributeTest} : IsTest u p → IsBody u ⟨none, some p⟩
  | both {w u : Text} {tag : Option String} {p : AttributeTest} : IsTag w tag → IsTest u p →
      IsBody (w ++ u) ⟨tag, some p⟩

/-- **A selector as it is written.** -/
def Written (t : Text) (s : Selector) : Prop :=
  ∃ a body b, t = a ++ (body ++ b) ∧ isBlankText a = true ∧ isBlankText b = true ∧ IsBody body s

/-! ## Letters, names and blank space -/

theorem isAlphanum_of_isAlpha (h : c.isAlpha = true) : c.isAlphanum = true :=
  Bool.or_eq_true_iff.2 (.inl h)

theorem continuesName_of_isAlpha (h : c.isAlpha = true) : continuesName c = true :=
  Bool.or_eq_true_iff.2 (.inl (isAlphanum_of_isAlpha h))

theorem startsName_of_isAlpha (h : c.isAlpha = true) : startsName c = true :=
  Bool.or_eq_true_iff.2 (.inl (Bool.or_eq_true_iff.2 (.inl h)))

theorem continuesName_of_startsName (h : startsName c = true) : continuesName c = true := by
  rcases Bool.or_eq_true_iff.1 h with h | h
  · rcases Bool.or_eq_true_iff.1 h with h | h
    · exact continuesName_of_isAlpha h
    · rw [eq_of_beq h]
      rfl
  · rw [eq_of_beq h]
    rfl

/-- Letters and digits are visible. -/
theorem not_isBlank_of_isAlphanum (h : c.isAlphanum = true) : isBlank c = false := by
  refine Bool.eq_false_iff.2 fun hblank => ?_
  have hcode := code_of_isAlphanum h
  unfold isBlank at hblank
  simp only [Bool.or_eq_true, Bool.and_eq_true, decide_eq_true_eq, beq_iff_eq] at hblank
  omega

/-- What holds of letters, digits and the four signs holds of what goes on with a name. -/
theorem of_continuesName {q : Char → Bool} (halnum : ∀ c, c.isAlphanum = true → q c = true)
    (hsigns : ['-', '_', ':', '.'].all q = true) (h : continuesName c = true) : q c = true := by
  rcases Bool.or_eq_true_iff.1 h with hc | hsign
  · exact halnum c hc
  · exact List.all_eq_true.1 hsigns c (List.contains_iff_mem.1 hsign)

theorem not_isBlank_of_continuesName (h : continuesName c = true) : isBlank c = false := by
  have hvisible : (!isBlank c) = true := by
    refine of_continuesName (q := fun c => !isBlank c) (fun c hc => ?_) (by decide) h
    rw [not_isBlank_of_isAlphanum hc]
    rfl
  simpa using hvisible

theorem not_isBlank_of_isBare (h : isBare c = true) : isBlank c = false := by
  simp only [isBare, Bool.and_eq_true, Bool.not_eq_true'] at h
  exact h.1.1.2

/-! ## What may follow what -/

theorem head_blank {p : Char → Bool} (hp : ∀ c, p c = true → isBlank c = false)
    (ht : isBlankText t = true) (hu : ∀ c, u.head? = some c → p c = false) :
    ∀ c, (t ++ u).head? = some c → p c = false := by
  cases t with
  | nil => exact hu
  | cons d ds =>
    intro c hc
    have hblank : isBlank c = true := by
      rw [← Option.some.inj hc]
      exact (Bool.and_eq_true_iff.1 ht).1
    refine Bool.eq_false_iff.2 fun hpc => ?_
    rw [hp c hpc] at hblank
    cases hblank

/-! ## Reading a value -/

theorem readValue?_split (h : readValue? t = some (v, rest)) :
    ∃ w, t = w ++ rest ∧ IsValue w v := by
  unfold readValue? at h
  split at h
  · split at h
    · rename_i hdrop
      obtain ⟨rfl, u, hu, rfl⟩ := eq_append_of_dropWhile_ne hdrop
      rw [takeWhile_ne_append hu] at h
      cases h
      exact ⟨'"' :: (v ++ ['"']), by simp, .quoted (.inl rfl) hu⟩
    · cases h
  · split at h
    · rename_i hdrop
      obtain ⟨rfl, u, hu, rfl⟩ := eq_append_of_dropWhile_ne hdrop
      rw [takeWhile_ne_append hu] at h
      cases h
      exact ⟨'\'' :: (v ++ ['\'']), by simp, .quoted (.inr rfl) hu⟩
    · cases h
  · split at h
    · cases h
    · rename_i hne
      cases h
      exact ⟨t.takeWhile isBare, List.takeWhile_append_dropWhile.symm,
        .bare hne List.all_takeWhile⟩

/-- A value is read whole if what follows it is nothing that a bare one could go on with. -/
theorem readValue?_append (h : IsValue w v) (hrest : ∀ c, rest.head? = some c → isBare c = false) :
    readValue? (w ++ rest) = some (v, rest) := by
  cases h with
  | quoted hq hv =>
    rcases hq with rfl | rfl
    · simp [readValue?, takeWhile_ne_append hv, dropWhile_ne_append hv]
    · simp [readValue?, takeWhile_ne_append hv, dropWhile_ne_append hv]
  | bare hne hbare =>
    have htake := takeWhile_run hbare hrest
    have hdrop := dropWhile_run hbare hrest
    obtain ⟨c, cs, rfl⟩ := List.exists_cons_of_ne_nil hne
    have hc : isBare c = true := (Bool.and_eq_true_iff.1 hbare).1
    rw [List.cons_append] at htake hdrop ⊢
    unfold readValue?
    split
    · rename_i hquote
      rw [(List.cons.inj hquote).1] at hc
      cases hc
    · rename_i hquote
      rw [(List.cons.inj hquote).1] at hc
      cases hc
    · rw [htake, hdrop]

/-! ## Reading a test -/

/-- What is left behind a closing bracket, with blank space before it. -/
def closed? (t : Text) : Option Text :=
  match trimStart t with
  | ']' :: rest => some rest
  | _ => none

theorem closed?_eq_some_iff :
    closed? t = some rest ↔ ∃ gap, isBlankText gap = true ∧ t = gap ++ ']' :: rest := by
  constructor
  · intro h
    unfold closed? at h
    split at h
    · rename_i hclose
      cases h
      obtain ⟨gap, hgap, hsplit⟩ := exists_trimStart t
      exact ⟨gap, hgap, by rw [← hclose, ← hsplit]⟩
    · cases h
  · rintro ⟨gap, hgap, rfl⟩
    unfold closed?
    have hclose : trimStart (gap ++ ']' :: rest) = ']' :: rest :=
      trimStart_append_of_not_starts hgap rfl
    rw [hclose]
    rfl

/-- The value that stands behind a sign, and what is left behind the closing bracket. -/
def operand? (t : Text) : Option (Text × Text) :=
  (readValue? (trimStart t)).bind fun r => (closed? r.2).map fun rest => (r.1, rest)

theorem IsValue.startsBlank (h : IsValue w v) (u : Text) : startsBlank (w ++ u) = false := by
  cases h with
  | quoted hq hv => rcases hq with rfl | rfl <;> rfl
  | bare hne hbare =>
    obtain ⟨c, cs, rfl⟩ := List.exists_cons_of_ne_nil hne
    exact not_isBlank_of_isBare (Bool.and_eq_true_iff.1 hbare).1

theorem operand?_eq_some_iff : operand? t = some (v, rest) ↔
    ∃ b w d, t = b ++ (w ++ (d ++ ']' :: rest)) ∧ isBlankText b = true ∧ IsValue w v ∧
      isBlankText d = true := by
  constructor
  · intro h
    obtain ⟨⟨v', u⟩, hvalue, hclose⟩ := Option.bind_eq_some_iff.1 h
    obtain ⟨rest', hclose, heq⟩ := Option.map_eq_some_iff.1 hclose
    cases heq
    obtain ⟨d, hd, hu⟩ := closed?_eq_some_iff.1 hclose
    obtain ⟨w, hw, hform⟩ := readValue?_split hvalue
    obtain ⟨b, hb, ht⟩ := exists_trimStart t
    simp only at hu
    rw [hu] at hw
    exact ⟨b, w, d, by rw [← hw, ← ht], hb, hform, hd⟩
  · rintro ⟨b, w, d, rfl, hb, hform, hd⟩
    have hstop : ∀ c, (d ++ ']' :: rest).head? = some c → isBare c = false :=
      head_blank (fun _ => not_isBlank_of_isBare) hd fun c hc => by
        rw [← Option.some.inj hc]
        rfl
    unfold operand?
    rw [trimStart_append_of_not_starts hb (hform.startsBlank _), readValue?_append hform hstop,
      Option.bind_some, closed?_eq_some_iff.2 ⟨d, hd, rfl⟩]
    rfl

theorem bind_readValue? (f : Text → AttributeTest) (u : Text) :
    ((readValue? (trimStart u)).bind fun r =>
      match trimStart r.2 with
      | ']' :: rest => some (f r.1, rest)
      | _ => none) = (operand? u).map fun r => (f r.1, r.2) := by
  unfold operand?
  cases readValue? (trimStart u) with
  | none => rfl
  | some r =>
    simp only [Option.bind_some, closed?, Option.map_map]
    split <;> rfl

/-- A test is a bracket at once, or a sign with a value behind it. -/
theorem readTest?_cases : readTest? name t = some (p, rest) ↔
    (trimStart t = ']' :: rest ∧ p = .present name) ∨
      ∃ (k : Comparison) (u v : Text), trimStart t = k.sign ++ u ∧ operand? u = some (v, rest) ∧
        p = k.test name v := by
  have hoperand : ∀ {f : Text → AttributeTest} {u : Text},
      (operand? u).map (fun r => (f r.1, r.2)) = some (p, rest) ↔
        ∃ v, operand? u = some (v, rest) ∧ p = f v := by
    intro f u
    rw [Option.map_eq_some_iff]
    constructor
    · rintro ⟨⟨v, rest'⟩, hread, heq⟩
      cases heq
      exact ⟨v, hread, rfl⟩
    · rintro ⟨v, hread, rfl⟩
      exact ⟨_, hread, rfl⟩
  constructor
  · intro h
    unfold readTest? at h
    split at h
    · rename_i hclose
      cases h
      exact .inl ⟨hclose, rfl⟩
    · rename_i u hsign
      obtain ⟨v, hread, hp⟩ := hoperand.1 ((bind_readValue? (.equals name) u).symm.trans h)
      exact .inr ⟨.equals, u, v, hsign, hread, hp⟩
    · rename_i u hsign
      obtain ⟨v, hread, hp⟩ := hoperand.1 ((bind_readValue? (.includes name) u).symm.trans h)
      exact .inr ⟨.includes, u, v, hsign, hread, hp⟩
    · cases h
  · rintro (⟨hclose, rfl⟩ | ⟨k, u, v, hsign, hread, rfl⟩)
    · unfold readTest?
      rw [hclose]
      rfl
    · -- one branch of the reader for each sign, and both go on alike
      unfold readTest?
      cases k with
      | equals =>
        have hsign' : trimStart t = '=' :: u := hsign
        rw [hsign']
        exact (bind_readValue? (.equals name) u).trans (hoperand.2 ⟨v, hread, rfl⟩)
      | includes =>
        have hsign' : trimStart t = '*' :: '=' :: u := hsign
        rw [hsign']
        exact (bind_readValue? (.includes name) u).trans (hoperand.2 ⟨v, hread, rfl⟩)

/-- **What is asked of an attribute** is read up to its bracket. -/
theorem readTest?_eq_some_iff :
    readTest? name t = some (p, rest) ↔ ∃ u, t = u ++ rest ∧ IsDemand name u p := by
  rw [readTest?_cases]
  constructor
  · obtain ⟨a, ha, ht⟩ := exists_trimStart t
    rintro (⟨hclose, rfl⟩ | ⟨k, u, v, hsign, hread, rfl⟩)
    · exact ⟨a ++ [']'], by rw [ht, hclose]; simp, .present ha⟩
    · obtain ⟨b, w, d, rfl, hb, hform, hd⟩ := operand?_eq_some_iff.1 hread
      exact ⟨_, by rw [ht, hsign]; simp, .compared k ha hb hform hd⟩
  · rintro ⟨u, rfl, hdemand⟩
    cases hdemand with
    | present ha =>
      refine .inl ⟨?_, rfl⟩
      rw [List.append_assoc]
      exact trimStart_append_of_not_starts ha rfl
    | @compared k a b d w v ha hb hform hd =>
      refine .inr ⟨k, b ++ (w ++ (d ++ ']' :: rest)), v, ?_,
        operand?_eq_some_iff.2 ⟨b, w, d, rfl, hb, hform, hd⟩, rfl⟩
      have hsplit : a ++ (k.sign ++ (b ++ (w ++ (d ++ [']'])))) ++ rest =
          a ++ (k.sign ++ (b ++ (w ++ (d ++ ']' :: rest)))) := by
        simp
      rw [hsplit]
      exact trimStart_append_of_not_starts ha (by cases k <;> rfl)

/-- Nothing of a demand goes on with a name. -/
theorem IsDemand.head (h : IsDemand name u p) :
    ∀ c, (u ++ rest).head? = some c → continuesName c = false := by
  have hblank := fun c => not_isBlank_of_continuesName (c := c)
  cases h with
  | present ha =>
    rw [List.append_assoc]
    refine head_blank hblank ha fun c hc => ?_
    rw [← Option.some.inj hc]
    rfl
  | compared k ha =>
    rw [List.append_assoc]
    refine head_blank hblank ha fun c hc => ?_
    cases k <;> · rw [← Option.some.inj hc]; rfl

/-! ## Reading the brackets -/

theorem IsName.startsBlank {n : Text} (h : IsName n) (u : Text) :
    startsBlank (n ++ u) = false := by
  obtain ⟨hstart, -⟩ := h
  exact not_isBlank_of_continuesName (continuesName_of_startsName hstart)

/-- Behind an opening bracket a name is read as far as it goes. -/
theorem readBrackets?_name (ht : trimStart t = c :: u) (hc : startsName c = true) :
    readBrackets? ('[' :: t) =
      (readTest? (lowerName (String.ofList (c :: u.takeWhile continuesName)))
        (u.dropWhile continuesName)).map fun r => (some r.1, r.2) := by
  unfold readBrackets?
  simp only [ht, if_pos hc]
  cases readTest? (lowerName (String.ofList (c :: u.takeWhile continuesName)))
    (u.dropWhile continuesName) <;> rfl

/-- **A test is read up to its closing bracket.** -/
theorem readBrackets?_eq_some_iff :
    readBrackets? t = some (some p, rest) ↔ ∃ u, t = u ++ rest ∧ IsTest u p := by
  constructor
  · intro h
    unfold readBrackets? at h
    split at h
    · rename_i t
      obtain ⟨a, ha, ht⟩ := exists_trimStart t
      split at h
      · rename_i c cs hname
        split at h
        · rename_i hstart
          obtain ⟨⟨p', rest'⟩, hread, heq⟩ := Option.bind_eq_some_iff.1 h
          cases heq
          obtain ⟨u, hu, hdemand⟩ := readTest?_eq_some_iff.1 hread
          refine ⟨_, ?_, .intro ha (.intro hstart List.all_takeWhile) hdemand⟩
          rw [ht, hname]
          simp [← hu]
        · cases h
      · cases h
    · cases h
  · rintro ⟨_, rfl, @⟨a, _, u, _, ha, @⟨c, cs, hstart, hrun⟩, hdemand⟩⟩
    -- a name stops at what is asked of it, whatever that is
    have hskip : trimStart (a ++ (c :: cs ++ u) ++ rest) = c :: (cs ++ (u ++ rest)) := by
      rw [List.append_assoc, List.append_assoc]
      exact trimStart_append_of_not_starts ha ((IsName.intro hstart hrun).startsBlank _)
    have htake : (cs ++ (u ++ rest)).takeWhile continuesName = cs := takeWhile_run hrun hdemand.head
    have hdrop : (cs ++ (u ++ rest)).dropWhile continuesName = u ++ rest :=
      dropWhile_run hrun hdemand.head
    have hread : readTest? (lowerName (String.ofList (c :: cs))) (u ++ rest) = some (p, rest) :=
      readTest?_eq_some_iff.2 ⟨u, rfl, hdemand⟩
    rw [List.cons_append, readBrackets?_name hskip hstart, htake, hdrop, hread]
    rfl

theorem IsTest.read (h : IsTest u p) (rest : Text) :
    readBrackets? (u ++ rest) = some (some p, rest) :=
  readBrackets?_eq_some_iff.2 ⟨u, rfl, h⟩

theorem readBrackets?_none_iff :
    readBrackets? t = some (none, rest) ↔ rest = t ∧ t.head? ≠ some '[' := by
  unfold readBrackets?
  split
  · refine iff_of_false (fun h => ?_) fun h => h.2 rfl
    split at h
    · split at h
      · obtain ⟨r, -, heq⟩ := Option.bind_eq_some_iff.1 h
        cases heq
      · cases h
    · cases h
  · rename_i hopen
    constructor
    · intro h
      cases h
      refine ⟨rfl, fun hhead => ?_⟩
      obtain ⟨cs, rfl⟩ := List.head?_eq_some_iff.1 hhead
      exact hopen cs rfl
    · rintro ⟨rfl, -⟩
      rfl

/-! ## Reading the tag -/

/-- The tag that a word asks for. -/
theorem IsTag.asked (h : IsTag w tag) :
    ((some w).filter (· != ['*'])).map (fun name => lowerName (String.ofList name)) = tag := by
  cases h with
  | star => rfl
  | @named c cs hc hcs =>
    have hstar : (c :: cs) ≠ ['*'] := by
      intro h
      rw [(List.cons.inj h).1] at hc
      cases hc
    simp [Option.filter, hstar]

theorem readTag_cases (t : Text) :
    (∃ w rest tag, readTag t = (some w, rest) ∧ t = w ++ rest ∧ IsTag w tag) ∨
      readTag t = (none, t) := by
  unfold readTag
  split
  · exact .inl ⟨_, _, _, rfl, rfl, .star⟩
  · rename_i c cs hstar
    split
    · rename_i hc
      refine .inl ⟨_, _, _, rfl, ?_, .named hc List.all_takeWhile⟩
      rw [List.cons_append, List.takeWhile_append_dropWhile]
    · exact .inr rfl
  · exact .inr rfl

/-- A tag is read whole if what follows it is no letter and no digit. -/
theorem readTag_append (h : IsTag w tag)
    (hrest : ∀ c, rest.head? = some c → c.isAlphanum = false) :
    readTag (w ++ rest) = (some w, rest) := by
  cases h with
  | star => rfl
  | @named c cs hc hcs =>
    have hstar : c ≠ '*' := by
      rintro rfl
      cases hc
    have htake := takeWhile_run hcs hrest
    have hdrop := dropWhile_run hcs hrest
    rw [List.cons_append]
    unfold readTag
    split
    · rename_i heq
      exact absurd (List.cons.inj heq).1 hstar
    · rename_i heq
      obtain ⟨rfl, rfl⟩ := List.cons.inj heq
      rw [if_pos hc, htake, hdrop]
    · rename_i heq
      cases heq

/-! ## Reading the whole -/

theorem IsTest.exists_cons (h : IsTest u p) : ∃ cs, u = '[' :: cs := by
  cases h
  exact ⟨_, rfl⟩

theorem IsTag.startsBlank (h : IsTag w tag) (u : Text) : startsBlank (w ++ u) = false := by
  cases h with
  | star => rfl
  | named hc hcs => exact not_isBlank_of_isAlphanum (isAlphanum_of_isAlpha hc)

theorem parse?_of_written (h : Written t s) : parse? t = some s := by
  obtain ⟨a, body, b, rfl, ha, hb, hbody⟩ := h
  -- the blank space at the end is no more of the tag, and opens no bracket
  have hend : readBrackets? b = some (none, b) := by
    refine readBrackets?_none_iff.2 ⟨rfl, fun hopen => ?_⟩
    obtain ⟨cs, rfl⟩ := List.head?_eq_some_iff.1 hopen
    cases hb
  have hletter : ∀ c, b.head? = some c → c.isAlphanum = false := by
    have hblank := head_blank (p := Char.isAlphanum) (u := [])
      (fun _ => not_isBlank_of_isAlphanum) hb nofun
    rwa [List.append_nil] at hblank
  unfold parse?
  cases hbody with
  | tag htag =>
    rw [trimStart_append_of_not_starts ha (htag.startsBlank b), readTag_append htag hletter]
    simp [hend, hb, htag.asked]
  | test htest =>
    have hread := htest.read b
    obtain ⟨cs, rfl⟩ := htest.exists_cons
    have hnone : readTag ('[' :: cs ++ b) = (none, '[' :: cs ++ b) := rfl
    rw [trimStart_append_of_not_starts ha rfl, hnone]
    simp only [hread]
    simp [hb]
  | both htag htest =>
    rename_i w u tag p
    have hread := htest.read b
    obtain ⟨cs, rfl⟩ := htest.exists_cons
    have hstop : ∀ c, ('[' :: cs ++ b).head? = some c → c.isAlphanum = false := by
      intro c hc
      rw [← Option.some.inj hc]
      rfl
    rw [List.append_assoc, trimStart_append_of_not_starts ha (htag.startsBlank _),
      readTag_append htag hstop]
    simp only [hread]
    simp [hb, htag.asked]

theorem written_of_parse? (h : parse? t = some s) : Written t s := by
  obtain ⟨a, ha, ht⟩ := exists_trimStart t
  unfold parse? at h
  rcases readTag_cases (trimStart t) with ⟨w, u, tag, hread, hsplit, htag⟩ | hread
  · rw [hread] at h
    obtain ⟨⟨p, b⟩, hbrackets, h⟩ := Option.bind_eq_some_iff.1 h
    simp only [Option.isNone_some, Bool.false_and, Bool.or_false, htag.asked] at h
    split at h
    · cases h
    · rename_i hb
      cases h
      have hb' : isBlankText b = true := by simpa using hb
      cases p with
      | none =>
        obtain ⟨rfl, -⟩ := readBrackets?_none_iff.1 hbrackets
        exact ⟨a, w, b, by rw [← hsplit, ← ht], ha, hb', .tag htag⟩
      | some p =>
        obtain ⟨v, rfl, htest⟩ := readBrackets?_eq_some_iff.1 hbrackets
        exact ⟨a, w ++ v, b, by rw [List.append_assoc, ← hsplit, ← ht], ha, hb', .both htag htest⟩
  · rw [hread] at h
    obtain ⟨⟨p, b⟩, hbrackets, h⟩ := Option.bind_eq_some_iff.1 h
    simp only [Option.isNone_none, Bool.true_and] at h
    split at h
    · cases h
    · rename_i hb
      cases h
      cases p with
      | none => simp at hb
      | some p =>
        obtain ⟨v, hsplit, htest⟩ := readBrackets?_eq_some_iff.1 hbrackets
        exact ⟨a, v, b, by rw [← hsplit, ← ht], ha, by simpa using hb, .test htest⟩

/-- **A text is read as a selector** if and only if the selector is written so. -/
theorem parse?_eq_some_iff : parse? t = some s ↔ Written t s :=
  ⟨written_of_parse?, parse?_of_written⟩

end HtmlMarkdown.Selector
