import HtmlMarkdown.Email.Headers
import HtmlMarkdown.Proofs.Text.Edges
import HtmlMarkdown.Proofs.Text.Scan

/-!
# Recipients

A list of recipients is cut at commas and semicolons, and each of them is reduced to an address: to
what its outermost angle brackets enclose, without the blank space around it, or else to the
recipient itself without the brackets around it (`address_eq`). So every recipient that is written
as an address, or as a name with the address in brackets, is read back. But only one layer is taken
off, of blank space inside brackets and of brackets elsewhere, and what comes to light below it
stays.

* `addresses_row`: **recipients in a row are read one by one.**
* `addresses_written`: a written list of recipients is read back.
* `addresses_bare_iff`: when every address of a list comes out bare.
-/

namespace HtmlMarkdown.Email

open Text

variable {p q : Char → Bool} {c : Char} {a t inner : Text} {as : List Text}

/-! ## Characters dropped at both ends -/

/-- A character that is not there cannot be dropped at the ends. -/
theorem trimBoth_eq_self (hp : ∀ c ∈ t, p c = false) : trimBoth p t = t := by
  have hstart : t.dropWhile p = t := by
    cases t with
    | nil => rfl
    | cons c cs => rw [List.dropWhile_cons_of_neg (by rw [hp c List.mem_cons_self]; simp)]
  unfold trimBoth
  rw [hstart, dropEndWhile_eq, List.rdropWhile_eq_self_iff]
  intro hne
  rw [hp _ (List.getLast_mem hne)]
  exact Bool.false_ne_true

/-- What is dropped at the ends are characters of the kind. -/
theorem exists_trimBoth (p : Char → Bool) (t : Text) : ∃ left right,
    t = left ++ trimBoth p t ++ right ∧ (∀ c ∈ left, p c = true) ∧ ∀ c ∈ right, p c = true := by
  refine ⟨t.takeWhile p, (t.dropWhile p).rtakeWhile p, ?_,
    fun c hc => List.mem_takeWhile_imp hc, fun c hc => List.mem_rtakeWhile_imp hc⟩
  unfold trimBoth
  rw [dropEndWhile_eq, List.append_assoc, List.rdropWhile_append_rtakeWhile,
    List.takeWhile_append_dropWhile]

theorem dropEndWhile_append {v : Text} (hv : ∀ c ∈ v, p c = true) (u : Text) :
    dropEndWhile p (u ++ v) = dropEndWhile p u := by
  have hrev : ∀ c ∈ v.reverse, p c = true := fun c hc => hv c (List.mem_reverse.1 hc)
  rw [dropEndWhile_eq, dropEndWhile_eq, List.rdropWhile, List.rdropWhile, List.reverse_append,
    List.dropWhile_append_of_pos hrev]

/-- More characters of the kind at the ends are dropped as well. -/
theorem trimBoth_append {u v : Text} (hu : ∀ c ∈ u, p c = true) (hv : ∀ c ∈ v, p c = true)
    (t : Text) : trimBoth p (u ++ t ++ v) = trimBoth p t := by
  unfold trimBoth
  rw [List.append_assoc, List.dropWhile_append_of_pos hu, List.dropWhile_append]
  split
  · rename_i hnil
    rw [List.isEmpty_iff.1 hnil, List.dropWhile_eq_nil_iff.2 hv]
  · exact dropEndWhile_append hv _

/-- A character that is not of the kind stays. -/
theorem mem_trimBoth_iff (hc : p c = false) : c ∈ trimBoth p t ↔ c ∈ t := by
  obtain ⟨left, right, heq, hleft, hright⟩ := exists_trimBoth p t
  have hl : c ∉ left := fun h => absurd (hleft c h) (by rw [hc]; exact Bool.false_ne_true)
  have hr : c ∉ right := fun h => absurd (hright c h) (by rw [hc]; exact Bool.false_ne_true)
  conv_rhs => rw [heq]
  rw [List.mem_append, List.mem_append, or_iff_left hr, or_iff_right hl]

/-! ### What comes to light at the ends -/

/-- A character at an end of the text. -/
def AtEnd (t : Text) (c : Char) : Prop := t.head? = some c ∨ t.getLast? = some c

instance (t : Text) (c : Char) : Decidable (AtEnd t c) := inferInstanceAs (Decidable (_ ∨ _))

/-- **A character of the second kind at an end of the text**, behind nothing but characters of the
first kind. -/
def Behind (p q : Char → Bool) (t : Text) : Prop :=
  ∃ u c v, t = u ++ c :: v ∧ q c = true ∧ ((∀ d ∈ u, p d = true) ∨ ∀ d ∈ v, p d = true)

/-- The character that ends a run at the start is the first one that stays. -/
theorem head?_trimBoth {u v : Text} (hu : ∀ d ∈ u, p d = true) (hc : p c = false) :
    (trimBoth p (u ++ c :: v)).head? = some c := by
  have hstop : ¬ p c = true := by rw [hc]; exact Bool.false_ne_true
  unfold trimBoth
  rw [List.dropWhile_append_of_pos hu, List.dropWhile_cons_of_neg hstop, dropEndWhile]
  split
  · rw [if_neg hstop]
    rfl
  · rfl

/-- The character that ends a run at the end is the last one that stays. -/
theorem getLast?_trimBoth {u v : Text} (hv : ∀ d ∈ v, p d = true) (hc : p c = false) :
    (trimBoth p (u ++ c :: v)).getLast? = some c := by
  have hstop : ¬ p c = true := by rw [hc]; exact Bool.false_ne_true
  have hdrop : ∃ u', (u ++ c :: v).dropWhile p = u' ++ [c] ++ v := by
    rw [List.dropWhile_append]
    split
    · exact ⟨[], List.dropWhile_cons_of_neg hstop⟩
    · exact ⟨u.dropWhile p, by simp⟩
  obtain ⟨u', hu'⟩ := hdrop
  unfold trimBoth
  rw [hu', dropEndWhile_append hv, dropEndWhile_eq, List.rdropWhile_concat_neg _ _ _ hstop,
    List.getLast?_concat]

/-- At the ends of what stays there is no character of the kind. -/
theorem not_of_atEnd_trimBoth (h : AtEnd (trimBoth p t) c) : p c = false := by
  rcases h with hhead | hlast
  · cases hdrop : t.dropWhile p with
    | nil =>
      unfold trimBoth at hhead
      rw [hdrop] at hhead
      cases hhead
    | cons d v =>
      have hd : p d = false := by
        have hstop := List.head?_dropWhile_not p t
        rw [hdrop] at hstop
        exact hstop
      have hsplit : t = t.takeWhile p ++ d :: v := by
        rw [← hdrop, List.takeWhile_append_dropWhile]
      rw [hsplit, head?_trimBoth (fun e he => List.mem_takeWhile_imp he) hd] at hhead
      rwa [← Option.some.inj hhead]
  · unfold trimBoth at hlast
    rw [dropEndWhile_eq] at hlast
    have hne : (t.dropWhile p).rdropWhile p ≠ [] := by
      intro hnil
      rw [hnil] at hlast
      cases hlast
    have hstop := List.rdropWhile_last_not p (t.dropWhile p) hne
    rw [List.getLast?_eq_some_getLast hne] at hlast
    rwa [Option.some.inj hlast, Bool.not_eq_true] at hstop

/-- **What comes to light** when the characters of one kind are dropped: none of that kind, and
one of another kind if and only if it stood behind them. -/
theorem atEnd_trimBoth_iff (hpq : ∀ c, q c = true → p c = false) :
    (∀ c, AtEnd (trimBoth p t) c → q c = false) ↔ ¬ Behind p q t := by
  constructor
  · rintro hends ⟨u, c, v, rfl, hc, hrun⟩
    have hend : AtEnd (trimBoth p (u ++ c :: v)) c :=
      hrun.imp (fun hu => head?_trimBoth hu (hpq c hc)) fun hv => getLast?_trimBoth hv (hpq c hc)
    rw [hends c hend] at hc
    cases hc
  · intro hbehind c hend
    refine Bool.eq_false_iff.2 fun hc => hbehind ?_
    obtain ⟨left, right, heq, hleft, hright⟩ := exists_trimBoth p t
    rcases hend with hhead | hlast
    · obtain ⟨rest, hrest⟩ := List.head?_eq_some_iff.1 hhead
      rw [hrest] at heq
      exact ⟨left, c, rest ++ right, by rw [heq]; simp, hc, Or.inl hleft⟩
    · obtain ⟨start, hstart⟩ := List.getLast?_eq_some_iff.1 hlast
      rw [hstart] at heq
      exact ⟨left ++ start, c, right, by rw [heq]; simp, hc, Or.inr hright⟩

/-! ## Angle brackets -/

/-- Is the character an angle bracket? -/
def isBracket (c : Char) : Bool := c == '<' || c == '>'

theorem isBlank_of_isBracket (h : isBracket c = true) : isBlank c = false := by
  rcases Bool.or_eq_true_iff.1 h with h | h <;> rw [eq_of_beq h] <;> decide

/-- A text is cut at the last one of a character. -/
theorem dropEndWhile_ne_append {u v : Text} (hv : c ∉ v) :
    dropEndWhile (· != c) (u ++ c :: v) = u ++ [c] := by
  have hrun : ∀ d ∈ v, (d != c) = true := by
    intro d hd
    rw [bne_iff_ne]
    rintro rfl
    exact hv hd
  rw [← List.singleton_append, ← List.append_assoc, dropEndWhile_append hrun, dropEndWhile_eq,
    List.rdropWhile_concat_neg _ _ _ (by simp)]

theorem dropEndWhile_ne_eq_nil {v : Text} (hv : c ∉ v) : dropEndWhile (· != c) v = [] := by
  rw [dropEndWhile_eq, List.rdropWhile_eq_nil_iff]
  intro d hd
  rw [bne_iff_ne]
  rintro rfl
  exact hv hd

theorem bracketed?_of_not_mem (h : '<' ∉ t) : bracketed? t = none := by
  unfold bracketed?
  rw [dropWhile_ne_eq_nil h]

/-- Behind the first opening bracket, the last closing one counts. -/
theorem bracketed?_closed {before behind : Text} (h : '<' ∉ before) (h' : '>' ∉ behind)
    (inner : Text) : bracketed? (before ++ '<' :: (inner ++ '>' :: behind)) = some inner := by
  have hopen := dropWhile_ne_append h (inner ++ '>' :: behind)
  unfold bracketed?
  simp only [hopen, dropEndWhile_ne_append h']
  cases inner with
  | nil => rfl
  | cons c cs => exact congrArg some List.dropLast_concat

theorem bracketed?_unclosed {before rest : Text} (h : '<' ∉ before) (h' : '>' ∉ rest) :
    bracketed? (before ++ '<' :: rest) = none := by
  have hopen := dropWhile_ne_append h rest
  unfold bracketed?
  simp only [hopen, dropEndWhile_ne_eq_nil h']

/-- **How brackets stand in a text**: some enclose a part of it, from the first opening one to the
last closing one, or no opening one stands before a closing one. -/
theorem bracketed?_cases (t : Text) :
    (∃ before inner behind, t = before ++ '<' :: (inner ++ '>' :: behind) ∧ '<' ∉ before ∧
      '>' ∉ behind ∧ bracketed? t = some inner) ∨
    (¬ ['<', '>'].Sublist t ∧ bracketed? t = none) := by
  cases hopen : t.dropWhile (· != '<') with
  | nil =>
    have hno : '<' ∉ t := by
      intro hmem
      have hall := List.dropWhile_eq_nil_iff.1 hopen '<' hmem
      cases hall
    exact Or.inr ⟨fun h => hno (h.subset List.mem_cons_self), bracketed?_of_not_mem hno⟩
  | cons d rest =>
    obtain ⟨-, before, hbefore, rfl⟩ := eq_append_of_dropWhile_ne hopen
    by_cases hclose : ∃ c ∈ rest, c = '>'
    · obtain ⟨inner, c, behind, rfl, rfl, hbehind⟩ := exists_last hclose
      have hnot : '>' ∉ behind := fun hmem => hbehind '>' hmem rfl
      exact Or.inl ⟨before, inner, behind, rfl, hbefore, hnot, bracketed?_closed hbefore hnot inner⟩
    · have hnot : '>' ∉ rest := fun hmem => hclose ⟨'>', hmem, rfl⟩
      refine Or.inr ⟨fun h => ?_, bracketed?_unclosed hbefore hnot⟩
      obtain ⟨first, second, heq, hfirst, hsecond⟩ := List.sublist_append_iff.1 h
      cases first with
      | nil =>
        rw [← List.nil_append second, ← heq, List.cons_sublist_cons,
          List.singleton_sublist] at hsecond
        exact hnot hsecond
      | cons c cs =>
        rw [← (List.cons.inj heq).1] at hfirst
        exact hbefore (hfirst.subset List.mem_cons_self)

/-- Blank space around a text does not matter to its brackets. -/
theorem bracketed?_trim (t : Text) : bracketed? (trim t) = bracketed? t := by
  have hblank : ∀ {c : Char} {u : Text}, isBracket c = true → (∀ d ∈ u, isBlank d = true) →
      c ∉ u := by
    intro c u hc hu hmem
    have hno := isBlank_of_isBracket hc
    rw [hu c hmem] at hno
    cases hno
  obtain ⟨left, right, heq, hleft, hright⟩ := exists_trimBoth isBlank t
  rcases bracketed?_cases (trim t) with ⟨before, inner, behind, htrim, hbefore, hbehind, hsome⟩ |
    ⟨hnot, hnone⟩
  · have hopen : '<' ∉ left ++ before := by
      rw [List.mem_append, not_or]
      exact ⟨hblank rfl hleft, hbefore⟩
    have hclose : '>' ∉ behind ++ right := by
      rw [List.mem_append, not_or]
      exact ⟨hbehind, hblank rfl hright⟩
    have ht : t = (left ++ before) ++ '<' :: (inner ++ '>' :: (behind ++ right)) := by
      conv_lhs => rw [heq]
      change left ++ trim t ++ right = _
      rw [htrim]
      simp
    rw [hsome, ht, bracketed?_closed hopen hclose]
  · rcases bracketed?_cases t with ⟨before, inner, behind, ht, -, -, -⟩ | ⟨-, hnone'⟩
    · -- brackets are visible, so a pair of them is still there once the text is trimmed
      have hpair : ['<', '>'].Sublist t := by
        rw [ht]
        simp
      have hvisible : ['<', '>'].Sublist (visible (trim t)) := by
        rw [visible_trim]
        exact hpair.filter fun c => !isBlank c
      exact absurd (hvisible.trans List.filter_sublist) hnot
    · rw [hnone, hnone']

/-- **The address of a recipient**: what its brackets enclose, trimmed, or the recipient less the
brackets around it. -/
theorem address_eq (t : Text) : address t =
    match bracketed? t with
    | some inner => trim inner
    | none => trimBoth isBracket (trim t) := by
  unfold address
  simp only [bracketed?_trim]
  rfl

/-! ## Written recipients -/

/-- The characters that may stand in a bare address. -/
def isAddressChar (c : Char) : Bool := !isBlank c && decide (c ∉ [',', ';', '<', '>'])

/-- A bare address, as it may stand in a list. -/
def IsBare (a : Text) : Prop := '@' ∈ a ∧ a.all isAddressChar = true

instance (a : Text) : Decidable (IsBare a) := inferInstanceAs (Decidable (_ ∧ _))

theorem IsBare.char (h : IsBare a) : ∀ c ∈ a, isBlank c = false ∧ c ∉ [',', ';', '<', '>'] := by
  intro c hc
  have hchar := List.all_eq_true.1 h.2 c hc
  rwa [isAddressChar, Bool.and_eq_true, Bool.not_eq_true', decide_eq_true_iff] at hchar

theorem IsBare.trim_eq (h : IsBare a) : trim a = a := trimBoth_eq_self fun c hc => (h.char c hc).1

/-- Does the character stand between recipients? -/
def isSeparator (c : Char) : Bool := c == ',' || c == ';'

/-- The recipients of a list. -/
def recipients (t : Text) : List Text := splitOn isSeparator t

theorem addresses_eq (t : Text) :
    addresses t = ((recipients t).map address).filter fun a => List.elem '@' a := rfl

/-- A piece of a list between separators, from which an address is read. -/
def IsPiece (t a : Text) : Prop := address t = a ∧ '@' ∈ a ∧ ∀ c ∈ t, isSeparator c = false

theorem IsPiece.addresses_eq (h : IsPiece t a) : addresses t = [a] := by
  rw [Email.addresses_eq, recipients, splitOn_eq, List.splitOnP_eq_singleton h.2.2,
    List.map_singleton, h.1, List.filter_cons_of_pos (List.elem_iff.2 h.2.1)]
  rfl

theorem IsPiece.addresses_append (h : IsPiece t a) (hc : isSeparator c = true) (rest : Text) :
    addresses (t ++ c :: rest) = a :: addresses rest := by
  rw [Email.addresses_eq, Email.addresses_eq, recipients, recipients, splitOn_eq, splitOn_eq,
    List.splitOnP_append_cons_of_forall_mem h.2.2 _ hc, List.map_cons, h.1,
    List.filter_cons_of_pos (List.elem_iff.2 h.2.1)]

/-- **Recipients in a row are read one by one**, whatever separates them. -/
theorem addresses_row {α : Type} {xs : List α} {sep : α → Char} {text value : α → Text}
    (ht : IsPiece t a) (hxs : ∀ x ∈ xs, isSeparator (sep x) = true ∧ IsPiece (text x) (value x)) :
    addresses (t ++ xs.flatMap fun x => sep x :: text x) = a :: xs.map value := by
  induction xs generalizing t a with
  | nil => rw [List.flatMap_nil, List.append_nil, ht.addresses_eq, List.map_nil]
  | cons x xs ih =>
    obtain ⟨⟨hsep, hx⟩, hrest⟩ := List.forall_mem_cons.1 hxs
    rw [List.flatMap_cons, List.cons_append, ht.addresses_append hsep, ih hx hrest, List.map_cons]

/-- A separator of recipients. -/
inductive Separator where
  | comma
  | semicolon

def Separator.char : Separator → Char
  | .comma => ','
  | .semicolon => ';'

theorem Separator.isSeparator_char (s : Separator) : isSeparator s.char = true := by
  cases s <;> rfl

/-- **A recipient as it is written**: an address, alone or in angle brackets behind a name, with
blank space around it. The space between the name and the bracket belongs to the name. -/
structure Recipient where
  before : Text := []
  name? : Option Text := none
  address : Text
  behind : Text := []
  bare : IsBare address
  name_plain : name?.all (·.all fun c => decide (c ∉ [',', ';', '<', '>'])) = true := by decide
  blank_before : isBlankText before = true := by decide
  blank_behind : isBlankText behind = true := by decide

namespace Recipient

/-- The name with the address behind it in brackets, or the address alone. -/
def core (r : Recipient) : Text :=
  match r.name? with
  | some name => name ++ '<' :: (r.address ++ ['>'])
  | none => r.address

/-- The text of the recipient. -/
def text (r : Recipient) : Text := r.before ++ r.core ++ r.behind

theorem name_char (r : Recipient) (h : r.name? = some name) (hc : c ∈ name) :
    c ∉ [',', ';', '<', '>'] := by
  have hname := r.name_plain
  rw [h, Option.all_some] at hname
  exact of_decide_eq_true (List.all_eq_true.1 hname c hc)

theorem blank_char (ht : isBlankText t = true) (hc : c ∈ t) : c ∉ [',', ';', '<', '>'] := by
  have hblank := List.all_eq_true.1 ht c hc
  intro hmem
  simp only [List.mem_cons, List.not_mem_nil, or_false] at hmem
  rcases hmem with rfl | rfl | rfl | rfl <;> cases hblank

/-- No separator stands in the text of a recipient. -/
theorem not_isSeparator (r : Recipient) : ∀ c ∈ r.text, isSeparator c = false := by
  have hplain : ∀ c, c ∉ [',', ';', '<', '>'] → isSeparator c = false := by
    intro c hc
    rw [isSeparator, Bool.or_eq_false_iff, beq_eq_false_iff_ne, beq_eq_false_iff_ne]
    constructor <;> rintro rfl <;> exact hc (by decide)
  have hcore : ∀ c ∈ r.core, isSeparator c = false := by
    intro c hc
    unfold core at hc
    split at hc
    · rename_i name hname
      simp only [List.mem_append, List.mem_cons, List.not_mem_nil, or_false] at hc
      rcases hc with hc | rfl | hc | rfl
      · exact hplain c (r.name_char hname hc)
      · rfl
      · exact hplain c (r.bare.char c hc).2
      · rfl
    · exact hplain c (r.bare.char c hc).2
  intro c hc
  unfold text at hc
  rw [List.mem_append, List.mem_append] at hc
  rcases hc with (hc | hc) | hc
  · exact hplain c (blank_char r.blank_before hc)
  · exact hcore c hc
  · exact hplain c (blank_char r.blank_behind hc)

/-- **A recipient is read as its address.** -/
theorem address_text (r : Recipient) : Email.address r.text = r.address := by
  have hbare : ∀ c, c ∉ [',', ';', '<', '>'] → c ≠ '<' ∧ c ≠ '>' := by
    intro c hc
    constructor <;> rintro rfl <;> exact hc (by decide)
  have hbefore : '<' ∉ r.before := fun h => (hbare _ (blank_char r.blank_before h)).1 rfl
  have hbehind : ∀ c ∈ r.behind, c ≠ '<' ∧ c ≠ '>' :=
    fun c h => hbare c (blank_char r.blank_behind h)
  have haddress : ∀ c ∈ r.address, c ≠ '<' ∧ c ≠ '>' := fun c h => hbare c (r.bare.char c h).2
  rw [address_eq]
  cases hname : r.name? with
  | some name =>
    have hopen : '<' ∉ r.before ++ name := by
      rw [List.mem_append, not_or]
      exact ⟨hbefore, fun h => (hbare _ (r.name_char hname h)).1 rfl⟩
    have htext : r.text = (r.before ++ name) ++ '<' :: (r.address ++ '>' :: r.behind) := by
      simp [text, core, hname]
    rw [htext, bracketed?_closed hopen (fun h => (hbehind _ h).2 rfl)]
    exact r.bare.trim_eq
  | none =>
    have htext : r.text = r.before ++ r.address ++ r.behind := by simp [text, core, hname]
    have hopen : '<' ∉ r.text := by
      rw [htext, List.mem_append, List.mem_append, not_or, not_or]
      exact ⟨⟨hbefore, fun h => (haddress _ h).1 rfl⟩, fun h => (hbehind _ h).1 rfl⟩
    have htrim : trim r.text = r.address := by
      rw [htext]
      exact (trimBoth_append (List.all_eq_true.1 r.blank_before)
        (List.all_eq_true.1 r.blank_behind) r.address).trans r.bare.trim_eq
    rw [bracketed?_of_not_mem hopen]
    simp only [htrim]
    refine trimBoth_eq_self fun c hc => ?_
    rw [isBracket, beq_false_of_ne (haddress c hc).1, beq_false_of_ne (haddress c hc).2]
    rfl

theorem isPiece_text (r : Recipient) : IsPiece r.text r.address :=
  ⟨r.address_text, r.bare.1, r.not_isSeparator⟩

end Recipient

/-- **A list of recipients as it is written**: each with the separator before it, but for the
first one. -/
def written (rs : List (Separator × Recipient)) : Text :=
  (rs.flatMap fun r => r.1.char :: r.2.text).drop 1

/-- **A written list of recipients is read back**: the addresses in order, each once. -/
theorem addresses_written (rs : List (Separator × Recipient)) :
    addresses (written rs) = rs.map (·.2.address) := by
  cases rs with
  | nil => rfl
  | cons r rs =>
    have hrow : written (r :: rs) = r.2.text ++ rs.flatMap fun r => r.1.char :: r.2.text := rfl
    rw [hrow, List.map_cons]
    exact addresses_row r.2.isPiece_text fun x _ => ⟨x.1.isSeparator_char, x.2.isPiece_text⟩

/-- A recipient with a name, and one with blank space before its address. -/
def annAndBob : List (Separator × Recipient) := [
  (.comma, {
    name? := some "Ann @ home ", address := "ann@x.org", behind := "  ", bare := by decide }),
  (.semicolon, { before := "\t", address := "bob@x.org", bare := by decide })]

theorem addresses_written_annAndBob :
    written annAndBob = "Ann @ home <ann@x.org>  ;\tbob@x.org" ∧
      addresses "Ann @ home <ann@x.org>  ;\tbob@x.org" = ["ann@x.org", "bob@x.org"] := by
  have hwritten : written annAndBob = "Ann @ home <ann@x.org>  ;\tbob@x.org" := by decide
  have hread := addresses_written annAndBob
  rw [hwritten] at hread
  exact ⟨hwritten, hread⟩

/-- Addresses as one text, with a comma and a space between two of them. -/
def listed (as : List Text) : Text := [',', ' '].intercalate as

theorem IsBare.isPiece (h : IsBare a) : IsPiece a a ∧ IsPiece (' ' :: a) a := by
  have halone := Recipient.isPiece_text { address := a, bare := h }
  have hspace := Recipient.isPiece_text { before := " ", address := a, bare := h }
  simp only [Recipient.text, Recipient.core, List.append_nil, List.nil_append] at halone hspace
  exact ⟨halone, hspace⟩

/-- **A list of bare addresses is read back.** -/
theorem addresses_listed (h : ∀ a ∈ as, IsBare a) : addresses (listed as) = as := by
  cases as with
  | nil => decide
  | cons a as =>
    have hrow : ∀ (a : Text) (as : List Text),
        listed (a :: as) = a ++ as.flatMap fun b => ',' :: ' ' :: b := by
      intro a as
      induction as generalizing a with
      | nil => simp [listed]
      | cons b bs ih =>
        have hcons : listed (a :: b :: bs) = a ++ ',' :: ' ' :: listed (b :: bs) := rfl
        rw [hcons, ih, List.flatMap_cons]
        rfl
    obtain ⟨ha, has⟩ := List.forall_mem_cons.1 h
    rw [hrow, addresses_row ha.isPiece.1 fun b hb => ⟨rfl, (has b hb).isPiece.2⟩, List.map_id']

/-! ## Bare addresses -/

/-- Is there neither blank space nor an angle bracket at an end of the text? -/
def BareEnds (a : Text) : Prop := ∀ c, AtEnd a c → isBlank c = false ∧ isBracket c = false

/-- **A recipient whose address is wrapped twice**: inside the brackets that enclose it, behind
blank space if there is any, stands another bracket; or, where no brackets enclose it, blank space
stands inside those around it. -/
inductive WrappedTwice : Text → Prop where
  | inside {before inner behind : Text} (hbefore : '<' ∉ before) (hbehind : '>' ∉ behind)
      (hmem : '@' ∈ inner) (hends : Behind isBlank isBracket inner) :
      WrappedTwice (before ++ '<' :: (inner ++ '>' :: behind))
  | around {t : Text} (hnot : ¬ ['<', '>'].Sublist t) (hmem : '@' ∈ t)
      (hends : Behind isBracket isBlank (trim t)) : WrappedTwice t

theorem bareEnds_trim_iff : BareEnds (trim t) ↔ ¬ Behind isBlank isBracket t := by
  rw [← atEnd_trimBoth_iff fun c => isBlank_of_isBracket]
  exact ⟨fun h c hc => (h c hc).2, fun h c hc => ⟨not_of_atEnd_trimBoth hc, h c hc⟩⟩

theorem bareEnds_trimBoth_iff :
    BareEnds (trimBoth isBracket t) ↔ ¬ Behind isBracket isBlank t := by
  have hbracket : ∀ c, isBlank c = true → isBracket c = false := by
    intro c hc
    refine Bool.eq_false_iff.2 fun h => ?_
    rw [isBlank_of_isBracket h] at hc
    cases hc
  rw [← atEnd_trimBoth_iff hbracket]
  exact ⟨fun h c hc => (h c hc).1, fun h c hc => ⟨h c hc, not_of_atEnd_trimBoth hc⟩⟩

/-- **When the address of a recipient does not come out bare.** -/
theorem wrappedTwice_iff (t : Text) :
    WrappedTwice t ↔ '@' ∈ address t ∧ ¬ BareEnds (address t) := by
  rw [address_eq]
  constructor
  · rintro (⟨hbefore, hbehind, hmem, hends⟩ | ⟨hnot, hmem, hends⟩)
    · rw [bracketed?_closed hbefore hbehind]
      simp only
      rw [bareEnds_trim_iff, not_not]
      exact ⟨(mem_trimBoth_iff (by decide)).2 hmem, hends⟩
    · rcases bracketed?_cases t with ⟨before, inner, behind, ht, -⟩ | ⟨-, hnone⟩
      · exact absurd (by rw [ht]; simp) hnot
      · rw [hnone]
        simp only
        rw [bareEnds_trimBoth_iff, not_not, mem_trimBoth_iff (by decide)]
        exact ⟨(mem_trimBoth_iff (by decide)).2 hmem, hends⟩
  · rcases bracketed?_cases t with ⟨before, inner, behind, ht, hbefore, hbehind, hsome⟩ |
      ⟨hnot, hnone⟩
    · rw [hsome]
      simp only
      rw [bareEnds_trim_iff, not_not]
      rintro ⟨hmem, hends⟩
      rw [ht]
      exact .inside hbefore hbehind ((mem_trimBoth_iff (by decide)).1 hmem) hends
    · rw [hnone]
      simp only
      rw [bareEnds_trimBoth_iff, not_not, mem_trimBoth_iff (by decide)]
      rintro ⟨hmem, hends⟩
      exact .around hnot ((mem_trimBoth_iff (by decide)).1 hmem) hends

theorem mem_of_mem_trimBoth (h : c ∈ trimBoth p t) : c ∈ t := by
  obtain ⟨left, right, heq, -, -⟩ := exists_trimBoth p t
  rw [heq]
  simp [h]

/-- No character comes into an address that the recipient does not have. -/
theorem mem_of_mem_address (h : c ∈ address t) : c ∈ t := by
  rw [address_eq] at h
  rcases bracketed?_cases t with ⟨before, inner, behind, ht, -, -, hsome⟩ | ⟨-, hnone⟩
  · rw [hsome] at h
    have hinner : c ∈ inner := mem_of_mem_trim h
    rw [ht]
    simp [hinner]
  · rw [hnone] at h
    exact mem_of_mem_trim (mem_of_mem_trimBoth h)

theorem mem_addresses : a ∈ addresses t ↔ ∃ r ∈ recipients t, address r = a ∧ '@' ∈ a := by
  rw [addresses_eq, List.mem_filter, List.mem_map, List.elem_iff]
  constructor
  · rintro ⟨⟨r, hr, ha⟩, hmem⟩
    exact ⟨r, hr, ha, hmem⟩
  · rintro ⟨r, hr, ha, hmem⟩
    exact ⟨⟨r, hr, ha⟩, hmem⟩

/-- **When every address of a list comes out bare**: no recipient has its address wrapped twice.
An address always has an `@` and no separator. -/
theorem addresses_bare_iff (t : Text) :
    (∀ a ∈ addresses t, '@' ∈ a ∧ ',' ∉ a ∧ ';' ∉ a) ∧
      ((∀ a ∈ addresses t, BareEnds a) ↔ ∀ r ∈ recipients t, ¬ WrappedTwice r) := by
  constructor
  · intro a ha
    obtain ⟨r, hr, rfl, hmem⟩ := mem_addresses.1 ha
    have hsep : ∀ c ∈ address r, isSeparator c = false := fun c hc =>
      (mem_of_mem_splitOn hr c (mem_of_mem_address hc)).2
    exact ⟨hmem, fun h => absurd (hsep _ h) (by decide), fun h => absurd (hsep _ h) (by decide)⟩
  · constructor
    · intro hbare r hr htwice
      obtain ⟨hmem, hnot⟩ := (wrappedTwice_iff r).1 htwice
      exact hnot (hbare _ (mem_addresses.2 ⟨r, hr, rfl, hmem⟩))
    · intro hnone a ha
      obtain ⟨r, hr, rfl, hmem⟩ := mem_addresses.1 ha
      by_contra hnot
      exact hnone r hr ((wrappedTwice_iff r).2 ⟨hmem, hnot⟩)

/-- A bracket inside the brackets stays, and so does a space inside a bracket that encloses
nothing. -/
theorem addresses_wrapped_twice :
    (addresses "<<ann@x.org>>" = ["<ann@x.org>"] ∧ ¬ BareEnds "<ann@x.org>") ∧
      (addresses "< ann@x.org" = [" ann@x.org"] ∧ ¬ BareEnds " ann@x.org") := by
  have hbracket : AtEnd "<ann@x.org>" '<' := by decide
  have hspace : AtEnd " ann@x.org" ' ' := by decide
  refine ⟨⟨by decide, fun h => ?_⟩, by decide, fun h => ?_⟩
  · cases (h _ hbracket).2
  · cases (h _ hspace).1

end HtmlMarkdown.Email
