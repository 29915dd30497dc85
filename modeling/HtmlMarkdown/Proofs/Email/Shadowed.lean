import HtmlMarkdown.Proofs.Email.TextLines

/-!
# Recipients in shadowed elements

A field is looked for in the elements whose class or id has one of its texts in it, and the first of
them with a value counts. Where addresses are asked for, a value may have none; the element then
still counts, and those behind it are never looked at (`hasAddress_markedValue?_iff`). A line of
text without an address, in contrast, leaves the field to the lines behind it.

* `has_recipients_iff`: **when a mail has recipients.**
-/

namespace HtmlMarkdown.Email

open Text

variable {d : Document} {f : Field} {e : Node} {es : List Node} {h : Headers}
  {value : Field → Option Text}

/-! ## Fields of addresses -/

/-- Is the value of the field a list of addresses? -/
def Field.IsList (f : Field) : Prop := f = .recipients ∨ f = .cc ∨ f = .bcc

instance (f : Field) : Decidable f.IsList := inferInstanceAs (Decidable (_ ∨ _))

/-- Is there a value with an address? -/
def HasAddress (value : Option Text) : Prop := ∃ v ∈ value, addresses v ≠ []

theorem ne_nil_of_addresses {v : Text} (hv : addresses v ≠ []) : v ≠ [] := by
  rintro rfl
  exact hv (by decide)

theorem usable_iff (hf : f.IsList) (v : Text) : usable f v = true ↔ addresses v ≠ [] := by
  have hlist : usable f v = (!v.isEmpty && !(addresses v).isEmpty) := by
    rcases hf with rfl | rfl | rfl <;> rfl
  rw [hlist, Bool.and_eq_true, Bool.not_eq_true', Bool.not_eq_true', List.isEmpty_eq_false_iff,
    List.isEmpty_eq_false_iff]
  exact and_iff_right_of_imp ne_nil_of_addresses

namespace Headers

theorem has_ofLines_iff (hf : f.IsList) :
    (ofLines value).has f = true ↔ HasAddress (value f) := by
  have hlist : ∀ v : Option Text, (!((v.map addresses).getD []).isEmpty) = true ↔ HasAddress v := by
    intro v
    cases v with
    | none => simp [HasAddress]
    | some v => simp [HasAddress]
  rcases hf with rfl | rfl | rfl <;> exact hlist _

theorem has_completed_iff (hf : f.IsList) :
    (h.completed value).has f = true ↔ h.has f = true ∨ HasAddress (value f) := by
  have hlist : ∀ (old : List Text) (v : Option Text),
      (!(if !old.isEmpty then old else (v.map addresses).getD []).isEmpty) = true ↔
        (!old.isEmpty) = true ∨ HasAddress v := by
    intro old v
    cases old <;> cases v <;> simp [HasAddress]
  rcases hf with rfl | rfl | rfl <;> exact hlist _ _

end Headers

/-! ## Elements -/

/-- **An element that counts for a field**: it is marked for it and has a value. -/
def Counts (f : Field) (e : Node) : Prop := isMarked f.markers e = true ∧ labelledValue e ≠ []

/-- **An element with an address for a field.** -/
def GivesAddress (f : Field) (e : Node) : Prop :=
  isMarked f.markers e = true ∧ addresses (labelledValue e) ≠ []

/-- **An element that shadows those behind it**: it counts for the field without an address. -/
def Shadows (f : Field) (e : Node) : Prop := Counts f e ∧ addresses (labelledValue e) = []

instance (f : Field) (e : Node) : Decidable (Counts f e) := inferInstanceAs (Decidable (_ ∧ _))

instance (f : Field) (e : Node) : Decidable (GivesAddress f e) :=
  inferInstanceAs (Decidable (_ ∧ _))

/-- **An element with an address stands in no shadow.** -/
def Unshadowed (f : Field) (es : List Node) : Prop :=
  ∃ before e behind, es = before ++ e :: behind ∧ GivesAddress f e ∧ ∀ e' ∈ before, ¬ Shadows f e'

theorem GivesAddress.counts (h : GivesAddress f e) : Counts f e := ⟨h.1, ne_nil_of_addresses h.2⟩

theorem counts_cases (h : Counts f e) : GivesAddress f e ∨ Shadows f e := by
  by_cases haddress : addresses (labelledValue e) = []
  · exact Or.inr ⟨h, haddress⟩
  · exact Or.inl ⟨h.1, haddress⟩

theorem unshadowed_cons_iff :
    Unshadowed f (e :: es) ↔ GivesAddress f e ∨ (¬ Shadows f e ∧ Unshadowed f es) := by
  constructor
  · rintro ⟨before, e', behind, hsplit, hgives, hbefore⟩
    cases before with
    | nil =>
      rw [List.nil_append, List.cons.injEq] at hsplit
      rw [hsplit.1]
      exact Or.inl hgives
    | cons b bs =>
      rw [List.cons_append, List.cons.injEq] at hsplit
      obtain ⟨rfl, hes⟩ := hsplit
      rw [List.forall_mem_cons] at hbefore
      exact Or.inr ⟨hbefore.1, bs, e', behind, hes, hgives, hbefore.2⟩
  · rintro (hgives | ⟨hno, before, e', behind, rfl, hgives, hbefore⟩)
    · exact ⟨[], e, es, rfl, hgives, fun e' he' => absurd he' List.not_mem_nil⟩
    · exact ⟨e :: before, e', behind, rfl, hgives, List.forall_mem_cons.2 ⟨hno, hbefore⟩⟩

theorem markedValue?_cons_of_counts (h : Counts f e) :
    markedValue? (e :: es) f.markers = some (labelledValue e) := by
  unfold markedValue?
  rw [List.filter_cons_of_pos h.1, List.map_cons, List.find?_cons_of_pos (by simpa using h.2)]

theorem markedValue?_cons_of_not_counts (h : ¬ Counts f e) :
    markedValue? (e :: es) f.markers = markedValue? es f.markers := by
  unfold markedValue?
  cases hmarked : isMarked f.markers e with
  | false => rw [List.filter_cons_of_neg (by rw [hmarked]; exact Bool.false_ne_true)]
  | true =>
    have hvalue : labelledValue e = [] := by
      by_contra hne
      exact h ⟨hmarked, hne⟩
    rw [List.filter_cons_of_pos hmarked, List.map_cons,
      List.find?_cons_of_neg (by rw [hvalue]; simp)]

/-- **What is found for a field has an address** if and only if an element with one stands in no
shadow. -/
theorem hasAddress_markedValue?_iff :
    HasAddress (markedValue? es f.markers) ↔ Unshadowed f es := by
  induction es with
  | nil =>
    constructor
    · rintro ⟨v, hv, -⟩
      cases hv
    · rintro ⟨before, e, behind, hsplit, -⟩
      exact absurd hsplit (by simp)
  | cons e es ih =>
    rw [unshadowed_cons_iff]
    by_cases hcounts : Counts f e
    · have hfirst : HasAddress (some (labelledValue e)) ↔ GivesAddress f e := by
        simp [HasAddress, GivesAddress, hcounts.1]
      rw [markedValue?_cons_of_counts hcounts, hfirst]
      refine ⟨Or.inl, fun h => ?_⟩
      rcases h with hgives | hbehind
      · exact hgives
      · exact (counts_cases hcounts).resolve_right hbehind.1
    · rw [markedValue?_cons_of_not_counts hcounts, ih]
      constructor
      · exact fun h => Or.inr ⟨fun hshadows => hcounts hshadows.1, h⟩
      · exact fun h => (h.resolve_left fun hgives => hcounts hgives.counts).2

theorem markedValue?_eq_none_iff :
    markedValue? es f.markers = none ↔ ∀ e ∈ es, ¬ Counts f e := by
  induction es with
  | nil => simp [markedValue?]
  | cons e es ih =>
    rw [List.forall_mem_cons]
    by_cases hcounts : Counts f e
    · rw [markedValue?_cons_of_counts hcounts]
      simp [hcounts]
    · rw [markedValue?_cons_of_not_counts hcounts, ih, and_iff_right hcounts]

/-! ## Lines of text -/

/-- A line without an address leaves the field to those behind it. -/
theorem hasAddress_firstUsable_iff (hf : f.IsList) {lines : List (Field × Text)} :
    HasAddress (firstUsable lines f) ↔ ∃ l ∈ lines, l.1 = f ∧ addresses l.2 ≠ [] := by
  have hfills : ∀ l : Field × Text,
      (l.1 == f && usable f l.2) = true ↔ l.1 = f ∧ addresses l.2 ≠ [] := by
    intro l
    rw [Bool.and_eq_true, beq_iff_eq, usable_iff hf]
  unfold firstUsable
  cases hfind : lines.find? fun l => l.1 == f && usable f l.2 with
  | none =>
    refine iff_of_false (fun ⟨v, hv, _⟩ => nomatch hv) ?_
    rintro ⟨l, hl, hfill⟩
    exact List.find?_eq_none.1 hfind l hl ((hfills l).2 hfill)
  | some l =>
    have hfound := List.find?_some hfind
    have hfill := (hfills l).1 hfound
    exact iff_of_true ⟨l.2, rfl, hfill.2⟩ ⟨l, List.mem_of_find?_eq_some hfind, hfill⟩

/-- **When a mail has recipients** of a kind: an element with an address for them stands in no
shadow, or no element counts for the sender or the subject and a line of the text has an address
for them. -/
theorem has_recipients_iff (hf : f.IsList) (d : Document) :
    (headers d).has f = true ↔ Unshadowed f d.elements ∨
      ((∀ e ∈ d.elements, ¬ Counts .sender e ∧ ¬ Counts .subject e) ∧
        ∃ l ∈ labelLines d.body.innerText, l.stated = f ∧ addresses l.value ≠ []) := by
  have hmarked : (markedHeaders d).has f = true ↔ Unshadowed f d.elements := by
    rw [markedHeaders_eq, Headers.has_ofLines_iff hf, hasAddress_markedValue?_iff]
  have hunled : ((markedHeaders d).has .sender || (markedHeaders d).has .subject) = false ↔
      ∀ e ∈ d.elements, ¬ Counts .sender e ∧ ¬ Counts .subject e := by
    have hsender : (markedHeaders d).has .sender =
        (markedValue? d.elements Field.sender.markers).isSome := by rw [markedHeaders_eq]; rfl
    have hsubject : (markedHeaders d).has .subject =
        (markedValue? d.elements Field.subject.markers).isSome := by rw [markedHeaders_eq]; rfl
    rw [Bool.or_eq_false_iff, hsender, hsubject, Option.isSome_eq_false_iff,
      Option.isSome_eq_false_iff, Option.isNone_iff_eq_none, Option.isNone_iff_eq_none,
      markedValue?_eq_none_iff, markedValue?_eq_none_iff]
    exact forall₂_and.symm
  have hlines : HasAddress (firstUsable
      ((labelLines d.body.innerText).map fun l => (l.read, l.value)) f) ↔
      ∃ l ∈ labelLines d.body.innerText, l.stated = f ∧ addresses l.value ≠ [] := by
    have hother : f ≠ .subject ∧ f ≠ .date := by
      rcases hf with rfl | rfl | rfl <;> exact ⟨nofun, nofun⟩
    rw [firstUsable_read (fun l => labelled_of_mem) (Or.inl hother),
      hasAddress_firstUsable_iff hf]
    simp
  rw [headers_eq_filled, ← hunled, ← hlines, ← hmarked]
  unfold filled
  simp only
  cases (markedHeaders d).has .sender || (markedHeaders d).has .subject with
  | true => rw [if_pos rfl, or_iff_left fun h => Bool.noConfusion h.1]
  | false => rw [if_neg Bool.false_ne_true, Headers.has_completed_iff hf, and_iff_right rfl]

/-- A page of three divisions, the second of which has `to` in its class by chance. -/
def menuPage (first : Text) : Document :=
  let d := (Document.new "body" []).appendElement 0 "div" [("class", first)]
  let d := (d.appendText 1 "Ann").appendElement 0 "div" [("class", "top")]
  let d := (d.appendText 3 "Menu").appendElement 0 "div" [("class", "to")]
  d.appendText 5 "To: bob@x.org"

theorem has_recipients_iff_line :
    Field.recipients.IsList ∧ (headers (menuPage "name")).has .recipients = true := by
  refine ⟨Or.inl rfl, (has_recipients_iff (Or.inl rfl) _).2 (Or.inr ⟨by decide +kernel, ?_⟩)⟩
  decide +kernel

/-- Where the first division gives the sender, no line is looked at, and the element in the shadow
gives no recipient. -/
theorem has_recipients_shadowed :
    (∃ e ∈ (menuPage "from").elements, GivesAddress .recipients e) ∧
      (headers (menuPage "from")).has .recipients = false := by
  decide +kernel

end HtmlMarkdown.Email
