import HtmlMarkdown.Proofs.Email.Recipients

/-!
# Headers by markup

A field of a mail is looked for by texts in the class of an element, and the first element that has
one of them counts. Where every field has an element of its own, classed by the name of the field,
each field but one can only find its own: `bcc` has `cc` in it, so the copies are also looked for
in the element of the blind copies.

* `markedHeaders_eq`: **each field is found by itself.**
* `markedValue?_eq`: what is found for a field is the value of the first element it may be taken
  from.
* `headers_eq_iff`: **when the headers are read back.**
-/

namespace HtmlMarkdown.Email

open Text

variable {d : Document} {h : Headers} {f g : Field} {e : Node}

/-! ## Headers and their fields -/

/-- All fields. -/
def Field.all : List Field := [.sender, .recipients, .cc, .bcc, .subject, .date]

theorem Field.mem_all (f : Field) : f ∈ Field.all := by cases f <;> decide

/-- The name of a field. -/
def Field.name : Field → Text
  | .sender => "from"
  | .recipients => "to"
  | .cc => "cc"
  | .bcc => "bcc"
  | .subject => "subject"
  | .date => "date"

/-- The texts that a field is looked for by. -/
def Field.markers (f : Field) : List Text := (fieldMarkers.lookup f).getD []

/-- May the field be taken from an element that is classed by the name of the other one? -/
def Field.takes (f g : Field) : Bool := f.markers.any fun key => Text.contains key g.name

/-- **A field is taken from its own element**, and the copies from the blind copies' one. -/
theorem Field.takes_eq (f g : Field) : f.takes g = (g == f || (f == .cc && g == .bcc)) := by
  cases f <;> cases g <;> rfl

namespace Headers

/-- The value of a field on one line. -/
def line (h : Headers) : Field → Text
  | .sender => h.sender.getD []
  | .recipients => listed h.recipients
  | .cc => listed h.cc
  | .bcc => listed h.bcc
  | .subject => h.subject.getD []
  | .date => h.date.getD []

/-- The value of a field on one line, if it has one. -/
def line? (h : Headers) (f : Field) : Option Text := if h.has f then some (h.line f) else none

/-- Headers whose fields have the given values. -/
def ofLines (value : Field → Option Text) : Headers where
  sender := value .sender
  recipients := ((value .recipients).map addresses).getD []
  cc := ((value .cc).map addresses).getD []
  bcc := ((value .bcc).map addresses).getD []
  subject := value .subject
  date := value .date

/-- **Headers that can be written as lines**: each value is a single line, trimmed and without a
label before it, the recipients are bare addresses, and there is a sender or a subject. -/
structure WellWritten (h : Headers) : Prop where
  led : h.sender.isSome = true ∨ h.subject.isSome = true
  line_ne_nil : ∀ f, h.has f = true → h.line f ≠ []
  line_feed : ∀ f, h.has f = true → '\n' ∉ h.line f
  line_trim : ∀ f, h.has f = true → Text.trim (h.line f) = h.line f
  line_label : ∀ f, h.has f = true → dropLabel? valueLabels (h.line f) = none
  bare : ∀ a ∈ h.recipients ++ h.cc ++ h.bcc, IsBare a

theorem ofLines_line? (hbare : ∀ a ∈ h.recipients ++ h.cc ++ h.bcc, IsBare a) :
    ofLines h.line? = h := by
  have hlist : ∀ as : List Text, (∀ a ∈ as, IsBare a) →
      ((if !as.isEmpty then some (listed as) else none).map addresses).getD [] = as := by
    intro as has
    cases as with
    | nil => rfl
    | cons a as => exact addresses_listed has
  have hvalue : ∀ value : Option Text,
      (if value.isSome then some (value.getD []) else none) = value := by
    intro value
    cases value <;> rfl
  simp only [List.forall_mem_append] at hbare
  obtain ⟨⟨hrecipients, hcc⟩, hbcc⟩ := hbare
  have hsender : h.line? .sender = h.sender := hvalue h.sender
  have hsubject : h.line? .subject = h.subject := hvalue h.subject
  have hdate : h.line? .date = h.date := hvalue h.date
  have hto : ((h.line? .recipients).map addresses).getD [] = h.recipients := hlist _ hrecipients
  have hcopies : ((h.line? .cc).map addresses).getD [] = h.cc := hlist _ hcc
  have hblind : ((h.line? .bcc).map addresses).getD [] = h.bcc := hlist _ hbcc
  unfold ofLines
  rw [hsender, hsubject, hdate, hto, hcopies, hblind]

end Headers

/-! ## Fields by their elements -/

/-- **The field that an element is for**: its only attribute is the class, which is the name of
the field. -/
def fieldOf? (e : Node) : Option Field :=
  match e.data with
  | .element _ [(name, value)] =>
    if name = "class" then Field.all.find? fun f => f.name == value else none
  | _ => none

/-- The fields that elements of a document are for, in document order. -/
def fieldsIn (d : Document) : List Field := d.elements.filterMap fieldOf?

/-- **A document that shows headers**: each field that has a value has one element of its own,
with the value as its text, and no other element could be taken for a field. -/
structure Shows (d : Document) (h : Headers) : Prop where
  once : (fieldsIn d).Perm (Field.all.filter h.has)
  own : ∀ e ∈ d.elements, ∀ f ∈ fieldOf? e, e.innerText = h.line f
  other : ∀ e ∈ d.elements, fieldOf? e = none → ∀ f ∈ Field.all, isMarked f.markers e = false

theorem data_of_fieldOf? (he : fieldOf? e = some f) :
    ∃ tag, e.data = .element tag [("class", f.name)] := by
  unfold fieldOf? at he
  split at he
  · rename_i tag name value hdata
    split at he
    · rename_i hname
      have hvalue := List.find?_some he
      exact ⟨tag, by rw [hdata, hname, eq_of_beq hvalue]⟩
    · cases he
  · cases he

/-- An element that is for a field is marked for the fields that are taken from it. -/
theorem isMarked_eq (he : fieldOf? e = some f) (g : Field) :
    isMarked g.markers e = g.takes f := by
  obtain ⟨tag, hdata⟩ := data_of_fieldOf? he
  have hclass : e.attr? "class" = some f.name := by
    have hname : sameAscii "class".toList "class".toList = true := by decide
    unfold Node.attr?
    simp only [hdata, List.find?_cons, hname, Option.map_some]
  have hid : e.attr? "id" = none := by
    have hname : sameAscii "class".toList "id".toList = false := by decide
    unfold Node.attr?
    simp only [hdata, List.find?_cons, hname, List.find?_nil, Option.map_none]
  have hlower : Attributes.markers (some f.name) none = f.name := by cases f <;> decide
  unfold isMarked Field.takes
  rw [hclass, hid, hlower]

/-- A line without a label is the value that an element with this text gives. -/
theorem labelledValue_eq {t : Text} (htext : e.innerText = t) (hfeed : '\n' ∉ t)
    (htrim : trim t = t) (hlabel : dropLabel? valueLabels t = none) : labelledValue e = t := by
  have hreplace : replaceChar '\n' [' '] t = t := by
    have heach : ∀ c ∈ t, (if c = '\n' then [' '] else [c]) = [c] := by
      intro c hc
      refine if_neg ?_
      rintro rfl
      exact hfeed hc
    unfold replaceChar
    rw [List.flatMap_congr heach, List.flatMap_singleton']
  have hstart : trimStart t = t := by
    rw [← htrim]
    exact trimStart_trim t
  unfold labelledValue dropValueLabel
  rw [htext, hreplace, htrim, hstart, hlabel]
  exact htrim

/-- What is found among elements is the value of the first one it may be taken from. -/
theorem markedValue?_elements {es : List Node} {value : Field → Text} (g : Field)
    (hown : ∀ e ∈ es, ∀ f ∈ fieldOf? e, labelledValue e = value f ∧ value f ≠ [])
    (hother : ∀ e ∈ es, fieldOf? e = none → isMarked g.markers e = false) :
    markedValue? es g.markers = ((es.filterMap fieldOf?).find? g.takes).map value := by
  induction es with
  | nil => rfl
  | cons e es ih =>
    obtain ⟨he, hes⟩ := List.forall_mem_cons.1 hown
    obtain ⟨hno, hnos⟩ := List.forall_mem_cons.1 hother
    have ih := ih hes hnos
    unfold markedValue? at ih ⊢
    -- an element counts on the left by its markers and on the right by its field
    cases hf : fieldOf? e with
    | none =>
      rw [List.filterMap_cons_none hf, List.filter_cons_of_neg (by rw [hno hf]; simp), ih]
    | some f =>
      obtain ⟨hvalue, hne⟩ := he f hf
      rw [List.filterMap_cons_some hf]
      have hmark := isMarked_eq hf g
      cases htakes : g.takes f with
      | false =>
        rw [List.filter_cons_of_neg (by rw [hmark, htakes]; simp), ih,
          List.find?_cons_of_neg (by rw [htakes]; simp)]
      | true =>
        rw [List.filter_cons_of_pos (by rw [hmark, htakes]), List.map_cons, hvalue,
          List.find?_cons_of_pos (by simpa using hne), List.find?_cons_of_pos htakes]
        rfl

/-! ## Each field by itself -/

section

variable {value : Field → Option Text} {fs : List Field}

/-- Headers with one more field, if it has a value. -/
def Headers.fill (value : Field → Option Text) (h : Headers) (f : Field) : Headers :=
  match value f with
  | some v => h.put f v
  | none => h

/-- A field is filled as if its value had been there from the start. -/
theorem Headers.fill_ofLines (hf : f ∉ fs) :
    (ofLines fun g => if g ∈ fs then value g else none).fill value f =
      ofLines fun g => if g ∈ fs ++ [f] then value g else none := by
  -- filling sets the one field and can never empty it: without a value it has to be empty before
  have hrest : ∀ g, g ≠ f → (g ∈ fs ++ [f] ↔ g ∈ fs) := by
    intro g hg
    rw [List.mem_append, List.mem_singleton, or_iff_left hg]
  have hself : f ∈ fs ++ [f] := List.mem_append_right _ List.mem_cons_self
  unfold fill
  cases hv : value f with
  | none =>
    have hsame : (fun g => if g ∈ fs ++ [f] then value g else none) =
        fun g => if g ∈ fs then value g else none := by
      funext g
      by_cases hg : g = f
      · rw [hg, if_neg hf, if_pos hself, hv]
      · simp only [hrest g hg]
    rw [hsame]
  | some v => cases f <;> simp [ofLines, put, hf, hv, hrest]

theorem Headers.foldl_fill (value : Field → Option Text) (hfs : fs.Nodup) :
    fs.foldl (fill value) {} = ofLines fun g => if g ∈ fs then value g else none := by
  induction fs using List.reverseRecOn with
  | nil => rfl
  | append_singleton fs f ih =>
    obtain ⟨hfs, -, hf⟩ := List.nodup_append.1 hfs
    have hnot : f ∉ fs := fun hmem => hf f hmem f List.mem_cons_self rfl
    rw [List.foldl_append, ih hfs, List.foldl_cons, List.foldl_nil, fill_ofLines hnot]

end

/-- **Each field is found by itself**, whatever is found for the others. -/
theorem markedHeaders_eq (d : Document) :
    markedHeaders d = Headers.ofLines fun f => markedValue? d.elements f.markers := by
  have hmarkers : fieldMarkers = (fieldMarkers.map (·.1)).map fun f => (f, f.markers) := rfl
  have hmem : ∀ f, f ∈ fieldMarkers.map (·.1) := by
    intro f
    cases f <;> decide
  have hnodup : (fieldMarkers.map (·.1)).Nodup := by decide
  have hfold := Headers.foldl_fill (fun f => markedValue? d.elements f.markers) hnodup
  simp only [hmem, if_true] at hfold
  rw [← hfold]
  unfold markedHeaders
  rw [hmarkers, List.foldl_map]
  rfl

/-- The first of two items of a list is the one that the list has before the other. -/
theorem find?_either {α : Type} [DecidableEq α] {a b : α} {l : List α} (hne : a ≠ b)
    (hl : l.Nodup) (hb : b ∈ l) :
    ([a, b].Sublist l ∧ l.find? (fun x => x == a || x == b) = some a) ∨
      (¬ [a, b].Sublist l ∧ l.find? (fun x => x == a || x == b) = some b) := by
  -- a second b behind the a would make [a, b] a sublist although the first b comes earlier
  induction l with
  | nil => cases hb
  | cons x l ih =>
    obtain ⟨hx, hl⟩ := List.nodup_cons.1 hl
    by_cases hxa : x = a
    · subst hxa
      have hbl : b ∈ l := (List.mem_cons.1 hb).resolve_left (Ne.symm hne)
      exact Or.inl ⟨(List.singleton_sublist.2 hbl).cons_cons x, List.find?_cons_of_pos (by simp)⟩
    · have hskip : [a, b].Sublist (x :: l) ↔ [a, b].Sublist l := by
        rw [List.sublist_cons_iff]
        refine or_iff_left ?_
        rintro ⟨r, hr, -⟩
        cases hr
        exact hxa rfl
      rw [hskip]
      by_cases hxb : x = b
      · subst hxb
        have hnot : ¬ [a, x].Sublist l := fun hsub => hx (hsub.subset (by simp))
        exact Or.inr ⟨hnot, List.find?_cons_of_pos (by simp)⟩
      · rw [List.find?_cons_of_neg (by simp [hxa, hxb])]
        exact ih hl ((List.mem_cons.1 hb).resolve_left (Ne.symm hxb))

namespace Shows

theorem mem_fieldsIn (hd : Shows d h) : f ∈ fieldsIn d ↔ h.has f = true := by
  rw [hd.once.mem_iff, List.mem_filter, and_iff_right f.mem_all]

theorem fieldsIn_nodup (hd : Shows d h) : (fieldsIn d).Nodup := by
  have hall : Field.all.Nodup := by decide
  exact hd.once.nodup_iff.2 (hall.filter _)

/-- **What is found for a field** is the value of the first element it may be taken from. -/
theorem markedValue?_eq (hd : Shows d h) (hw : h.WellWritten) (g : Field) :
    markedValue? d.elements g.markers = ((fieldsIn d).find? g.takes).map h.line := by
  refine markedValue?_elements g ?_ fun e he hnone => hd.other e he hnone g g.mem_all
  intro e he f hf
  have hhas : h.has f = true := hd.mem_fieldsIn.1 (List.mem_filterMap.2 ⟨e, he, hf⟩)
  exact ⟨labelledValue_eq (hd.own e he f hf) (hw.line_feed f hhas) (hw.line_trim f hhas)
    (hw.line_label f hhas), hw.line_ne_nil f hhas⟩

/-- A field that can only be taken from its own element is found there. -/
theorem find?_own (hd : Shows d h) (hg : ∀ f ∈ fieldsIn d, g.takes f = (f == g)) :
    (fieldsIn d).find? g.takes = if h.has g then some g else none := by
  cases hfind : (fieldsIn d).find? g.takes with
  | some f =>
    have hmem := List.mem_of_find?_eq_some hfind
    have htakes := List.find?_some hfind
    rw [hg f hmem] at htakes
    cases eq_of_beq htakes
    rw [if_pos (hd.mem_fieldsIn.1 hmem)]
  | none =>
    have hno : ¬ h.has g = true := by
      intro hhas
      have hmem := hd.mem_fieldsIn.2 hhas
      refine List.find?_eq_none.1 hfind g hmem ?_
      rw [hg g hmem]
      exact beq_self_eq_true g
    rw [if_neg hno]

theorem find?_of_ne (hd : Shows d h) (hg : g ≠ .cc) :
    (fieldsIn d).find? g.takes = if h.has g then some g else none := by
  refine hd.find?_own fun f _ => ?_
  rw [Field.takes_eq, beq_false_of_ne hg, Bool.false_and, Bool.or_false]

theorem find?_cc_of_no_bcc (hd : Shows d h) (hbcc : ¬ h.has .bcc = true) :
    (fieldsIn d).find? Field.cc.takes = if h.has .cc then some .cc else none := by
  refine hd.find?_own fun f hf => ?_
  have hne : f ≠ .bcc := by
    rintro rfl
    exact hbcc (hd.mem_fieldsIn.1 hf)
  rw [Field.takes_eq, beq_false_of_ne hne, Bool.and_false, Bool.or_false]

/-- The copies are found in the first of the elements for copies and for blind copies. -/
theorem find?_cc_of_bcc (hd : Shows d h) (hbcc : h.has .bcc = true) :
    ([Field.cc, .bcc].Sublist (fieldsIn d) ∧ (fieldsIn d).find? Field.cc.takes = some .cc) ∨
      (¬ [Field.cc, .bcc].Sublist (fieldsIn d) ∧
        (fieldsIn d).find? Field.cc.takes = some .bcc) := by
  have htakes : Field.cc.takes = fun f => f == .cc || f == .bcc := by
    funext f
    exact Field.takes_eq .cc f
  rw [htakes]
  exact find?_either (by decide) hd.fieldsIn_nodup (hd.mem_fieldsIn.2 hbcc)

end Shows

/-- Where the copies are found in their own element, the headers are read back. -/
theorem markedHeaders_own (hd : Shows d h) (hw : h.WellWritten)
    (hcc : (fieldsIn d).find? Field.cc.takes = if h.has .cc then some .cc else none) :
    markedHeaders d = h := by
  have hown : ∀ g, (fieldsIn d).find? g.takes = if h.has g then some g else none := by
    intro g
    by_cases hg : g = .cc
    · rw [hg, hcc]
    · exact hd.find?_of_ne hg
  have hlines : (fun g => markedValue? d.elements g.markers) = h.line? := by
    funext g
    rw [hd.markedValue?_eq hw, hown g, Headers.line?]
    cases h.has g <;> rfl
  rw [markedHeaders_eq, hlines, Headers.ofLines_line? hw.bare]

/-- Where the copies are found in the element of the blind copies, they are these. -/
theorem markedHeaders_blind (hd : Shows d h) (hw : h.WellWritten)
    (hblind : (fieldsIn d).find? Field.cc.takes = some .bcc) :
    markedHeaders d = { h with cc := h.bcc } := by
  have hbcc : h.has .bcc = true := hd.mem_fieldsIn.1 (List.mem_of_find?_eq_some hblind)
  have hlines : (fun g => markedValue? d.elements g.markers) =
      ({ h with cc := h.bcc } : Headers).line? := by
    funext g
    rw [hd.markedValue?_eq hw]
    by_cases hg : g = .cc
    · subst hg
      rw [hblind]
      exact (if_pos hbcc).symm
    · -- no other field reads what the headers have for the copies
      have hsame : ({ h with cc := h.bcc } : Headers).line? g = h.line? g := by
        cases g <;> first | rfl | exact absurd rfl hg
      rw [hd.find?_of_ne hg, hsame, Headers.line?]
      cases h.has g <;> rfl
  have hbare : ∀ a ∈ h.recipients ++ h.bcc ++ h.bcc, IsBare a := by
    intro a ha
    refine hw.bare a ?_
    simp only [List.mem_append] at ha ⊢
    tauto
  rw [markedHeaders_eq, hlines, Headers.ofLines_line? hbare]

/-- With a sender or a subject by markup, the text of the mail is not looked at. -/
theorem headers_of_marked {h' : Headers} (hmarked : markedHeaders d = h')
    (hled : h'.sender.isSome = true ∨ h'.subject.isSome = true) : headers d = h' := by
  unfold headers
  rw [hmarked]
  refine if_neg ?_
  rw [Bool.and_eq_true, Option.isNone_iff_eq_none, Option.isNone_iff_eq_none]
  rintro ⟨hsender, hsubject⟩
  rcases hled with hled | hled
  · rw [hsender] at hled
    cases hled
  · rw [hsubject] at hled
    cases hled

/-- **When the headers are read back**: there are no blind copies, or the copies are the same,
or their element comes before that of the blind copies. In any other case only the copies are
wrong: they are the blind copies. -/
theorem headers_eq_iff (hw : h.WellWritten) (hd : Shows d h) :
    (headers d = h ↔ h.bcc = [] ∨ h.cc = h.bcc ∨ [Field.cc, .bcc].Sublist (fieldsIn d)) ∧
      (headers d = h ∨ headers d = { h with cc := h.bcc }) := by
  -- only blind copies can be mistaken for copies, and only by coming first
  by_cases hbcc : h.has .bcc = true
  · rcases hd.find?_cc_of_bcc hbcc with ⟨hbefore, hfind⟩ | ⟨hnot, hfind⟩
    · have hcc : h.has .cc = true := hd.mem_fieldsIn.1 (List.mem_of_find?_eq_some hfind)
      have hown := markedHeaders_own hd hw (hfind.trans (if_pos hcc).symm)
      have heq := headers_of_marked hown hw.led
      exact ⟨⟨fun _ => Or.inr (Or.inr hbefore), fun _ => heq⟩, Or.inl heq⟩
    · have heq := headers_of_marked (markedHeaders_blind hd hw hfind) hw.led
      have hne : h.bcc ≠ [] := by
        intro hnil
        rw [Headers.has, hnil] at hbcc
        cases hbcc
      refine ⟨⟨fun hback => ?_, fun hcases => ?_⟩, Or.inr heq⟩
      · have hsame : { h with cc := h.bcc } = h := heq.symm.trans hback
        exact Or.inr (Or.inl (congrArg Headers.cc hsame).symm)
      · rcases hcases with hnil | hsame | hbefore
        · exact absurd hnil hne
        · exact heq.trans (congrArg (fun copies => { h with cc := copies }) hsame.symm)
        · exact absurd hbefore hnot
  · have heq := headers_of_marked (markedHeaders_own hd hw (hd.find?_cc_of_no_bcc hbcc)) hw.led
    have hnil : h.bcc = [] := by
      simpa [Headers.has] using hbcc
    exact ⟨⟨fun _ => Or.inl hnil, fun _ => heq⟩, Or.inl heq⟩

/-- A mail with a sender, copies and blind copies. -/
def sent : Headers where
  sender := some "Ann <ann@x.org>"
  cc := ["bob@x.org", "eve@x.org"]
  bcc := ["joe@x.org"]

/-- It is shown in three elements, the copies before the blind copies. -/
def sentPage : Document :=
  let d := (Document.new "body" []).appendElement 0 "p" [("class", "cc")]
  let d := (d.appendText 1 "bob@x.org, eve@x.org").appendElement 0 "div" [("class", "from")]
  let d := (d.appendText 3 "Ann <ann@x.org>").appendElement 0 "span" [("class", "bcc")]
  d.appendText 5 "joe@x.org"

theorem headers_eq_iff_sent :
    sent.WellWritten ∧ Shows sentPage sent ∧ sent.bcc ≠ [] ∧ headers sentPage = sent := by
  have hw : sent.WellWritten := by
    refine ⟨by decide, ?_, ?_, ?_, ?_, by decide⟩ <;> intro f <;> cases f <;> decide
  have hd : Shows sentPage sent := ⟨by decide, by decide, by decide⟩
  exact ⟨hw, hd, by decide, (headers_eq_iff hw hd).1.2 (Or.inr (Or.inr (by decide)))⟩

/-- A mail with a sender and blind copies. -/
def blind : Headers where
  sender := some "ann@x.org"
  bcc := ["eve@x.org"]

/-- It is shown in two elements. -/
def blindPage : Document :=
  let d := (Document.new "body" []).appendElement 0 "div" [("class", "from")]
  let d := (d.appendText 1 "ann@x.org").appendElement 0 "div" [("class", "bcc")]
  d.appendText 3 "eve@x.org"

/-- The blind copies are read as copies, too. -/
theorem headers_blind_copies :
    blind.WellWritten ∧ Shows blindPage blind ∧
      headers blindPage = { blind with cc := ["eve@x.org"] } ∧ headers blindPage ≠ blind := by
  have hw : blind.WellWritten := by
    refine ⟨by decide, ?_, ?_, ?_, ?_, by decide⟩ <;> intro f <;> cases f <;> decide
  exact ⟨hw, ⟨by decide, by decide, by decide⟩, by decide, by decide⟩

end HtmlMarkdown.Email
