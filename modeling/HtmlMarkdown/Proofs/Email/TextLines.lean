import HtmlMarkdown.Proofs.Email.Headers
import HtmlMarkdown.Proofs.Text.Word

/-!
# Headers by lines of text

Where the markup gives neither a sender nor a subject, the labelled lines of the text fill what the
markup left open. A label is found in either case of its letters, but it is taken for a field by
its lower-case form, and the long s, which is found as an s, has no other form: a subject whose
label is written with it is taken for a date.

* `fieldOfLabel_written`: **the field that a written label is taken for.**
* `foldl_fillLine`: **the first line that can fill a field fills it**, whatever the other lines are.
* `headers_eq_stated_iff`: when the headers are those that the labels state.
-/

namespace HtmlMarkdown.Email

open Text

variable {c w : Char} {t label written : Text} {h : Headers} {f : Field}

/-! ## Labels -/

/-- A letter of a label: in lower case, and not the k, which a sign folds to. -/
def isLabelLetter (w : Char) : Bool := w.isLower && w != 'k'

/-- Only the long s is found as a letter that it is not the lower-case form of. -/
theorem lowerChar_of_foldChar (hfold : foldChar c = w) (hw : isLabelLetter w = true)
    (hc : c ≠ 'ſ') :
    c ≠ 'Σ' ∧ lowerChar c = [w] := by
  obtain ⟨hletter, hsign⟩ : w.isLower = true ∧ w ≠ 'k' := by simpa [isLabelLetter] using hw
  have hlower : c.toLower = w := by
    unfold foldChar at hfold
    rw [if_neg hc] at hfold
    split at hfold
    · exact absurd hfold.symm hsign
    · exact hfold
  have hascii : c.toNat < 128 := by
    by_cases hupper : c.val ≥ 'A'.val ∧ c.val ≤ 'Z'.val
    · have hle : c.val.toNat ≤ 'Z'.val.toNat := hupper.2
      exact Nat.lt_of_le_of_lt hle (by decide)
    · have hsame : c.toLower = c := by
        unfold Char.toLower
        rw [dif_neg hupper]
      rw [← hlower, hsame] at hletter
      unfold Char.isLower at hletter
      rw [Bool.and_eq_true, decide_eq_true_iff, decide_eq_true_iff] at hletter
      have hle : c.val.toNat ≤ 'z'.val.toNat := hletter.2
      exact Nat.lt_of_le_of_lt hle (by decide)
  constructor
  · rintro rfl
    exact absurd hascii (by decide)
  · unfold lowerChar
    rw [if_pos hascii, hlower]

theorem lowerFrom_of_folds : ∀ {t : Text}, (t.map foldChar).all isLabelLetter = true →
    (∀ c ∈ t, c ≠ 'ſ') → ∀ before, lowerFrom before t = t.map foldChar := by
  intro t
  induction t with
  | nil => intro _ _ _; rfl
  | cons c cs ih =>
    intro hletters hlong before
    rw [List.map_cons, List.all_cons, Bool.and_eq_true] at hletters
    rw [List.forall_mem_cons] at hlong
    obtain ⟨hsigma, hlower⟩ := lowerChar_of_foldChar rfl hletters.1 hlong.1
    rw [lowerFrom, if_neg hsigma, hlower, ih hletters.2 hlong.2]
    rfl

theorem fieldOfLabel_congr {t u : Text} (h : lower t = lower u) :
    fieldOfLabel t = fieldOfLabel u := by
  unfold fieldOfLabel
  rw [h]

/-- The labels in their letters. -/
theorem lineLabels_letters : ∀ label ∈ lineLabels,
    label.all isLabelLetter = true ∧ 's' ∉ label.tail ∧ lower label = label := by
  decide +kernel

/-- The labels that start with an s, and what they are with a long one. -/
theorem lineLabels_long : ∀ label ∈ lineLabels, label.head? = some 's' →
    lower ('ſ' :: label.tail) = 'ſ' :: label.tail ∧
      fieldOfLabel ('ſ' :: label.tail) = .date ∧
      (label = "subject" ∨ fieldOfLabel label = .date) := by
  decide +kernel

/-- **The field that a written label is taken for**: that of the label, unless it is a subject
whose first letter is a long s. -/
theorem fieldOfLabel_written (hlabel : written.map foldChar ∈ lineLabels) :
    fieldOfLabel written =
      if written.map foldChar = "subject" ∧ written.head? = some 'ſ' then .date
      else fieldOfLabel (written.map foldChar) := by
  obtain ⟨hletters, htail, hlower⟩ := lineLabels_letters _ hlabel
  cases written with
  | nil => exact (if_neg fun h => nomatch h.2).symm
  | cons c cs =>
    -- behind the first letter there is no s, so no long one either
    have hlong : ∀ d ∈ cs, d ≠ 'ſ' := by
      rintro d hd rfl
      exact htail (List.mem_map.2 ⟨'ſ', hd, rfl⟩)
    by_cases hc : c = 'ſ'
    · subst hc
      obtain ⟨hform, hdate, hsubject⟩ := lineLabels_long _ hlabel rfl
      have hrest : ∀ before, lowerFrom before cs = cs.map foldChar :=
        lowerFrom_of_folds (Bool.and_eq_true_iff.1 hletters).2 hlong
      have hread : fieldOfLabel ('ſ' :: cs) = .date := by
        rw [← hdate]
        refine fieldOfLabel_congr ?_
        rw [hform]
        exact congrArg ('ſ' :: ·) (hrest ['ſ'])
      rw [hread]
      split
      · rfl
      · rename_i hnot
        exact (hsubject.resolve_left fun h => hnot ⟨h, rfl⟩).symm
    · have hfirst : ¬ (c :: cs).head? = some 'ſ' := fun h => hc (Option.some.inj h)
      rw [if_neg fun h => hfirst h.2]
      refine fieldOfLabel_congr ?_
      rw [hlower]
      exact lowerFrom_of_folds hletters (List.forall_mem_cons.2 ⟨hc, hlong⟩) []

/-! ## Labelled lines -/

/-- A labelled line: the label as it is looked for, as it is written, and the value. -/
structure LabelLine where
  label : Text
  written : Text
  value : Text

namespace LabelLine

/-- The field that the label states. -/
def stated (l : LabelLine) : Field := fieldOfLabel l.label

/-- The field that the line is taken for. -/
def read (l : LabelLine) : Field := fieldOfLabel l.written

/-- A subject written with a long s. -/
def IsLong (l : LabelLine) : Prop := l.label = "subject" ∧ l.written.head? = some 'ſ'

instance (l : LabelLine) : Decidable l.IsLong := inferInstanceAs (Decidable (_ ∧ _))

/-- The label is one of those that are looked for, and it is written in either case. -/
structure Labelled (l : LabelLine) : Prop where
  mem : l.label ∈ lineLabels
  folds : l.written.map foldChar = l.label

/-- **A line is taken for what its label states**, unless it is a subject with a long s. -/
theorem read_eq {l : LabelLine} (h : l.Labelled) :
    l.read = if l.IsLong then .date else l.stated := by
  have hmem : l.written.map foldChar ∈ lineLabels := by
    rw [h.folds]
    exact h.mem
  have hfield := fieldOfLabel_written hmem
  rw [h.folds] at hfield
  exact hfield

end LabelLine

/-- Read a labelled line that starts here, with the text behind it. -/
def labelLine? (before : Option Char) (t : Text) : Option (LabelLine × Text) := do
  guard (Text.atLineStart before)
  let t := Text.trimStart t
  let (label, rest) ← dropLabel? lineLabels t
  let rest := rest.dropWhile fun c => c == ' ' || c == '\t'
  return (⟨label, t.take label.length, Text.trim (rest.takeWhile (· != '\n'))⟩,
    rest.dropWhile (· != '\n'))

/-- All labelled lines from here on, in order; `skip` characters belong to the line before. -/
def labelLinesFrom : Option Char → Nat → Text → List LabelLine
  | _, _, [] => []
  | _, skip + 1, c :: cs => labelLinesFrom (some c) skip cs
  | before, 0, c :: cs =>
    match labelLine? before (c :: cs) with
    | some (line, rest) => line :: labelLinesFrom (some c) (cs.length - rest.length) cs
    | none => labelLinesFrom (some c) 0 cs

/-- **The labelled lines of a text**, in order. -/
def labelLines (t : Text) : List LabelLine := labelLinesFrom none 0 t

theorem fieldLine?_eq (before : Option Char) (t : Text) :
    (fieldLine? before t).map (fun m => (m.1, Text.trim m.2.1, m.2.2)) =
      (labelLine? before t).map fun m => (m.1.read, m.1.value, m.2) := by
  unfold fieldLine? labelLine?
  cases Text.atLineStart before with
  | false => rfl
  | true =>
    simp only [guard, if_true]
    cases dropLabel? lineLabels (trimStart t) <;> rfl

/-- The lines that are read are the labelled ones. -/
theorem fieldLines_eq (t : Text) :
    fieldLines t = (labelLines t).map fun l => (l.read, l.value) := by
  have key : ∀ (t : Text) (before : Option Char) (skip : Nat), fieldLinesFrom before skip t =
      (labelLinesFrom before skip t).map fun l => (l.read, l.value) := by
    intro t
    induction t with
    | nil => intro before skip; cases skip <;> rfl
    | cons c cs ih =>
      intro before skip
      cases skip with
      | succ skip => exact ih (some c) skip
      | zero =>
        have hline := fieldLine?_eq before (c :: cs)
        rw [fieldLinesFrom, labelLinesFrom]
        cases hfield : fieldLine? before (c :: cs) with
        | none =>
          cases hlabel : labelLine? before (c :: cs) with
          | none => exact ih (some c) 0
          | some m =>
            rw [hfield, hlabel] at hline
            cases hline
        | some m =>
          cases hlabel : labelLine? before (c :: cs) with
          | none =>
            rw [hfield, hlabel] at hline
            cases hline
          | some m' =>
            rw [hfield, hlabel] at hline
            simp only [Option.map_some, Option.some.injEq, Prod.mk.injEq] at hline
            obtain ⟨hread, hvalue, hrest⟩ := hline
            simp only [List.map_cons, hread, hvalue, hrest, ih]
  exact key t none 0

/-- Behind a word, what was read of the text folds to it. -/
theorem map_foldChar_take {word rest : Text} (h : dropWord? word t = some rest) :
    (t.take word.length).map foldChar = word := by
  obtain ⟨written, rfl, rfl⟩ := dropWord?_eq_some_iff.1 h
  rw [List.length_map, List.take_left]

theorem exists_of_dropLabel? {labels : List Text} {m : Text × Text}
    (h : dropLabel? labels t = some m) :
    m.1 ∈ labels ∧ ∃ rest, dropWord? m.1 t = some rest := by
  unfold dropLabel? at h
  cases hword : dropAnyWord? labels t with
  | none =>
    rw [hword] at h
    cases h
  | some found =>
    obtain ⟨label, rest⟩ := found
    have hlabel : m.1 = label := by
      rw [hword] at h
      simp only [Option.bind_eq_bind, Option.bind_some] at h
      obtain ⟨behind, -, hm⟩ := Option.bind_eq_some_iff.1 h
      cases hm
      rfl
    rw [hlabel]
    obtain ⟨label', hmem, hdrop⟩ := List.exists_of_findSome?_eq_some hword
    obtain ⟨rest', hrest, hpair⟩ := Option.map_eq_some_iff.1 hdrop
    cases hpair
    exact ⟨hmem, rest, hrest⟩

theorem labelled_of_labelLine? {before : Option Char} {m : LabelLine × Text}
    (h : labelLine? before t = some m) : m.1.Labelled := by
  unfold labelLine? at h
  cases hstart : Text.atLineStart before with
  | false =>
    rw [hstart] at h
    cases h
  | true =>
    cases hdrop : dropLabel? lineLabels (trimStart t) with
    | none =>
      rw [hstart] at h
      simp only [guard, if_true, hdrop] at h
      cases h
    | some found =>
      rw [hstart] at h
      simp only [guard, if_true, hdrop] at h
      cases h
      obtain ⟨hmem, rest, hrest⟩ := exists_of_dropLabel? hdrop
      exact ⟨hmem, map_foldChar_take hrest⟩

theorem labelled_of_mem {l : LabelLine} (h : l ∈ labelLines t) : l.Labelled := by
  have key : ∀ (t : Text) (before : Option Char) (skip : Nat),
      ∀ l ∈ labelLinesFrom before skip t, l.Labelled := by
    intro t
    induction t with
    | nil =>
      intro before skip l hl
      cases skip <;> cases hl
    | cons c cs ih =>
      intro before skip
      cases skip with
      | succ skip => exact ih (some c) skip
      | zero =>
        rw [labelLinesFrom]
        cases hline : labelLine? before (c :: cs) with
        | none => exact ih (some c) 0
        | some m => exact List.forall_mem_cons.2 ⟨labelled_of_labelLine? hline, ih (some c) _⟩
  exact key t none 0 l h

/-! ## The first line that can fill a field -/

/-- Can the value fill the field? It is not empty, and where addresses are asked for it has one. -/
def usable (f : Field) (value : Text) : Bool :=
  !value.isEmpty &&
    match f with
    | .recipients | .cc | .bcc => !(addresses value).isEmpty
    | .sender | .subject | .date => true

/-- **The value of the first line** that can fill the field. -/
def firstUsable (lines : List (Field × Text)) (f : Field) : Option Text :=
  (lines.find? fun l => l.1 == f && usable f l.2).map (·.2)

namespace Headers

/-- **The headers with their gaps filled**: a field keeps what it has, and is given the value
that there is for it otherwise. -/
def completed (h : Headers) (value : Field → Option Text) : Headers where
  sender := h.sender.or (value .sender)
  recipients :=
    if h.has .recipients then h.recipients else ((value .recipients).map addresses).getD []
  cc := if h.has .cc then h.cc else ((value .cc).map addresses).getD []
  bcc := if h.has .bcc then h.bcc else ((value .bcc).map addresses).getD []
  subject := h.subject.or (value .subject)
  date := h.date.or (value .date)

theorem completed_none (h : Headers) : h.completed (fun _ => none) = h := by
  have hlist : ∀ as : List Text, (if as = [] then [] else as) = as := by
    intro as
    cases as <;> rfl
  simp [completed, has, hlist]

/-- Only for the gaps does it matter what there is. -/
theorem completed_congr {value value' : Field → Option Text}
    (hgaps : ∀ f, h.has f = false → value f = value' f) :
    h.completed value = h.completed value' := by
  have hone : ∀ (old : Option Text) (f : Field), h.has f = old.isSome →
      old.or (value f) = old.or (value' f) := by
    intro old f hold
    cases old with
    | none => rw [hgaps f hold]
    | some v => rfl
  have hmany : ∀ (old : List Text) (f : Field),
      (if h.has f then old else ((value f).map addresses).getD []) =
        if h.has f then old else ((value' f).map addresses).getD [] := by
    intro old f
    cases hf : h.has f with
    | true => rfl
    | false => rw [hgaps f hf]
  unfold completed
  rw [hone h.sender .sender rfl, hone h.subject .subject rfl, hone h.date .date rfl,
    hmany _ .recipients, hmany _ .cc, hmany _ .bcc]

/-- One line fills its field, if it can and there is nothing yet. -/
def fillLine (h : Headers) (line : Field × Text) : Headers :=
  if line.2.isEmpty || h.has line.1 then h else h.put line.1 line.2

/-- With other values for the subject and the date, the headers are the same if and only if the
values are the same where there is a gap. -/
theorem completed_eq_iff {value value' : Field → Option Text} (hsubject : h.has .subject = false)
    (hother : ∀ f, f ≠ .subject → f ≠ .date → value f = value' f) :
    h.completed value = h.completed value' ↔ value .subject = value' .subject ∧
      (h.has .date = true ∨ value .date = value' .date) := by
  constructor
  · intro hsame
    have hsubject' : h.subject = none := by simpa [has] using hsubject
    have hvalue : h.subject.or (value .subject) = h.subject.or (value' .subject) :=
      congrArg subject hsame
    have hdate : h.date.or (value .date) = h.date.or (value' .date) := congrArg date hsame
    rw [hsubject'] at hvalue
    refine ⟨hvalue, ?_⟩
    cases hold : h.date with
    | none =>
      rw [hold] at hdate
      exact Or.inr hdate
    | some v => exact Or.inl (by rw [has, hold]; rfl)
  · rintro ⟨hvalue, hdate⟩
    refine completed_congr fun f hgap => ?_
    by_cases hf : f = .subject
    · rw [hf, hvalue]
    · by_cases hf' : f = .date
      · subst hf'
        rw [hgap] at hdate
        exact hdate.resolve_left Bool.false_ne_true
      · exact hother f hf hf'

/-- A value that is put into a gap is there as if a line before all others had it. -/
theorem completed_put {v : Text} (hv : v.isEmpty = false) (hf : h.has f = false)
    (value : Field → Option Text) :
    (h.put f v).completed value =
      h.completed fun g => if f = g ∧ usable g v = true then some v else value g := by
  have hmany : ∀ g,
      (if addresses v = [] then ((value g).map addresses).getD [] else addresses v) =
        ((if addresses v = [] then value g else some v).map addresses).getD [] := by
    intro g
    split <;> rfl
  cases f <;> simp [has] at hf <;> simp [completed, put, has, usable, hv, hf, hmany]

/-- **What one line does** to the headers that come out in the end. -/
theorem completed_fillLine (h : Headers) (line : Field × Text) (value : Field → Option Text) :
    (h.fillLine line).completed value = h.completed fun f =>
      if line.1 = f ∧ usable f line.2 = true then some line.2 else value f := by
  unfold fillLine
  split
  · rename_i hskip
    refine completed_congr fun f hgap => (if_neg ?_).symm
    rintro ⟨rfl, husable⟩
    rw [hgap, Bool.or_false] at hskip
    unfold usable at husable
    rw [hskip] at husable
    cases husable
  · rename_i hfill
    rw [Bool.or_eq_true, not_or, Bool.not_eq_true, Bool.not_eq_true] at hfill
    exact completed_put hfill.1 hfill.2 value

/-- **What all lines do**: each field is given the value of the first line that can fill it. -/
theorem foldl_fillLine (h : Headers) (lines : List (Field × Text)) :
    lines.foldl fillLine h = h.completed (firstUsable lines) := by
  induction lines generalizing h with
  | nil => exact h.completed_none.symm
  | cons line lines ih =>
    rw [List.foldl_cons, ih, completed_fillLine]
    congr 1
    funext f
    unfold firstUsable
    rw [List.find?_cons]
    by_cases hfirst : line.1 = f ∧ usable f line.2 = true
    · have hbool : (line.1 == f && usable f line.2) = true := by simpa using hfirst
      rw [if_pos hfirst, hbool]
      rfl
    · have hbool : (line.1 == f && usable f line.2) = false := by
        rw [← Bool.not_eq_true]
        simpa using hfirst
      rw [if_neg hfirst, hbool]

end Headers

/-! ## The headers -/

/-- Headers by markup, with the gaps filled from lines that are taken for these fields, if
they have neither a sender nor a subject. -/
def filled (d : Document) (field : LabelLine → Field) : Headers :=
  let h := markedHeaders d
  if h.has .sender || h.has .subject then h
  else h.completed (firstUsable ((labelLines d.body.innerText).map fun l => (field l, l.value)))

/-- **The headers that the labels state.** -/
def statedHeaders (d : Document) : Headers := filled d LabelLine.stated

theorem fillFrom_eq (h : Headers) (t : Text) :
    fillFrom h t = h.completed (firstUsable ((labelLines t).map fun l => (l.read, l.value))) := by
  rw [← fieldLines_eq]
  exact h.foldl_fillLine (fieldLines t)

/-- **The headers of a mail** are filled from the lines as they are read. -/
theorem headers_eq_filled (d : Document) : headers d = filled d LabelLine.read := by
  unfold headers filled
  simp only [fillFrom_eq]
  generalize markedHeaders d = h
  have hgap : (h.sender.isNone && h.subject.isNone) = !(h.has .sender || h.has .subject) := by
    rw [Bool.not_or, Headers.has, Headers.has, Option.not_isSome, Option.not_isSome]
  rw [hgap]
  cases h.has .sender || h.has .subject <;> rfl

/-- A subject with a long s makes no difference to the other fields. -/
theorem firstUsable_read {lines : List LabelLine} (hlines : ∀ l ∈ lines, l.Labelled)
    (hf : f ≠ .subject ∧ f ≠ .date ∨ ∀ l ∈ lines, ¬ l.IsLong) :
    firstUsable (lines.map fun l => (l.read, l.value)) f =
      firstUsable (lines.map fun l => (l.stated, l.value)) f := by
  have hsame : ∀ l ∈ lines, (l.read == f) = (l.stated == f) := by
    intro l hl
    rw [LabelLine.read_eq (hlines l hl)]
    split
    · rename_i hlong
      rcases hf with ⟨hsubject, hdate⟩ | hnone
      · have hstated : l.stated = .subject := by
          unfold LabelLine.stated
          rw [hlong.1]
          decide
        rw [hstated, beq_false_of_ne hdate.symm, beq_false_of_ne hsubject.symm]
      · exact absurd hlong (hnone l hl)
    · rfl
  unfold firstUsable
  rw [List.find?_map, List.find?_map, Option.map_map, Option.map_map]
  have hfind : lines.find? ((fun l => l.1 == f && usable f l.2) ∘ fun l => (l.read, l.value)) =
      lines.find? ((fun l => l.1 == f && usable f l.2) ∘ fun l => (l.stated, l.value)) := by
    rw [← List.head?_filter, ← List.head?_filter]
    refine congrArg List.head? (List.filter_congr fun l hl => ?_)
    rw [Function.comp_apply, Function.comp_apply, hsame l hl]
  rw [hfind]
  rfl

/-- **When the headers are those that the labels state**: markup gives a sender or a subject, or
the lines for the subject and for a missing date give the same values as they are read. The other
fields are always as stated, and all fields are if no subject is written with a long s. -/
theorem headers_eq_stated_iff (d : Document) :
    let h := markedHeaders d
    let lines := labelLines d.body.innerText
    let read := firstUsable (lines.map fun l => (l.read, l.value))
    let stated := firstUsable (lines.map fun l => (l.stated, l.value))
    (headers d = statedHeaders d ↔ h.has .sender = true ∨ h.has .subject = true ∨
      (read .subject = stated .subject ∧ (h.has .date = true ∨ read .date = stated .date))) ∧
    ((headers d).sender = (statedHeaders d).sender ∧
      (headers d).recipients = (statedHeaders d).recipients ∧
      (headers d).cc = (statedHeaders d).cc ∧ (headers d).bcc = (statedHeaders d).bcc) ∧
    ((∀ l ∈ lines, ¬ l.IsLong) → headers d = statedHeaders d) := by
  intro h lines read stated
  have hlines : ∀ l ∈ lines, l.Labelled := fun l => labelled_of_mem
  have hother : ∀ f, f ≠ .subject → f ≠ .date → read f = stated f :=
    fun f hsubject hdate => firstUsable_read hlines (Or.inl ⟨hsubject, hdate⟩)
  -- both are completed from the lines, unless the markup has it all
  have hread : headers d = if h.has .sender || h.has .subject then h else h.completed read :=
    headers_eq_filled d
  have hstated : statedHeaders d =
      if h.has .sender || h.has .subject then h else h.completed stated := rfl
  rw [hread, hstated]
  cases hset : h.has .sender || h.has .subject with
  | true =>
    rw [if_pos rfl, if_pos rfl]
    refine ⟨iff_of_true rfl ?_, ⟨rfl, rfl, rfl, rfl⟩, fun _ => rfl⟩
    exact (Bool.or_eq_true_iff.1 hset).imp_right Or.inl
  | false =>
    obtain ⟨hsender, hsubject⟩ := Bool.or_eq_false_iff.1 hset
    rw [if_neg Bool.false_ne_true, if_neg Bool.false_ne_true,
      Headers.completed_eq_iff hsubject hother, hsender, hsubject]
    refine ⟨by simp, ?_, fun hnone => ?_⟩
    · unfold Headers.completed
      rw [hother .sender nofun nofun, hother .recipients nofun nofun, hother .cc nofun nofun,
        hother .bcc nofun nofun]
      exact ⟨rfl, rfl, rfl, rfl⟩
    · have hall : ∀ f, read f = stated f := fun f => firstUsable_read hlines (Or.inr hnone)
      exact ⟨hall .subject, Or.inr (hall .date)⟩

/-- Lines that compete: the first recipient has no address, and there are two dates. -/
def linesPage : Document :=
  let d := (Document.new "body" []).appendText 0 "to: nobody\nTo: Ann <ann@x.org>; bob@x.org\n"
  d.appendText 0 "SUBJECT: hi\nsent:\nSent: today\ndate: later\nsubject: no"

theorem headers_eq_stated_iff_lines :
    headers linesPage = statedHeaders linesPage ∧ headers linesPage = {
      recipients := ["ann@x.org", "bob@x.org"]
      subject := some "hi"
      date := some "today" } := by
  refine ⟨?_, by decide +kernel⟩
  exact (headers_eq_stated_iff linesPage).2.2 (by decide +kernel)

/-- A subject whose label is written with a long s. -/
def longPage : Document := (Document.new "body" []).appendText 0 "ſubject: hello"

/-- It is read as a date. -/
theorem headers_long_subject :
    statedHeaders longPage = { subject := some "hello" } ∧
      headers longPage = { date := some "hello" } := by
  decide +kernel

end HtmlMarkdown.Email
