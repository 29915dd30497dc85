import HtmlMarkdown.Proofs.Selector.Grammar
import HtmlMarkdown.Proofs.Text.Word

/-!
# Selectors are read as they are written

A selector can be written in several ways: in either case, with blank space, with its value in
quotes of either kind or bare, and with a star for a tag that does not matter. `Selector.source` is
one of them, and it can be read back for every selector that any text is read as: a value that
came in quotes or bare lacks one kind of quotes at least (`IsValue.source`), and a name that was
made lower case is one that may be written (`IsTag.source`, `IsName.source`).

* `parse_exact`: **the reader accepts exactly what is written as a selector**, returns any other
  text with its error, and gives a selector back from its source.
-/

namespace HtmlMarkdown.Selector

open Text

variable {c : Char} {n t u v w : Text} {tag : String} {p : AttributeTest} {s : Selector}

/-! ## The source of a selector -/

/-- A value in double quotes, or in single ones if it has a double quote. -/
def valueSource (v : Text) : Text :=
  if '"' ∈ v then '\'' :: (v ++ ['\'']) else '"' :: (v ++ ['"'])

/-- A test in brackets. -/
def testSource : AttributeTest → Text
  | .present name => '[' :: (name.toList ++ [']'])
  | .equals name value => '[' :: (name.toList ++ ('=' :: (valueSource value ++ [']'])))
  | .includes name value => '[' :: (name.toList ++ ('*' :: '=' :: (valueSource value ++ [']'])))

/-- **A selector as text**: the tag, then the test, and a star if there is neither. -/
def source (s : Selector) : Text :=
  match s.tag, s.test with
  | none, none => ['*']
  | some tag, none => tag.toList
  | none, some p => testSource p
  | some tag, some p => tag.toList ++ testSource p

/-! ## Names in lower case -/

theorem toList_lowerName (n : Text) : (lowerName (String.ofList n)).toList = lower n := by
  simp [lowerName]

theorem isAscii_of_continuesName (h : continuesName c = true) : isAscii c = true :=
  of_continuesName (fun _ => isAscii_of_isAlphanum) (by decide) h

/-- A class of characters that has all letters has the lower-case form of each member. -/
theorem toLower_of_letters {q : Char → Bool} (hq : ∀ c, c.isAlpha = true → q c = true)
    (h : q c = true) : q c.toLower = true := by
  rcases toLower_cases c with hsame | halpha
  · rwa [hsame]
  · exact hq _ halpha

/-- A word of some class of ASCII characters that has all letters is one in lower case, too. -/
theorem all_lower {q : Char → Bool} (hq : ∀ c, c.isAlpha = true → q c = true)
    (hascii : ∀ c, q c = true → isAscii c = true) (h : t.all q = true) :
    lower t = t.map Char.toLower ∧ (lower t).all q = true ∧ lower (lower t) = lower t := by
  have ht : t.all isAscii = true :=
    List.all_eq_true.2 fun c hc => hascii c (List.all_eq_true.1 h c hc)
  refine ⟨lower_ascii ht, ?_, lower_lower ht⟩
  rw [lower_ascii ht, List.all_map]
  exact List.all_eq_true.2 fun c hc => toLower_of_letters hq (List.all_eq_true.1 h c hc)

/-- **The tag that is asked for** may be written as it is. -/
theorem IsTag.source (h : IsTag w (some tag)) : IsTag tag.toList (some tag) := by
  cases h with
  | @named c cs hc hcs =>
    obtain ⟨hmap, hrest, htwice⟩ := all_lower (t := c :: cs) (q := Char.isAlphanum)
      (fun _ => isAlphanum_of_isAlpha) (fun _ => isAscii_of_isAlphanum)
      (Bool.and_eq_true_iff.2 ⟨isAlphanum_of_isAlpha hc, hcs⟩)
    rw [toList_lowerName]
    have hname : lowerName (String.ofList (c :: cs)) =
        lowerName (String.ofList (lower (c :: cs))) := by
      simp [lowerName, htwice]
    rw [hname, hmap]
    rw [hmap] at hrest
    exact .named (toLower_of_letters (fun _ => id) hc) (Bool.and_eq_true_iff.1 hrest).2

/-- **The name in lower case** may be written as it is. -/
theorem IsName.source (h : IsName n) : IsName (lower n) ∧
    lowerName (String.ofList (lower n)) = lowerName (String.ofList n) := by
  obtain ⟨hc, hcs⟩ := h
  rename_i c cs
  obtain ⟨hmap, hrest, htwice⟩ := all_lower (t := c :: cs) (q := continuesName)
    (fun _ => continuesName_of_isAlpha) (fun _ => isAscii_of_continuesName)
    (Bool.and_eq_true_iff.2 ⟨continuesName_of_startsName hc, hcs⟩)
  refine ⟨?_, by simp [lowerName, htwice]⟩
  rw [hmap] at hrest ⊢
  exact .intro (toLower_of_letters (fun _ => startsName_of_isAlpha) hc)
    (Bool.and_eq_true_iff.1 hrest).2

/-- **A value that may be written** may be written in quotes: it lacks those of one kind. -/
theorem IsValue.source (h : IsValue w v) : IsValue (valueSource v) v := by
  have hlacks : '"' ∉ v ∨ '\'' ∉ v := by
    cases h with
    | quoted hq hv =>
      rcases hq with rfl | rfl
      · exact .inl hv
      · exact .inr hv
    | bare hne hbare =>
      refine .inl fun hmem => ?_
      cases List.all_eq_true.1 hbare _ hmem
  unfold valueSource
  split
  · rename_i hmem
    exact .quoted (.inr rfl) (hlacks.resolve_left (not_not_intro hmem))
  · rename_i hmem
    exact .quoted (.inl rfl) hmem

theorem IsTest.source (h : IsTest u p) : IsTest (testSource p) p := by
  obtain ⟨-, hname, hdemand⟩ := h
  rename_i n u
  obtain ⟨hlower, hsame⟩ := hname.source
  have hsource : ∃ u, testSource p = '[' :: (lower n ++ u) ∧
      IsDemand (lowerName (String.ofList n)) u p := by
    cases hdemand with
    | present => exact ⟨_, by rw [testSource, toList_lowerName]; rfl, .present (a := []) rfl⟩
    | @compared k a b d w v _ _ hform =>
      refine ⟨k.sign ++ (valueSource v ++ [']']), ?_,
        .compared k (a := []) (b := []) (d := []) rfl rfl hform.source rfl⟩
      cases k
      · rw [Comparison.test, testSource, toList_lowerName]
        rfl
      · rw [Comparison.test, testSource, toList_lowerName]
        rfl
  obtain ⟨u, hsource, hdemand'⟩ := hsource
  rw [hsource]
  rw [← hsame] at hdemand'
  exact .intro (a := []) rfl hlower hdemand'

/-- **What is written at all** is written as its source. -/
theorem Written.source (h : Written t s) : Written s.source s := by
  obtain ⟨-, body, -, -, -, -, hbody⟩ := h
  have hsource : IsBody s.source s := by
    cases hbody with
    | @tag w tag htag =>
      cases tag with
      | none => exact .tag .star
      | some tag => exact .tag htag.source
    | test htest => exact .test htest.source
    | @both w u tag p htag htest =>
      cases tag with
      | none => exact .test htest.source
      | some tag => exact .both htag.source htest.source
  exact ⟨[], s.source, [], (List.append_nil _).symm, rfl, rfl, hsource⟩

/-- **Selectors are read as they are written.** A text is read as a selector if and only if the
selector is written so; a text that is no selector is returned with the error; and a selector that
can be written in any way is read from its own source. -/
theorem parse_exact (t : Text) (s : Selector) :
    (parse t = .ok s ↔ Written t s) ∧
      (parse t = .error (.unsupportedSelector t) ↔ ∀ s', ¬ Written t s') ∧
      (parse s.source = .ok s ↔ ∃ t', Written t' s) := by
  have hok : ∀ {t : Text} {s : Selector}, parse t = .ok s ↔ Written t s := by
    intro t s
    rw [← parse?_eq_some_iff]
    unfold parse
    cases parse? t <;> simp
  refine ⟨hok, ?_, hok.trans ⟨fun h => ⟨_, h⟩, fun ⟨_, h⟩ => h.source⟩⟩
  constructor
  · intro herror s' hwritten
    rw [hok.2 hwritten] at herror
    cases herror
  · intro hno
    unfold parse
    cases hread : parse? t with
    | none => rfl
    | some s' => exact absurd (parse?_eq_some_iff.1 hread) (hno s')

/-- A value in quotes may have brackets, signs and the other quotes in it. -/
example : parse " BlockQuote[ Type *= 'a]=\"' ]\t" =
    .ok ⟨some "blockquote", some (.includes "type" "a]=\"")⟩ := by decide

end HtmlMarkdown.Selector
