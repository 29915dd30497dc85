import HtmlMarkdown.Html.PlainText
import HtmlMarkdown.Proofs.Service.Encoded

/-!
# Markup as plain text leaves no markup

A comment or a tag is read from an opening bracket on, and from every opening bracket with a closing
one further on (`findTag_eq_none_iff`): a comment that does not end is still a tag if there is a
closing bracket. So after the replacement no closing bracket follows an opening one
(`not_hasTag_replaceAll`), and neither collapsing nor trimming brings the two together.

* `stripTags_eq_self_iff`: **the plain texts**, which stripping leaves alone, are those without a
  tag, with single spaces and without blank space at either end.
* `plainDocument_settled`: **the text of a degraded document is one of them**, whatever the markup
  was. Where the markup has no tag, nothing else is lost.
-/

namespace HtmlMarkdown

/-- A plain text is the text of the body of its document. -/
theorem Document.text_body_ofPlainText (t : Text) : (Document.ofPlainText t).body.text = t := by
  have hbody : (ofPlainText t).body = (ofPlainText t).node 1 := rfl
  have hforgets : (ofPlainText t).text 1 = (ofPlainText t).currentText 1 := rfl
  have hbelow : (ofPlainText t).descendants 1 = [2] := rfl
  have hown : (ofPlainText t).ownText 2 = t := rfl
  rw [hbody, Node.text, node, hforgets, currentText, hbelow, List.flatMap_singleton, hown]

namespace Html

open Text Service

variable {before : Option Char} {c : Char} {t u rest : Text} {found : Text × Text}

/-! ## Finding a tag -/

theorem dropComment?_suffix (h : dropComment? t = some rest) : rest <:+ t := by
  induction t with
  | nil => cases h
  | cons c cs ih =>
    unfold dropComment? at h
    split at h
    · cases h
      exact (List.drop_suffix 2 cs).trans (List.suffix_cons c cs)
    · exact (ih h).trans (List.suffix_cons c cs)

/-- The end of a comment has a closing bracket. -/
theorem mem_of_dropComment? (h : dropComment? t = some rest) : '>' ∈ t := by
  induction t with
  | nil => cases h
  | cons c cs ih =>
    unfold dropComment? at h
    split at h
    case isTrue hend =>
      have hstart : "-->".toList <+: c :: cs := List.isPrefixOf_iff_prefix.1 hend
      exact hstart.mem (by decide)
    case isFalse => exact List.mem_cons_of_mem c (ih h)

/-- **What is found** is put between an opening bracket and the rest, and is a space from then on.
-/
theorem findTag_eq_some (h : findTag before t = some found) :
    ∃ u, t = '<' :: u ∧ '>' ∈ u ∧ found.1 = [' '] ∧ found.2 <:+ u := by
  unfold findTag at h
  split at h
  case h_1 u =>
    obtain ⟨rest, hrest, rfl⟩ := Option.map_eq_some_iff.1 h
    suffices '>' ∈ u ∧ rest <:+ u from ⟨u, rfl, this.1, rfl, this.2⟩
    rcases Option.or_eq_some_iff.1 hrest with hcomment | ⟨-, htag⟩
    · split at hcomment
      case h_1 v =>
        -- the comment is read behind the three characters that open it
        have hv : v <:+ '!' :: '-' :: '-' :: v := List.suffix_append ['!', '-', '-'] v
        exact ⟨hv.mem (mem_of_dropComment? hcomment), (dropComment?_suffix hcomment).trans hv⟩
      case h_2 => cases hcomment
    · split at htag
      case h_1 d v hdrop =>
        cases htag
        obtain ⟨-, start, -, rfl⟩ := eq_append_of_dropWhile_ne hdrop
        exact ⟨by simp, ⟨start ++ ['>'], by simp⟩⟩
      case h_2 => cases htag
  case h_2 => cases h

/-- **A tag is found** at every opening bracket with a closing one further on. -/
theorem findTag_open (h : '>' ∈ t) (before : Option Char) : findTag before ('<' :: t) ≠ none := by
  have hne : t.dropWhile (· != '>') ≠ [] := fun hnil => by
    simpa using List.dropWhile_eq_nil_iff.1 hnil '>' h
  obtain ⟨d, rest, hdrop⟩ := List.exists_cons_of_ne_nil hne
  unfold findTag
  simp only [hdrop]
  rw [Ne, Option.map_eq_none_iff, Option.or_eq_none_iff]
  exact fun hnone => absurd hnone.2 (Option.some_ne_none rest)

/-! ## The text that is left -/

/-- **No closing bracket follows an opening one** in what is left. -/
theorem not_hasTag_replaceAll (t : Text) : ¬ HasTag (replaceAll findTag t) := by
  -- where nothing is found at an opening bracket, no closing one is left to follow it
  suffices ('>' ∈ replaceAll findTag t → '>' ∈ t) ∧ ¬ HasTag (replaceAll findTag t) from this.2
  refine replaceAllFrom_induction (motive := fun t u => ('>' ∈ u → '>' ∈ t) ∧ ¬ HasTag u)
    ?suffix ?nil ?keep ?replace none t
  case suffix =>
    intro before c t new rest h
    obtain ⟨u, hu, -, -, hrest⟩ := findTag_eq_some h
    cases hu
    exact hrest
  case nil => exact ⟨id, by decide⟩
  case keep =>
    rintro before c t u hnone ⟨hmem, hu⟩
    constructor
    · intro h
      rcases List.mem_cons.1 h with rfl | h
      · exact List.mem_cons_self
      · exact List.mem_cons_of_mem c (hmem h)
    · intro htag
      rcases List.sublist_cons_iff.1 htag with htag | ⟨close, heq, hclose⟩
      · exact hu htag
      · cases heq
        exact findTag_open (hmem (List.singleton_sublist.1 hclose)) before hnone
  case replace =>
    rintro before c skipped new rest u h ⟨hmem, hu⟩
    obtain ⟨-, -, -, hnew, -⟩ := findTag_eq_some h
    simp only at hnew
    subst hnew
    constructor
    · intro h
      have hrest : '>' ∈ rest := hmem ((List.mem_cons.1 h).resolve_left (by decide))
      exact List.mem_cons_of_mem c (List.mem_append_right skipped hrest)
    · intro htag
      rcases List.sublist_cons_iff.1 htag with htag | ⟨close, heq, -⟩
      · exact hu htag
      · cases heq

/-- A text without a tag is left alone. -/
theorem replaceAll_findTag_eq (h : ¬ HasTag t) : replaceAll findTag t = t := by
  refine replaceAll_eq_of_none fun before u hu => ?_
  cases hfound : findTag before u with
  | none => rfl
  | some found =>
    obtain ⟨v, rfl, hclose, -⟩ := findTag_eq_some hfound
    exact absurd (((List.singleton_sublist.2 hclose).cons_cons '<').trans hu.sublist) h

/-- Brackets are as they were once a text is collapsed and trimmed. -/
theorem hasTag_trim_collapse : HasTag (trim (collapse t)) ↔ HasTag t := by
  rw [← hasTag_visible, visible_trim, visible_collapse, hasTag_visible]

/-- **What is stripped already**: a text without a tag, with single spaces, and with no blank space
at either end. -/
structure IsStripped (t : Text) : Prop where
  noTag : ¬ HasTag t
  singleSpaced : SingleSpaced t
  /-- The only blank character is the space. -/
  spaces : ∀ c ∈ t, isBlank c = true → c = ' '
  edges : startsBlank t = false ∧ endsBlank t = false

/-- Stripping leaves a stripped text. -/
theorem isStripped_stripTags (t : Text) : IsStripped (stripTags t) := by
  have hspaced := collapse_eq_self_iff.1 (collapse_trim_collapse (replaceAll findTag t))
  exact
    { noTag := fun h => not_hasTag_replaceAll t (hasTag_trim_collapse.1 h)
      singleSpaced := hspaced.1
      spaces := hspaced.2
      edges := trim_eq_self_iff.1 (trim_trim _) }

/-- **Stripping leaves a text alone** exactly if there is nothing to be stripped. -/
theorem stripTags_eq_self_iff : stripTags t = t ↔ IsStripped t := by
  constructor
  · intro h
    rw [← h]
    exact isStripped_stripTags t
  · intro h
    unfold stripTags
    rw [replaceAll_findTag_eq h.noTag, collapse_eq_self_iff.2 ⟨h.singleSpaced, h.spaces⟩,
      trim_eq_self_iff.2 h.edges]

/-- **The text of a degraded document** has no tag, no two blank characters in a row and none at
either end, and it is its own degraded document's text. What it leaves out of a source without a tag
is blank space that is spare, and from a source with a tag it always takes something else. -/
theorem plainDocument_settled (t : Text) :
    let text := (plainDocument t).body.text
    ¬ HasTag text ∧ SingleSpaced text ∧ startsBlank text = false ∧ endsBlank text = false ∧
      (plainDocument text).body.text = text ∧ (text = trim (collapse t) ↔ ¬ HasTag t) := by
  have htext : ∀ u, (plainDocument u).body.text = stripTags u := fun u =>
    Document.text_body_ofPlainText (stripTags u)
  have hstripped := isStripped_stripTags t
  simp only [htext]
  refine ⟨hstripped.noTag, hstripped.singleSpaced, hstripped.edges.1, hstripped.edges.2,
    stripTags_eq_self_iff.2 hstripped, fun h htag => ?_, fun h => ?_⟩
  · have hleft := hstripped.noTag
    rw [h, hasTag_trim_collapse] at hleft
    exact hleft htag
  · unfold stripTags
    rw [replaceAll_findTag_eq h]

example : (plainDocument "a <!-- > <b>c</b> > <d".toList).body.text = "a c > <d".toList := by decide

end Html

end HtmlMarkdown
