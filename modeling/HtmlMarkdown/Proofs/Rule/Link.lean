import HtmlMarkdown.Document.Tree
import HtmlMarkdown.Metadata
import HtmlMarkdown.Proofs.Text.LowerCase
import HtmlMarkdown.Rule.Element
import Mathlib.Data.List.Infix

/-!
# Mail links

A link with a target is a mail link in two places. The metadata of a document looks at the scheme
of the target in lower case (`link?_isEmail_iff`), the rule for links at the target as it is
(`mailAddress?_eq_some_iff`). So whatever is written as an address in angle brackets is listed as a
mail link (`isEmail_of_isAutolink`), but not the other way round.

* `link_cases`: the two ways to write a link.
* `link_mail_iff`: **when a listed mail link with its address as its text is written as that address
  in angle brackets.**
-/

namespace HtmlMarkdown.Rule

open Text

variable {a content href : Text} {d : Document} {n : Node} {i : LinkInfo} {o : Options}

/-! ## The two ways to write a link -/

/-- The scheme of a mail link. -/
def mailScheme : Text := "mailto:"

/-- The target of a mail link behind the scheme, up to the query. -/
def addressOf (href : Text) : Text := (href.drop mailScheme.length).takeWhile (· != '?')

/-- **The scheme is asked for as it is**, in lower case. -/
theorem mailAddress?_eq_some_iff :
    mailAddress? href = some a ↔ mailScheme <+: href ∧ a = addressOf href := by
  unfold mailAddress? addressOf
  rw [Option.map_eq_some_iff]
  constructor
  · rintro ⟨rest, hrest, rfl⟩
    obtain rfl : mailScheme ++ rest = href := List.isPrefixOf?_eq_some_iff_append_eq.1 hrest
    exact ⟨List.prefix_append _ _, by rw [List.drop_left]⟩
  · rintro ⟨⟨rest, rfl⟩, rfl⟩
    exact ⟨rest, List.isPrefixOf?_eq_some_iff_append_eq.2 rfl, by rw [List.drop_left]⟩

/-- Is the element a mail link whose text is the address? -/
def IsAutolink (n : Node) : Prop :=
  mailAddress? (Attributes.clean (n.attr? "href")) = some (trim n.text)

/-- **A link is written in one of two ways**, if it has a target. -/
theorem link_cases (hhref : Attributes.clean (n.attr? "href") = href) (hne : href ≠ [])
    (hstyle : o.linkStyle = .inlined) (content : Text) :
    (IsAutolink n ∧ link n content o = "<" ++ trim n.text ++ ">") ∨
      (¬ IsAutolink n ∧ link n content o =
        "[" ++ trim content ++ "](" ++ Markdown.linkTarget href ++ title n ++ ")") := by
  have hplain : (href.isEmpty || o.linkStyle == .plain) = false := by
    rw [hstyle, List.isEmpty_eq_false_iff.2 hne]
    rfl
  -- the address is compared with the text of the element, not with what is written for it
  unfold IsAutolink link
  simp only [hhref, hplain, Bool.false_eq_true, if_false]
  cases haddress : mailAddress? href with
  | none => exact .inr ⟨by simp, rfl⟩
  | some address =>
    by_cases htext : address = trim n.text
    · subst htext
      have hsame : (some (trim n.text)).filter (· == trim n.text) = some (trim n.text) := by simp
      exact .inl ⟨rfl, by rw [hsame]⟩
    · have hother : (some address).filter (· == trim n.text) = none := by simpa using htext
      exact .inr ⟨fun h => htext (Option.some.inj h), by rw [hother]⟩

/-! ## Links in the metadata -/

theorem link?_eq_some (h : Metadata.link? n = some i) :
    Attributes.clean (n.attr? "href") = i.href ∧ i.href ≠ [] ∧
      i.isEmail = isPrefix mailScheme (lower i.href) := by
  obtain ⟨href, hhref, rfl⟩ := Option.map_eq_some_iff.1 h
  unfold Attributes.clean? at hhref
  simp only at hhref
  split at hhref
  · cases hhref
  · rename_i hne
    cases hhref
    exact ⟨rfl, by simpa using hne, rfl⟩

/-- **The scheme is looked for in lower case**, so its letters are of either case in the target. -/
theorem link?_isEmail_iff (h : Metadata.link? n = some i) :
    i.isEmail = true ↔ (i.href.take mailScheme.length).map Char.toLower = mailScheme := by
  rw [(link?_eq_some h).2.2, isPrefix_lower_iff (by decide) (by decide)]
  constructor
  · rintro ⟨start, rest, hsplit, hstart⟩
    have hlength : mailScheme.length = start.length := by rw [← hstart, List.length_map]
    rw [hsplit, hlength, List.take_left, hstart]
  · exact fun hstart => ⟨_, _, (List.take_append_drop _ _).symm, hstart⟩

/-- Links with a target are listed. -/
theorem mem_links (hn : n ∈ d.elementsByTag "a") (h : Metadata.link? n = some i)
    (context : Email.Context) : i ∈ (Metadata.ofDocument d context o).links :=
  List.mem_filterMap.2 ⟨n, hn, h⟩

/-- **What is written as an address in angle brackets is listed as a mail link.** -/
theorem isEmail_of_isAutolink (h : IsAutolink n) (hi : Metadata.link? n = some i) :
    i.isEmail = true ∧ trim n.text = addressOf i.href := by
  obtain ⟨hhref, -, -⟩ := link?_eq_some hi
  unfold IsAutolink at h
  rw [hhref] at h
  obtain ⟨⟨rest, hsplit⟩, htext⟩ := mailAddress?_eq_some_iff.1 h
  rw [link?_isEmail_iff hi]
  refine ⟨?_, htext⟩
  rw [← hsplit, List.take_left]
  decide

/-- **A mail link of the metadata** whose text is its address is written as that address in angle
brackets exactly if its scheme is in lower case; otherwise it is written like any other link. -/
theorem link_mail_iff (hn : n ∈ d.elementsByTag "a") (hi : Metadata.link? n = some i)
    (hmail : i.isEmail = true) (htext : trim n.text = addressOf i.href)
    (hstyle : o.linkStyle = .inlined) (context : Email.Context) (content : Text) :
    i ∈ (Metadata.ofDocument d context o).links ∧
      (i.href.take mailScheme.length).map Char.toLower = mailScheme ∧
      (link n content o = "<" ++ addressOf i.href ++ ">" ↔
        i.href.take mailScheme.length = mailScheme) ∧
      (i.href.take mailScheme.length ≠ mailScheme → link n content o =
        "[" ++ trim content ++ "](" ++ Markdown.linkTarget i.href ++ title n ++ ")") := by
  obtain ⟨hhref, hne, -⟩ := link?_eq_some hi
  have hscheme : mailScheme <+: i.href ↔ i.href.take mailScheme.length = mailScheme := by
    rw [List.prefix_iff_eq_take, eq_comm]
  have hauto : IsAutolink n ↔ i.href.take mailScheme.length = mailScheme := by
    unfold IsAutolink
    rw [hhref, mailAddress?_eq_some_iff, hscheme]
    exact and_iff_left htext
  refine ⟨mem_links hn hi context, (link?_isEmail_iff hi).1 hmail, ?_⟩
  rw [Ne, ← hauto]
  rcases link_cases hhref hne hstyle content with ⟨hmatch, hlink⟩ | ⟨hother, hlink⟩
  · rw [hlink, htext]
    exact ⟨iff_of_true rfl hmatch, fun h => absurd hmatch h⟩
  · rw [hlink]
    -- the two ways to write a link start differently
    exact ⟨iff_of_false (fun h => absurd (List.cons.inj h).1 (by decide)) hother, fun _ => rfl⟩

/-- A mail link with its address as its text. -/
def addressLink (scheme : Text) : Document :=
  Document.ofRoot "a" [("href", " " ++ scheme ++ "a@b.org?subject=x ")] [.text " a@b.org\n"]

/-- What the metadata has of it. -/
def addressInfo (scheme : Text) : LinkInfo where
  href := scheme ++ "a@b.org?subject=x"
  text := "a@b.org"
  title := none
  isEmail := true

theorem link_mail_iff_lower :
    let n := (addressLink mailScheme).root
    n ∈ (addressLink mailScheme).elementsByTag "a" ∧
      Metadata.link? n = some (addressInfo mailScheme) ∧
      (addressInfo mailScheme).isEmail = true ∧
      trim n.text = addressOf (addressInfo mailScheme).href ∧
      ({} : Options).linkStyle = .inlined ∧
      link n "a@b.org" {} = "<a@b.org>" := by
  have hn : (addressLink mailScheme).root ∈ (addressLink mailScheme).elementsByTag "a" :=
    List.mem_singleton.2 rfl
  have hi : Metadata.link? (addressLink mailScheme).root = some (addressInfo mailScheme) := by
    decide
  have htext : trim (addressLink mailScheme).root.text =
      addressOf (addressInfo mailScheme).href := by decide
  obtain ⟨-, -, hwritten, -⟩ := link_mail_iff (o := {}) hn hi rfl htext rfl {} "a@b.org"
  exact ⟨hn, hi, rfl, htext, rfl, hwritten.2 (by decide)⟩

/-- **With a scheme in capitals** the metadata lists a mail link that is not written as one. -/
theorem link_mail_capitals :
    let n := (addressLink "MAILTO:").root
    n ∈ (addressLink "MAILTO:").elementsByTag "a" ∧
      Metadata.link? n = some (addressInfo "MAILTO:") ∧
      (addressInfo "MAILTO:").isEmail = true ∧
      trim n.text = addressOf (addressInfo "MAILTO:").href ∧
      link n "a@b.org" {} = "[a@b.org](MAILTO:a@b.org?subject=x)" :=
  ⟨List.mem_singleton.2 rfl, by decide, rfl, by decide, by decide⟩

end HtmlMarkdown.Rule
