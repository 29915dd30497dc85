import HtmlMarkdown.Proofs.Convert.Content
import HtmlMarkdown.Proofs.Convert.Depth
import HtmlMarkdown.Proofs.Html.TextOnly
import HtmlMarkdown.Proofs.Markdown.Escaped
import HtmlMarkdown.Proofs.Markdown.Lines
import HtmlMarkdown.Proofs.Rule.Mail
import HtmlMarkdown.Proofs.Text.Replacement

/-!
# Plain text through the service

A source without markup goes through every stage of a conversion. Nothing is found in it before it
is parsed (`prepare_plain`), it is parsed as the text of a body, which is rendered as that text
escaped, in mail or not (`convert_bodyOf`), and what comes out is a single line that opens no
heading (`finish_line`).

* `toMarkdown_plain`: **the output is the text itself, on one line and escaped.**
-/

namespace HtmlMarkdown

open Markdown Text

variable {s t : Text}

/-! ## Before and after -/

namespace Service

/-- The characters that a text without markup does not have. -/
def unplain : Text := ['<', '&', '=', '\x00', '\uFEFF']

/-- **Nothing is found in a text without markup**; it is put on one line. -/
theorem prepare_plain (h : ∀ c ∈ s, c ∉ unplain) : prepare {} s = trim (collapse s) := by
  have hnot : ∀ c ∈ unplain, c ∉ s := fun c hc hs => h c hs hc
  have hopen := hnot '<' (by decide)
  have hdecode : Entity.decode s = s :=
    Entity.findReference_needs.replaceAll_eq (hnot '&' (by decide))
  have hclean : Email.Outlook.clean s = s := Email.Outlook.clean_eq hopen (hnot '=' (by decide))
  unfold prepare
  simp only [findScriptOrStyle_needs.replaceAll_eq hopen, hclean, hdecode, if_true,
    Bool.false_eq_true, if_false]

/-- A single line that is no heading is laid out as it is. -/
theorem layout_line (hfeed : '\n' ∉ t) (hend : trimEnd t = t) (hsign : t.head? ≠ some '#') :
    layout t = t := by
  have hsplit : splitOn (· == '\n') t = [t] := linesOf_line hfeed
  have hheading : heading? t = none := by
    have hmarker : t.takeWhile (· == '#') = [] := by
      cases t with
      | nil => rfl
      | cons c cs =>
        rw [List.takeWhile_cons_of_neg]
        simpa using hsign
    unfold heading?
    simp [hmarker]
  -- a fence is kept as it is, like any other line
  have hclass : classify false [t] = [⟨t, false⟩] := by
    rw [classify, hend, hheading, ite_self]
    split <;> rfl
  unfold layout
  rw [hsplit, hclass]
  rfl

/-- **The final form of a line** that is visible at either end and no heading: a line feed is put
behind it. -/
theorem finish_line (hfeed : '\n' ∉ t) (hs : startsVisible t = true) (he : endsVisible t = true)
    (hsign : t.head? ≠ some '#') : finish {} t = t ++ ['\n'] := by
  have hlines : collapseBlankLines t = t := findBlankLines_needs.replaceAll_eq hfeed
  have hne := ne_nil_of_starts hs
  have hstart : t.dropWhile (· == '\n') = t := by
    cases t with
    | nil => rfl
    | cons c cs =>
      rw [List.mem_cons, not_or] at hfeed
      rw [List.dropWhile_cons_of_neg]
      exact fun h => hfeed.1 (eq_of_beq h).symm
  unfold finish
  simp only [hlines, hstart, if_true, trimEnd_of_ends he,
    layout_line hfeed (trimEnd_of_ends he) hsign]
  simp [hne]

end Service

/-! ## The body -/

namespace Convert

/-- A body with a text is that text on one line, escaped, in mail or not. -/
theorem convert_bodyOf (isEmail : Bool) (t : Text) :
    (Setup.mk .standard {} isEmail).convert (Html.bodyOf t).body =
      .ok (escape (trim (collapse t))) := by
  have hbody : (Html.bodyOf t).body = (Html.bodyOf t).node 2 := rfl
  have htag : ((Html.bodyOf t).node 2).tag = "body" := rfl
  have hopen : ((Html.bodyOf t).node 2).IsOpen := ⟨rfl, by rw [htag]; decide⟩
  have hchildren : ((Html.bodyOf t).node 2).children = [(Html.bodyOf t).node 3] := rfl
  have htext : ((Html.bodyOf t).node 3).data = .text t := rfl
  have hparent : ((Html.bodyOf t).node 3).parent? = some ((Html.bodyOf t).node 2) := rfl
  have hprev : ((Html.bodyOf t).node 3).prev? = none := rfl
  have hnext : ((Html.bodyOf t).node 3).next? = none := rfl
  have hflat : text ((Html.bodyOf t).node 3) t {} = escape (trim (collapse t)) :=
    text_of_edges rfl hparent (by rw [htag]; decide) (by rw [hprev]; rfl) (by rw [hnext]; rfl) t
  have hrule : (Setup.mk .standard {} isEmail).ruleFor "body" = none := by
    have hmail : Rule.Mail.rules.find? "body" = none := by rw [Rule.Mail.find?_eq]; rfl
    have hgeneral : Rule.General.rules.find? "body" = none := by rw [Rule.General.find?_eq]; rfl
    change (Setup.withCustom .empty {} isEmail).ruleFor "body" = none
    rw [Setup.ruleFor_builtin (lookup?_empty "body"), hmail, hgeneral, ite_self]
    rfl
  rw [convert_eq_render, hbody, maxLevels, render_only hopen hchildren (render_text htext), htag,
    hrule, Setup.finish_none, hflat]

end Convert

namespace Service

/-- What is left of a text without markup is without markup, and its blank characters are
spaces. -/
theorem mem_prepared (h : ∀ c ∈ s, c ∉ unplain) {c : Char} (hc : c ∈ trim (collapse s)) :
    c = ' ' ∨ (isBlank c = false ∧ c ∉ unplain) := by
  have hmem := mem_of_mem_trim hc
  cases hblank : isBlank c with
  | true => exact Or.inl (eq_space_of_mem_collapse hmem hblank)
  | false => exact Or.inr ⟨rfl, h c (mem_of_mem_collapse hmem hblank)⟩

/-- **A text without markup is parsed as the text of a body.** -/
theorem parse_prepared (h : ∀ c ∈ s, c ∉ unplain)
    (hstart : startsVisible (trim (collapse s)) = true) :
    Html.parse (trim (collapse s)) = Html.bodyOf (trim (collapse s)) := by
  refine Html.parse_plain (fun hhead => ?_) hstart fun c hc => ?_
  · rcases mem_prepared h (List.mem_of_mem_head? hhead) with hspace | ⟨-, hmark⟩
    · cases hspace
    · exact hmark (by decide)
  · rcases mem_prepared h hc with rfl | ⟨hblank, hmarkup⟩
    · decide
    · simp only [unplain, List.mem_cons, List.not_mem_nil, or_false, not_or] at hmarkup
      refine Html.isPlain_iff.2 ⟨hmarkup.1, hmarkup.2.1, ?_, hmarkup.2.2.2.1⟩
      rintro rfl
      cases hblank

/-- **An escaped line is laid out as it is.** -/
theorem finish_escape (hfeed : '\n' ∉ t) (hs : startsVisible t = true)
    (he : endsVisible t = true) : finish {} (escape t) = escape t ++ ['\n'] := by
  refine finish_line (feed_not_mem_escape hfeed) ((startsVisible_escape t).trans hs)
    ((endsVisible_escape t).trans he) fun hhead => ?_
  cases head?_escape_ne_marker hhead

/-- **Plain text goes through intact.** A source that is not blank and has no markup comes out as
its text on one line, escaped, with a line feed behind it. Read back, that is the text but for
white space. -/
theorem toMarkdown_plain (hs : trim s ≠ []) (h : ∀ c ∈ s, c ∉ ['<', '&', '=', '\x00', '\uFEFF']) :
    ({} : Service).toMarkdown s = .ok (escape (trim (collapse s)) ++ ['\n']) ∧
      words (unescape (escape (trim (collapse s)) ++ ['\n'])) = words s := by
  have hblank : isBlankText s = false := by
    rw [Ne, trim_eq_nil_iff] at hs
    exact Bool.eq_false_iff.2 hs
  obtain ⟨hstart, hend⟩ := trim_collapse_edges hblank
  have hfeed := feed_not_mem_trim_collapse s
  refine ⟨?_, ?_⟩
  · unfold toMarkdown
    rw [convert_not_blank hblank, prepare_plain h, parse_prepared h hstart, convertDocument_eq,
      Convert.convert_bodyOf, collapse_trim_collapse, trim_trim]
    simp only [Except.map, Except.mapError, finish_escape hfeed hstart hend]
  · have hspells := (escape_spells (trim (collapse s))).append
      (Spells.of_plain (by decide : '\\' ∉ ['\n']))
    have hread : unescape (escape (trim (collapse s)) ++ ['\n']) = trim (collapse s) ++ ['\n'] := by
      rw [hspells.unescape, List.map_append, glyphs_char]
      rfl
    rw [hread, words_concat_blank (by decide), words_trim, words_collapse]

/-- A text that would open a heading, a list and a fence, with characters of its own to escape. -/
theorem toMarkdown_plain_heading :
    trim "# 1. *a*\n  \x60\x60\x60 \\ " ≠ [] ∧
      (∀ c ∈ "# 1. *a*\n  \x60\x60\x60 \\ ".toList, c ∉ ['<', '&', '=', '\x00', '\uFEFF']) ∧
      ({} : Service).toMarkdown "# 1. *a*\n  \x60\x60\x60 \\ " =
        .ok "\\# 1. \\*a\\* \x60\x60\x60 \\\\\n" := by
  have hne : trim "# 1. *a*\n  \x60\x60\x60 \\ " ≠ [] := by decide
  have hall : ("# 1. *a*\n  \x60\x60\x60 \\ ".toList.all fun c =>
      !List.contains ['<', '&', '=', '\x00', '\uFEFF'] c) = true := by decide
  have hplain : ∀ c ∈ "# 1. *a*\n  \x60\x60\x60 \\ ".toList,
      c ∉ ['<', '&', '=', '\x00', '\uFEFF'] := by
    intro c hc
    simpa only [Bool.not_eq_true', List.contains_eq_mem, decide_eq_false_iff_not] using
      List.all_eq_true.1 hall c hc
  refine ⟨hne, hplain, (toMarkdown_plain hne hplain).1.trans ?_⟩
  rfl

end Service

end HtmlMarkdown
