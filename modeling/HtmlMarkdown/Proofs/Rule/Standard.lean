import HtmlMarkdown.Convert.Render
import HtmlMarkdown.Proofs.Rule.Index

/-!
# The standard rules outside of mail

Outside of mail a tag has the first general rule that accepts it (`Setup.ruleFor_standard`,
`Rule.General.find?_eq`): the caller's set is empty, and all general rules are of one priority.
-/

namespace HtmlMarkdown

namespace Rule.General

theorem keys_nodup : (entries.map (·.1)).Nodup := by decide

theorem priority_eq : ∀ e ∈ entries, e.2.priority = 0 := by
  have hall : entries.all (fun e => e.2.priority == 0) = true := rfl
  intro e he
  exact eq_of_beq (List.all_eq_true.1 hall e he)

/-- **A tag has the first general rule that accepts it.** -/
theorem find?_eq (tag : String) :
    rules.find? tag = (entries.find? fun e => e.2.filter.accepts tag).map (·.2) :=
  RuleSet.find?_foldl_insert keys_nodup priority_eq tag

/-- A tag without a place in the general rules has no rule there. -/
theorem find?_eq_none {tag : String} (h : rules.lookup? tag = none) : rules.find? tag = none := by
  unfold RuleSet.find?
  rw [h]
  rfl

theorem find?_paragraph : rules.find? "p" = some paragraph := by
  rw [find?_eq]
  rfl

theorem find?_container : ∀ tag ∈ containerTags, rules.find? tag = some container := by
  intro tag h
  rw [find?_eq]
  unfold containerTags at h
  simp only [List.mem_cons, List.not_mem_nil, or_false] at h
  rcases h with rfl | rfl | rfl | rfl | rfl | rfl | rfl | rfl | rfl | rfl | rfl <;> rfl

theorem find?_list : ∀ tag ∈ ["ul", "ol"], rules.find? tag = some list := by
  intro tag h
  rw [find?_eq]
  simp only [List.mem_cons, List.not_mem_nil, or_false] at h
  rcases h with rfl | rfl <;> rfl

theorem find?_listItem : rules.find? "li" = some listItem := by
  rw [find?_eq]
  rfl

theorem find?_tableRow : rules.find? "tr" = some tableRow := by
  rw [find?_eq]
  rfl

theorem find?_tableCell : ∀ tag ∈ ["td", "th"], rules.find? tag = some tableCell := by
  intro tag h
  rw [find?_eq]
  simp only [List.mem_cons, List.not_mem_nil, or_false] at h
  rcases h with rfl | rfl <;> rfl

theorem find?_link : rules.find? "a" = some link := by
  rw [find?_eq]
  rfl

theorem find?_blockquote : rules.find? "blockquote" = some blockquote := by
  rw [find?_eq]
  rfl

theorem find?_codeBlock : rules.find? "pre" = some codeBlock := by
  rw [find?_eq]
  rfl

theorem find?_table : rules.find? "table" = some table := by
  rw [find?_eq]
  rfl

/-- Inline elements that only carry a style have no general rule. -/
theorem find?_styled {tag : String} (h : Text.lowerName tag ∈ ["span", "font"]) :
    rules.find? tag = none := by
  simp only [List.mem_cons, List.not_mem_nil, or_false] at h
  rcases h with h | h
  · rw [RuleSet.find?_congr (u := "span") (h.trans (by decide)), find?_eq]
    rfl
  · rw [RuleSet.find?_congr (u := "font") (h.trans (by decide)), find?_eq]
    rfl

end Rule.General

namespace Convert

theorem lookup?_empty (tag : String) : RuleSet.empty.lookup? tag = none := by
  rw [RuleSet.lookup?_eq, RuleSet.best?_eq_none_iff]
  simp [RuleSet.positions, RuleSet.empty]

/-- **Outside of mail the general rules decide.** -/
theorem Setup.ruleFor_standard (options : Options) (tag : String) :
    (Setup.mk .standard options false).ruleFor tag = Rule.General.rules.find? tag := by
  have hcustom : (RuleBook.standard.set .custom).lookup? tag = none := lookup?_empty tag
  have hbase : (RuleBook.standard.set .base).lookup? tag = Rule.General.rules.lookup? tag := rfl
  unfold Setup.ruleFor RuleBook.resolve? RuleBook.sources
  simp only [Bool.false_eq_true, if_false, List.findSome?_cons, List.findSome?_nil]
  rw [hcustom, hbase]
  unfold RuleSet.find?
  cases Rule.General.rules.lookup? tag <;> rfl

theorem Setup.finish_none (s : Setup) (n : Node) (content : Text) :
    s.finish none n content = content := rfl

/-- The result of a rule that does not fail. -/
theorem Setup.finish_ok {s : Setup} {rule : Rule} {n : Node} {content t : Text}
    (h : rule.action n content s.options = .ok t) : s.finish (some rule) n content = t := by
  unfold Setup.finish
  simp only [h]

/-- Rules that do the same have the same result. -/
theorem Setup.finish_congr {s s' : Setup} {rule rule' : Rule} {n n' : Node} {content : Text}
    (h : rule.action n content s.options = rule'.action n' content s'.options) :
    s.finish (some rule) n content = s'.finish (some rule') n' content := by
  unfold Setup.finish
  simp only [h]

theorem Setup.finish_paragraph (s : Setup) (n : Node) (content : Text) :
    s.finish (some Rule.General.paragraph) n content = Markdown.separated content := rfl

end Convert

end HtmlMarkdown
