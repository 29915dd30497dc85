import HtmlMarkdown.Proofs.Rule.Standard

/-!
# The rules for mail

Where the caller has no rule for a tag, the first mail rule that accepts it is taken in mail, and
else the first general rule (`Setup.ruleFor_eq`). A mail rule does something of its own only with
an element that gives it a reason (`Triggered`); any other element it treats as the general rules
do.

* `finish_mail`: **without a reason, being in mail makes no difference to an element.**
-/

namespace HtmlMarkdown

/-! ## Filters -/

theorem Filter.accepts_ofTag {name tag : String} :
    (Filter.ofTag name).accepts tag = true ↔ Text.lowerName tag = Text.lowerName name := by
  unfold Filter.ofTag Filter.accepts
  exact beq_iff_eq

theorem Filter.accepts_ofTags {names : List String} {tag : String} :
    (Filter.ofTags names).accepts tag = true ↔
      ∃ name ∈ names, Text.lowerName tag = Text.lowerName name := by
  unfold Filter.ofTags Filter.accepts
  simp only [List.contains_iff_mem, List.mem_map]
  exact exists_congr fun name => and_congr_right fun _ => eq_comm

namespace Rule.Mail

/-! ## The mail rule for a tag -/

theorem keys_nodup : (entries.map (·.1)).Nodup := by decide

theorem priority_eq : ∀ e ∈ entries, e.2.priority = 0 := by
  have hall : entries.all (fun e => e.2.priority == 0) = true := rfl
  intro e he
  exact eq_of_beq (List.all_eq_true.1 hall e he)

/-- **A tag has the first mail rule that accepts it.** -/
theorem find?_eq (tag : String) :
    rules.find? tag = (entries.find? fun e => e.2.filter.accepts tag).map (·.2) :=
  RuleSet.find?_foldl_insert keys_nodup priority_eq tag

theorem find?_of_lookup? {tag : String} {i : Nat} (h : rules.lookup? tag = some i) :
    ∃ rule, rules.find? tag = some rule := by
  have hrules : rules = RuleSet.ofRules entries.toArray := RuleSet.foldl_insert keys_nodup
  rw [hrules] at h ⊢
  exact RuleSet.find?_of_lookup? h

/-- **The tags of the mail rules.** -/
theorem find?_cases {tag : String} {rule : Rule} (h : rules.find? tag = some rule) :
    (rule = division ∧ Text.lowerName tag = "div") ∨
      (rule = table ∧ Text.lowerName tag = "table") ∨
      (rule = inlineStyle ∧ Text.lowerName tag ∈ ["span", "font"]) ∨
      (rule = link ∧ Text.lowerName tag = "a") ∨
      (rule = blockquote ∧ Text.lowerName tag = "blockquote") ∨
      (rule = codeBlock ∧ Text.lowerName tag = "pre") := by
  rw [find?_eq] at h
  obtain ⟨e, he, rfl⟩ := Option.map_eq_some_iff.1 h
  have hacc : e.2.filter.accepts tag = true :=
    List.find?_some (p := fun e : String × Rule => e.2.filter.accepts tag) he
  have hmem := List.mem_of_find?_eq_some he
  have hspan : Text.lowerName "span" = "span" := by decide
  have hfont : Text.lowerName "font" = "font" := by decide
  simp only [entries, List.mem_cons, List.not_mem_nil, or_false] at hmem
  rcases hmem with rfl | rfl | rfl | rfl | rfl | rfl
  · exact .inl ⟨rfl, (Filter.accepts_ofTag.1 hacc).trans (by decide)⟩
  · exact .inr (.inl ⟨rfl, (Filter.accepts_ofTag.1 hacc).trans (by decide)⟩)
  · obtain ⟨name, hname, htag⟩ := Filter.accepts_ofTags.1 hacc
    refine .inr (.inr (.inl ⟨rfl, ?_⟩))
    rw [htag]
    simp only [List.mem_cons, List.not_mem_nil, or_false] at hname ⊢
    rcases hname with rfl | rfl
    · exact .inl hspan
    · exact .inr hfont
  · exact .inr (.inr (.inr (.inl ⟨rfl, (Filter.accepts_ofTag.1 hacc).trans (by decide)⟩)))
  · exact .inr (.inr (.inr (.inr (.inl ⟨rfl, (Filter.accepts_ofTag.1 hacc).trans (by decide)⟩))))
  · exact .inr (.inr (.inr (.inr (.inr ⟨rfl, (Filter.accepts_ofTag.1 hacc).trans (by decide)⟩))))

/-- Is the element a link to a telephone number? -/
def isPhoneLink (n : Node) : Bool :=
  (n.attr? "href").any fun href => Text.isPrefix "tel:" (Text.lower (Text.trim href))

/-- **The reasons of the mail rules**: what makes one of them do something of its own with an
element. -/
inductive Triggered (o : Options) (n : Node) : Prop where
  /-- A division is a signature. -/
  | signature : Text.lowerName n.tag = "div" → isSignature n = true → Triggered o n
  /-- A division is a quoted reply. -/
  | quoted : Text.lowerName n.tag = "div" → isQuoted n = true → Triggered o n
  /-- A division is a wrapper of Outlook's. -/
  | outlook : Text.lowerName n.tag = "div" → isOutlookWrapper n = true → Triggered o n
  /-- A table is used for layout. -/
  | layout : Text.lowerName n.tag = "table" → Table.isLayout n = true → Triggered o n
  /-- A link is a telephone number. -/
  | phone : Text.lowerName n.tag = "a" → isPhoneLink n = true → Triggered o n
  /-- An inline element asks for a style that is to be converted. -/
  | styled : Text.lowerName n.tag ∈ ["span", "font"] → o.convertInlineStyles = true →
      InlineStyle.ofNode n ≠ {} → Triggered o n
  /-- A block quote is marked as a quoted reply, and those are to be dropped. -/
  | cited : Text.lowerName n.tag = "blockquote" → o.preserveEmailQuotes = false →
      hasQuoteMarker n = true → Triggered o n

/-- Whether there is a reason can be found out. -/
instance (o : Options) (n : Node) : Decidable (Triggered o n) :=
  decidable_of_iff
    ((Text.lowerName n.tag = "div" ∧
        (isSignature n = true ∨ isQuoted n = true ∨ isOutlookWrapper n = true)) ∨
      (Text.lowerName n.tag = "table" ∧ Table.isLayout n = true) ∨
      (Text.lowerName n.tag = "a" ∧ isPhoneLink n = true) ∨
      (Text.lowerName n.tag ∈ ["span", "font"] ∧ o.convertInlineStyles = true ∧
        InlineStyle.ofNode n ≠ {}) ∨
      Text.lowerName n.tag = "blockquote" ∧ o.preserveEmailQuotes = false ∧
        hasQuoteMarker n = true)
    ⟨by
      rintro (⟨hn, hs | hq | hw⟩ | ⟨hn, hl⟩ | ⟨hn, hp⟩ | ⟨hn, hc, hs⟩ | ⟨hn, hk, hm⟩)
      · exact .signature hn hs
      · exact .quoted hn hq
      · exact .outlook hn hw
      · exact .layout hn hl
      · exact .phone hn hp
      · exact .styled hn hc hs
      · exact .cited hn hk hm,
    by
      rintro (⟨hn, h⟩ | ⟨hn, h⟩ | ⟨hn, h⟩ | ⟨hn, h⟩ | ⟨hn, h⟩ | ⟨hn, hc, h⟩ | ⟨hn, hk, h⟩)
      · exact .inl ⟨hn, .inl h⟩
      · exact .inl ⟨hn, .inr (.inl h)⟩
      · exact .inl ⟨hn, .inr (.inr h)⟩
      · exact .inr (.inl ⟨hn, h⟩)
      · exact .inr (.inr (.inl ⟨hn, h⟩))
      · exact .inr (.inr (.inr (.inl ⟨hn, hc, h⟩)))
      · exact .inr (.inr (.inr (.inr ⟨hn, hk, h⟩)))⟩

/-! ## What the mail rules do without a reason -/

section

variable {o : Options} {n : Node}

theorem division_action (h : ¬ Triggered o n) (hn : Text.lowerName n.tag = "div")
    (content : Text) :
    division.action n content o = General.container.action n content o := by
  have h₁ : ¬ isSignature n = true := fun hs => h (.signature hn hs)
  have h₂ : ¬ isQuoted n = true := fun hq => h (.quoted hn hq)
  have h₃ : ¬ isOutlookWrapper n = true := fun hw => h (.outlook hn hw)
  unfold division Rule.forTag
  simp only [if_neg h₁, if_neg h₂, if_neg h₃]
  rfl

theorem table_action (h : ¬ Triggered o n) (hn : Text.lowerName n.tag = "table")
    (content : Text) : table.action n content o = General.table.action n content o := by
  have hlayout : ¬ Table.isLayout n = true := fun hl => h (.layout hn hl)
  unfold table General.table Rule.forTag
  simp only [if_neg hlayout]
  cases o.tableHandling <;> rfl

theorem inlineStyle_action (h : ¬ Triggered o n) (hn : Text.lowerName n.tag ∈ ["span", "font"])
    (content : Text) : inlineStyle.action n content o = .ok content := by
  unfold inlineStyle Rule.forTags
  simp only
  split
  · rename_i hconvert
    have hstyle : InlineStyle.ofNode n = {} := by
      by_contra hne
      exact h (.styled hn hconvert hne)
    rw [hstyle]
    simp [InlineStyle.apply]
  · rfl

theorem link_action (h : ¬ Triggered o n) (hn : Text.lowerName n.tag = "a") (content : Text) :
    link.action n content o = General.link.action n content o := by
  have hphone : ¬ isPhoneLink n = true := fun hp => h (.phone hn hp)
  unfold isPhoneLink at hphone
  unfold link Rule.forTag
  simp only [if_neg hphone]
  rfl

theorem blockquote_action (h : ¬ Triggered o n) (hn : Text.lowerName n.tag = "blockquote")
    (content : Text) :
    blockquote.action n content o = General.blockquote.action n content o := by
  have hcited : ¬ (!o.preserveEmailQuotes && hasQuoteMarker n) = true := by
    intro hc
    obtain ⟨hkeep, hmarker⟩ := Bool.and_eq_true_iff.1 hc
    exact h (.cited hn (by simpa using hkeep) hmarker)
  unfold blockquote Rule.forTag
  simp only [if_neg hcited]
  rfl

end

end Rule.Mail

namespace Convert

open Rule

variable {custom : RuleSet} {o : Options} {n : Node}

/-- The setup with some rules of the caller's beside the built-in ones. -/
def Setup.withCustom (custom : RuleSet) (o : Options) (isEmail : Bool) : Setup :=
  ⟨{ RuleBook.standard with custom := custom }, o, isEmail⟩

theorem Setup.ruleFor_custom {isEmail : Bool} {tag : String} {i : Nat}
    (h : custom.lookup? tag = some i) :
    (Setup.withCustom custom o isEmail).ruleFor tag = custom.rule? i := by
  have hset : RuleBook.set { RuleBook.standard with custom := custom } .custom = custom := rfl
  unfold Setup.ruleFor RuleBook.resolve? RuleBook.sources Setup.withCustom
  cases isEmail <;> simp [hset, h, RuleBook.rule?]

/-- **Where the caller has no rule for a tag**, the mail rules decide in mail, and the general ones
elsewhere and where there is no mail rule. -/
theorem Setup.ruleFor_builtin {isEmail : Bool} {tag : String} (h : custom.lookup? tag = none) :
    (Setup.withCustom custom o isEmail).ruleFor tag =
      (if isEmail then Mail.rules.find? tag else none).or (General.rules.find? tag) := by
  have hcustom : RuleBook.set { RuleBook.standard with custom := custom } .custom = custom := rfl
  have hemail : RuleBook.set { RuleBook.standard with custom := custom } .email = Mail.rules := rfl
  have hbase : RuleBook.set { RuleBook.standard with custom := custom } .base = General.rules := rfl
  have hgeneral : ((General.rules.lookup? tag).map (RulePlace.mk .base)).bind
      (RuleBook.rule? { RuleBook.standard with custom := custom }) = General.rules.find? tag := by
    unfold RuleSet.find?
    cases General.rules.lookup? tag <;> rfl
  unfold Setup.ruleFor RuleBook.resolve? RuleBook.sources Setup.withCustom
  cases isEmail with
  | false => simpa [hcustom, hbase, h] using hgeneral
  | true =>
    cases hm : Mail.rules.lookup? tag with
    | none =>
      have hnone : Mail.rules.find? tag = none := by rw [RuleSet.find?, hm, Option.bind_none]
      simpa [hcustom, hemail, hbase, h, hm, hnone] using hgeneral
    | some i =>
      obtain ⟨rule, hrule⟩ := Mail.find?_of_lookup? hm
      have hplace : Mail.rules.rule? i = some rule := by
        rwa [RuleSet.find?, hm, Option.bind_some] at hrule
      simp [hcustom, hemail, h, hm, hrule, hplace, RuleBook.rule?]

/-- **Without a reason, being in mail makes no difference to an element**, whatever the rules of the
caller are. -/
theorem finish_mail (h : ¬ Mail.Triggered o n) (content : Text) :
    (Setup.withCustom custom o true).finish ((Setup.withCustom custom o true).ruleFor n.tag) n
        content =
      (Setup.withCustom custom o false).finish ((Setup.withCustom custom o false).ruleFor n.tag) n
        content := by
  cases hc : custom.lookup? n.tag with
  | some i =>
    rw [Setup.ruleFor_custom hc, Setup.ruleFor_custom hc]
    rfl
  | none =>
    rw [Setup.ruleFor_builtin hc, Setup.ruleFor_builtin hc, if_pos rfl, if_neg Bool.false_ne_true,
      Option.none_or]
    cases hm : Mail.rules.find? n.tag with
    | none => rfl
    | some rule =>
      rw [Option.some_or]
      -- one case for each mail rule; the general rule for its tag does the same
      rcases Mail.find?_cases hm with ⟨rfl, hn⟩ | ⟨rfl, hn⟩ | ⟨rfl, hn⟩ | ⟨rfl, hn⟩ | ⟨rfl, hn⟩ |
        ⟨rfl, hn⟩
      · rw [RuleSet.find?_congr (u := "div") (hn.trans (by decide)),
          General.find?_container "div" (by decide)]
        exact Setup.finish_congr (Mail.division_action h hn content)
      · rw [RuleSet.find?_congr (u := "table") (hn.trans (by decide)),
          General.find?_table]
        exact Setup.finish_congr (Mail.table_action h hn content)
      · rw [General.find?_styled hn]
        exact Setup.finish_ok (Mail.inlineStyle_action h hn content)
      · rw [RuleSet.find?_congr (u := "a") (hn.trans (by decide)),
          General.find?_link]
        exact Setup.finish_congr (Mail.link_action h hn content)
      · rw [RuleSet.find?_congr (u := "blockquote") (hn.trans (by decide)),
          General.find?_blockquote]
        exact Setup.finish_congr (Mail.blockquote_action h hn content)
      · rw [RuleSet.find?_congr (u := "pre") (hn.trans (by decide)),
          General.find?_codeBlock]
        rfl

end Convert

end HtmlMarkdown
