import HtmlMarkdown.Proofs.Convert.Mirror
import HtmlMarkdown.Proofs.Rule.Book
import HtmlMarkdown.Service

/-!
# Conversions and the chunk size

The chunk size is among the options that a rule gets to see, but none of the built-in rules looks at
it. Unless a rule of the caller's does, conversions with different chunk sizes go in step.

* `RuleBook.ignoresBatchSize_ofHistory`: **the built-in rules do not depend on the chunk size**.
* `Service.convert_withBatchSize`: where no rule does, no conversion does.
-/

namespace HtmlMarkdown

/-! ## Rules -/

/-- The action of the rule does not depend on the chunk size. -/
def Rule.IgnoresBatchSize (rule : Rule) : Prop :=
  ∀ n content o size, rule.action n content { o with batchSize := size } = rule.action n content o

/-- No rule of the book depends on the chunk size. -/
def RuleBook.IgnoresBatchSize (b : RuleBook) : Prop :=
  ∀ place rule, b.rule? place = some rule → rule.IgnoresBatchSize

theorem Rule.General.ignoresBatchSize : ∀ e ∈ General.entries, e.2.IgnoresBatchSize := by
  intro e he
  rcases List.mem_append.1 he with he | he
  · simp only [List.mem_cons, List.not_mem_nil, or_false] at he
    rcases he with rfl | rfl | rfl | rfl | rfl | rfl | rfl | rfl | rfl | rfl | rfl | rfl | rfl |
      rfl | rfl | rfl | rfl | rfl <;> exact fun _ _ _ _ => rfl
  · obtain ⟨tag, -, rfl⟩ := List.mem_map.1 he
    exact fun _ _ _ _ => rfl

theorem Rule.Mail.ignoresBatchSize : ∀ e ∈ Mail.entries, e.2.IgnoresBatchSize := by
  intro e he
  simp only [entries, List.mem_cons, List.not_mem_nil, or_false] at he
  rcases he with rfl | rfl | rfl | rfl | rfl | rfl <;> exact fun _ _ _ _ => rfl

/-- **The built-in rules do not depend on the chunk size**, so only those of the caller count. -/
theorem RuleBook.ignoresBatchSize_ofHistory {history : List (String × Rule)}
    (h : ∀ e ∈ history, e.2.IgnoresBatchSize) : (ofHistory history).IgnoresBatchSize := by
  rintro ⟨source, i⟩ rule hrule
  obtain ⟨key, hs⟩ := rule?_ofHistory.1 hrule
  obtain ⟨e, he, rfl⟩ := hs.exists_mem
  cases source with
  | custom => exact h e he
  | email => exact Rule.Mail.ignoresBatchSize e he
  | base => exact Rule.General.ignoresBatchSize e he

/-! ## Conversions -/

namespace Convert

/-- **Setups that differ in the chunk size go in step.** -/
theorem inStep_batchSize {rules : RuleBook} (h : rules.IgnoresBatchSize) (o : Options) (size : Nat)
    (isEmail : Bool) :
    InStep ⟨rules, { o with batchSize := size }, isEmail⟩ ⟨rules, o, isEmail⟩
      fun n n' => n = n' ∧ True := by
  refine InStep.self rfl (fun _ _ => trivial) fun {n} _ content => ?_
  have hfor : (Setup.mk rules { o with batchSize := size } isEmail).ruleFor n.tag =
    (Setup.mk rules o isEmail).ruleFor n.tag := rfl
  rw [hfor]
  cases hrule : (Setup.mk rules o isEmail).ruleFor n.tag with
  | none => rfl
  | some rule =>
    obtain ⟨place, -, hplace⟩ := Option.bind_eq_some_iff.1 hrule
    exact Setup.finish_congr (h place rule hplace n content o size)

end Convert

namespace Service

variable {s : Service}

/-- The service with another chunk size. -/
def withBatchSize (s : Service) (size : Nat) : Service :=
  { s with options := { s.options with batchSize := size } }

/-- The rest of a conversion looks at other options only. -/
theorem convertDocument_withBatchSize (h : s.rules.IgnoresBatchSize) (size : Nat) (d : Document) :
    (s.withBatchSize size).convertDocument d = s.convertDocument d := by
  have hbody : (Convert.Setup.mk (s.withBatchSize size).rules (s.withBatchSize size).options
      (Email.detect d).isEmail).convert d.body =
      (Convert.Setup.mk s.rules s.options (Email.detect d).isEmail).convert d.body :=
    (Convert.inStep_batchSize h s.options size _).convert_eq ⟨rfl, trivial⟩
  unfold convertDocument
  dsimp only
  rw [hbody]
  rfl

/-- **Where no rule looks at the chunk size, no conversion depends on it.** -/
theorem convert_withBatchSize (h : s.rules.IgnoresBatchSize) (size : Nat) (source : Text) :
    (s.withBatchSize size).convert source = s.convert source := by
  unfold convert
  rw [convertDocument_withBatchSize h]
  rfl

end Service

end HtmlMarkdown
