import HtmlMarkdown.Rule.Set
import Mathlib.Data.List.Induction
import Mathlib.Data.Nat.Basic

/-!
# The index of a set of rules

A set finds the rule for a tag through its index. The index holds the positions of the rules that
accept the tag and no others (`mem_positions`), so the search has the outcome that a search through
all rules would have.

* `lookup?_eq_some_iff`, `lookup?_eq_none_iff`: **the rule for a tag** is, of those that accept it,
  the one that is no worse than any other.
* `find?_of_priority`: among rules of one priority it is the first.
* `foldl_insert`: rules that are inserted under different keys are all there, in order.
-/

namespace HtmlMarkdown.RuleSet

variable {s : RuleSet} {rules : Array (String × Rule)} {rule : Rule} {tag key : String}
variable {i j k : Nat}

/-- The positions that the index has for a tag. -/
def positions (s : RuleSet) (tag : String) : List Nat :=
  s.byTag.getD (Text.lowerName tag) [] ++ s.general

theorem lookup?_eq (s : RuleSet) (tag : String) : s.lookup? tag = s.best? (s.positions tag) := rfl

/-! ## Entering rules -/

theorem mem_addPosition {byTag : Std.HashMap String (List Nat)} {t u : String} :
    j ∈ (addPosition byTag t i).getD u [] ↔ j ∈ byTag.getD u [] ∨ (t = u ∧ j = i) := by
  unfold addPosition
  rw [Std.HashMap.getD_insert]
  by_cases h : t = u
  · subst h
    simp
  · simp [h]

theorem mem_addPositions {u : String} : ∀ (ts : List String)
    (byTag : Std.HashMap String (List Nat)),
    j ∈ (ts.foldl (fun m t => addPosition m t i) byTag).getD u [] ↔
      j ∈ byTag.getD u [] ∨ (u ∈ ts ∧ j = i) := by
  intro ts
  induction ts with
  | nil => intro byTag; simp
  | cons t ts ih =>
    intro byTag
    rw [List.foldl_cons, ih, mem_addPosition, List.mem_cons]
    constructor
    · rintro ((h | ⟨rfl, h⟩) | ⟨h, h'⟩)
      · exact Or.inl h
      · exact Or.inr ⟨Or.inl rfl, h⟩
      · exact Or.inr ⟨Or.inr h, h'⟩
    · rintro (h | ⟨rfl | h, h'⟩)
      · exact Or.inl (Or.inl h)
      · exact Or.inl (Or.inr ⟨rfl, h'⟩)
      · exact Or.inr ⟨h, h'⟩

/-- **A rule is entered for the tags that it accepts.** -/
theorem mem_positions_indexRule :
    j ∈ (s.indexRule i rule).positions tag ↔
      j ∈ s.positions tag ∨ (rule.filter.accepts tag = true ∧ j = i) := by
  unfold positions indexRule Filter.accepts
  cases rule.filter with
  | tag t =>
    simp only [List.mem_append, mem_addPosition, beq_iff_eq]
    rw [eq_comm (a := t)]
    tauto
  | tags ts =>
    simp only [List.mem_append, mem_addPositions, List.contains_iff_mem]
    tauto
  | any =>
    simp only [List.mem_append, List.mem_singleton, true_and]
    tauto

theorem indexRule_rules (s : RuleSet) (i : Nat) (rule : Rule) :
    (s.indexRule i rule).rules = s.rules := by
  unfold indexRule
  cases rule.filter <;> rfl

theorem foldl_indexRule_rules : ∀ (entries : List ((String × Rule) × Nat)) (s : RuleSet),
    (entries.foldl (fun s e => s.indexRule e.2 e.1.2) s).rules = s.rules := by
  intro entries
  induction entries with
  | nil => intro s; rfl
  | cons e entries ih => intro s; rw [List.foldl_cons, ih, indexRule_rules]

theorem mem_positions_foldl : ∀ (entries : List ((String × Rule) × Nat)) (s : RuleSet),
    j ∈ (entries.foldl (fun s e => s.indexRule e.2 e.1.2) s).positions tag ↔
      j ∈ s.positions tag ∨ ∃ e, (e, j) ∈ entries ∧ e.2.filter.accepts tag = true := by
  intro entries
  induction entries with
  | nil => intro s; simp
  | cons e entries ih =>
    intro s
    rw [List.foldl_cons, ih, mem_positions_indexRule]
    constructor
    · rintro ((h | ⟨h, rfl⟩) | ⟨e', he', h⟩)
      · exact Or.inl h
      · exact Or.inr ⟨e.1, List.mem_cons_self, h⟩
      · exact Or.inr ⟨e', List.mem_cons_of_mem _ he', h⟩
    · rintro (h | ⟨e', he', h⟩)
      · exact Or.inl (Or.inl h)
      · rcases List.mem_cons.1 he' with rfl | he'
        · exact Or.inl (Or.inr ⟨h, rfl⟩)
        · exact Or.inr ⟨e', he', h⟩

@[simp] theorem ofRules_rules (rules : Array (String × Rule)) : (ofRules rules).rules = rules :=
  foldl_indexRule_rules _ _

/-- **The index holds the positions of the rules that accept the tag.** -/
theorem mem_positions :
    i ∈ (ofRules rules).positions tag ↔
      ∃ e, rules[i]? = some e ∧ e.2.filter.accepts tag = true := by
  have hempty : i ∉ ({ rules := rules } : RuleSet).positions tag := by simp [positions]
  unfold ofRules
  rw [mem_positions_foldl, or_iff_right hempty]
  simp only [List.mem_zipIdx_iff_getElem?, Array.getElem?_toList]

/-! ## The best of some positions -/

/-- The rule at one position goes before the rule at another, or is the same. -/
def NoWorse (s : RuleSet) (i j : Nat) : Prop :=
  s.priority j < s.priority i ∨ (s.priority j = s.priority i ∧ i ≤ j)

theorem NoWorse.refl (s : RuleSet) (i : Nat) : s.NoWorse i i := Or.inr ⟨rfl, le_rfl⟩

theorem NoWorse.trans (h : s.NoWorse i j) (h' : s.NoWorse j k) : s.NoWorse i k := by
  unfold NoWorse at *
  omega

theorem NoWorse.antisymm (h : s.NoWorse i j) (h' : s.NoWorse j i) : i = j := by
  unfold NoWorse at *
  omega

/-- The better of two positions is one of them, and no worse than either. -/
theorem better_spec (s : RuleSet) (i j : Nat) :
    (s.better i j = i ∨ s.better i j = j) ∧
      s.NoWorse (s.better i j) i ∧ s.NoWorse (s.better i j) j := by
  unfold better NoWorse
  split
  · exact ⟨Or.inl rfl, Or.inr ⟨rfl, le_rfl⟩, Or.inl ‹_›⟩
  · split
    · exact ⟨Or.inr rfl, Or.inl ‹_›, Or.inr ⟨rfl, le_rfl⟩⟩
    · rcases Nat.le_total i j with h | h
      · rw [Nat.min_eq_left h]
        exact ⟨Or.inl rfl, Or.inr ⟨rfl, le_rfl⟩, Or.inr ⟨by omega, h⟩⟩
      · rw [Nat.min_eq_right h]
        exact ⟨Or.inr rfl, Or.inr ⟨by omega, h⟩, Or.inr ⟨rfl, le_rfl⟩⟩

theorem foldl_better_spec (s : RuleSet) : ∀ (rest : List Nat) (i : Nat),
    rest.foldl s.better i ∈ i :: rest ∧
      ∀ j ∈ i :: rest, s.NoWorse (rest.foldl s.better i) j := by
  intro rest
  induction rest with
  | nil =>
    intro i
    refine ⟨List.mem_cons_self, fun j hj => ?_⟩
    rw [List.mem_singleton] at hj
    subst hj
    exact NoWorse.refl s j
  | cons k rest ih =>
    intro i
    obtain ⟨hmem, hbest⟩ := ih (s.better i k)
    obtain ⟨hone, hi, hk⟩ := better_spec s i k
    rw [List.foldl_cons]
    have hhead := hbest _ List.mem_cons_self
    refine ⟨?_, fun j hj => ?_⟩
    · rcases List.mem_cons.1 hmem with h | h
      · rw [h]
        rcases hone with h | h <;> simp [h]
      · exact List.mem_cons_of_mem _ (List.mem_cons_of_mem _ h)
    · rcases List.mem_cons.1 hj with rfl | hj
      · exact hhead.trans hi
      · rcases List.mem_cons.1 hj with rfl | hj
        · exact hhead.trans hk
        · exact hbest j (List.mem_cons_of_mem _ hj)

theorem best?_eq_none_iff {positions : List Nat} : s.best? positions = none ↔ positions = [] := by
  cases positions <;> simp [best?]

theorem best?_eq_some_iff {positions : List Nat} :
    s.best? positions = some i ↔ i ∈ positions ∧ ∀ j ∈ positions, s.NoWorse i j := by
  cases positions with
  | nil => simp [best?]
  | cons k rest =>
    obtain ⟨hmem, hbest⟩ := foldl_better_spec s rest k
    simp only [best?, Option.some.injEq]
    constructor
    · rintro rfl
      exact ⟨hmem, hbest⟩
    · rintro ⟨hi, h⟩
      exact (hbest i hi).antisymm (h _ hmem)

/-! ## Looking a tag up -/

/-- **The rule for a tag**: it accepts the tag and is no worse than any other that does. -/
theorem lookup?_eq_some_iff :
    (ofRules rules).lookup? tag = some i ↔
      (∃ e, rules[i]? = some e ∧ e.2.filter.accepts tag = true) ∧
        ∀ (j : Nat) (e : String × Rule), rules[j]? = some e → e.2.filter.accepts tag = true →
          (ofRules rules).NoWorse i j := by
  rw [lookup?_eq, best?_eq_some_iff, mem_positions]
  refine and_congr_right fun _ => ⟨fun h j e hj he => h j (mem_positions.2 ⟨e, hj, he⟩), ?_⟩
  intro h j hj
  obtain ⟨e, hj, he⟩ := mem_positions.1 hj
  exact h j e hj he

/-- **A tag has no rule** if and only if no rule accepts it. -/
theorem lookup?_eq_none_iff :
    (ofRules rules).lookup? tag = none ↔
      ∀ (j : Nat) (e : String × Rule), rules[j]? = some e → e.2.filter.accepts tag = false := by
  rw [lookup?_eq, best?_eq_none_iff, List.eq_nil_iff_forall_not_mem]
  constructor
  · intro h j e hj
    rw [← Bool.not_eq_true]
    exact fun he => h j (mem_positions.2 ⟨e, hj, he⟩)
  · intro h j hj
    obtain ⟨e, hj, he⟩ := mem_positions.1 hj
    rw [h j e hj] at he
    cases he

/-- The rule for a tag is the same in whatever case the tag is written. -/
theorem find?_congr {t u : String} (h : Text.lowerName t = Text.lowerName u) (s : RuleSet) :
    s.find? t = s.find? u := by
  unfold find? lookup?
  rw [h]

/-- A place that is found has a rule. -/
theorem find?_of_lookup? (h : (ofRules rules).lookup? tag = some i) :
    ∃ rule, (ofRules rules).find? tag = some rule := by
  obtain ⟨⟨e, he, -⟩, -⟩ := lookup?_eq_some_iff.1 h
  refine ⟨e.2, ?_⟩
  unfold find? rule?
  rw [h, ofRules_rules, Option.bind_some, he]
  rfl

theorem priority_of_getElem? {e : String × Rule} (h : rules[i]? = some e) :
    (ofRules rules).priority i = e.2.priority := by
  unfold priority rule?
  rw [ofRules_rules, h]
  rfl

/-- **Among rules of one priority the first that accepts the tag is taken.** -/
theorem find?_of_priority {priority : Int} (h : ∀ e ∈ rules, e.2.priority = priority)
    (tag : String) :
    (ofRules rules).find? tag =
      (rules.toList.find? fun e => e.2.filter.accepts tag).map (·.2) := by
  unfold find?
  cases hf : rules.toList.find? fun e => e.2.filter.accepts tag with
  | none =>
    have hnone : (ofRules rules).lookup? tag = none := by
      rw [lookup?_eq_none_iff]
      intro j e hj
      have he := List.find?_eq_none.1 hf e (Array.mem_toList_iff.2 (Array.mem_of_getElem? hj))
      exact Bool.not_eq_true _ ▸ he
    rw [hnone]
    rfl
  | some e =>
    -- its position is the number of the rules before it, none of which accepts the tag
    obtain ⟨he, before, after, hsplit, hbefore⟩ := List.find?_eq_some_iff_append.1 hf
    have hi : rules[before.length]? = some e := by
      rw [← Array.getElem?_toList, hsplit]
      simp
    have hsome : (ofRules rules).lookup? tag = some before.length := by
      rw [lookup?_eq_some_iff]
      refine ⟨⟨e, hi, he⟩, fun j e' hj he' => Or.inr ⟨?_, ?_⟩⟩
      · rw [priority_of_getElem? hj, priority_of_getElem? hi, h _ (Array.mem_of_getElem? hj),
          h _ (Array.mem_of_getElem? hi)]
      · by_contra hlt
        rw [← Array.getElem?_toList, hsplit, List.getElem?_append_left (by omega)] at hj
        have hno := hbefore e' (List.mem_of_getElem? hj)
        rw [he'] at hno
        cases hno
    rw [hsome]
    simp only [Option.bind_some, Option.map_some]
    unfold rule?
    rw [ofRules_rules, hi]
    rfl

/-! ## Building a set -/

theorem putRule_of_new (h : ∀ e ∈ rules, e.1 ≠ key) :
    putRule rules key rule = rules.push (key, rule) := by
  have hnone : rules.findIdx? (·.1 == key) = none := by
    rw [Array.findIdx?_eq_none_iff]
    intro e he
    simp [h e he]
  unfold putRule
  rw [hnone]

/-- **Rules under different keys** are in the set in the order in which they were inserted. -/
theorem foldl_insert {entries : List (String × Rule)} (h : (entries.map (·.1)).Nodup) :
    entries.foldl (fun s e => s.insert e.1 e.2) empty = ofRules entries.toArray := by
  -- every insertion enters all rules anew, so only the last one counts for the index
  induction entries using List.reverseRecOn with
  | nil => rfl
  | append_singleton entries e ih =>
    rw [List.map_append, List.map_singleton, List.nodup_append] at h
    obtain ⟨hnd, -, hnew⟩ := h
    rw [List.foldl_append, ih hnd, List.foldl_cons, List.foldl_nil]
    unfold insert
    rw [ofRules_rules, putRule_of_new]
    · simp
    · intro e' he' heq
      have hmem : e'.1 ∈ entries.map (·.1) := List.mem_map_of_mem (by simpa using he')
      exact hnew _ hmem _ (List.mem_singleton_self _) heq

/-- **In a set of rules under different keys, all of one priority,** a tag has the first rule that
accepts it. -/
theorem find?_foldl_insert {entries : List (String × Rule)} (hkeys : (entries.map (·.1)).Nodup)
    {priority : Int} (hpriority : ∀ e ∈ entries, e.2.priority = priority) (tag : String) :
    (entries.foldl (fun s e => s.insert e.1 e.2) empty).find? tag =
      (entries.find? fun e => e.2.filter.accepts tag).map (·.2) := by
  rw [foldl_insert hkeys,
    find?_of_priority fun e he => hpriority e (List.mem_toArray.1 he)]

end HtmlMarkdown.RuleSet
