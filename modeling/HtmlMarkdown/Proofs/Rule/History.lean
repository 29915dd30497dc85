import HtmlMarkdown.Proofs.Rule.Index
import Mathlib.Data.List.Nodup

/-!
# The history of a set of rules

A set of rules comes about by insertions, and its history says what it holds: `Stands history i key
rule` if `key` was the `i`-th key to be used and `rule` was the last to be put under it.

* `follows_ofHistory`: the set holds the rules that stand, each in its place, and no others.
* `lookup?_ofHistory`: **the rule for a tag** is found as by a search through all rules that stand,
  and a rule that is replaced leaves its place to the new one and nothing else.
-/

namespace HtmlMarkdown.RuleSet

variable {history : List (String × Rule)} {rules : Array (String × Rule)} {rule old : Rule}
variable {key tag : String} {i j : Nat}

/-! ## What stands -/

/-- The set after some insertions. -/
def ofHistory (history : List (String × Rule)) : RuleSet :=
  history.foldl (fun s e => s.insert e.1 e.2) empty

/-- The keys in the order in which they were first used. -/
def keysOf (history : List (String × Rule)) : List String := (history.map (·.1)).eraseDups

/-- The rule that was put under a key last. -/
def latest? (history : List (String × Rule)) (key : String) : Option Rule :=
  (history.reverse.find? (·.1 == key)).map (·.2)

/-- The key was the `i`-th one to be used, and the rule was the last to be put under it. -/
def Stands (history : List (String × Rule)) (i : Nat) (key : String) (rule : Rule) : Prop :=
  (keysOf history)[i]? = some key ∧ latest? history key = some rule

/-- The `i`-th rule accepts the tag, and of the others that do none has a higher priority, nor has
an earlier one the same. -/
def Wins (history : List (String × Rule)) (tag : String) (i : Nat) : Prop :=
  ∃ key rule, Stands history i key rule ∧ rule.filter.accepts tag = true ∧
    ∀ j key' rule', Stands history j key' rule' → rule'.filter.accepts tag = true →
      rule'.priority < rule.priority ∨ (rule'.priority = rule.priority ∧ i ≤ j)

theorem keysOf_snoc (history : List (String × Rule)) (key : String) (rule : Rule) :
    keysOf (history ++ [(key, rule)]) =
      if key ∈ keysOf history then keysOf history else keysOf history ++ [key] := by
  unfold keysOf
  rw [List.map_append, List.eraseDups_append]
  by_cases h : key ∈ history.map (·.1)
  · rw [if_pos (List.mem_eraseDups.2 h)]
    simp [List.removeAll, List.mem_map.1 h]
  · rw [if_neg fun h' => h (List.mem_eraseDups.1 h')]
    have hone : [key].removeAll (history.map (·.1)) = [key] := by simpa [List.removeAll] using h
    rw [List.map_singleton, hone]
    rfl

theorem latest?_snoc (history : List (String × Rule)) (key k : String) (rule : Rule) :
    latest? (history ++ [(key, rule)]) k = if key = k then some rule else latest? history k := by
  unfold latest?
  rw [List.reverse_append, List.reverse_singleton, List.singleton_append]
  by_cases h : key = k
  · rw [if_pos h, List.find?_cons_of_pos (by simpa using h)]
    rfl
  · rw [if_neg h, List.find?_cons_of_neg (by simpa using h)]

/-! ## Putting a rule under a key -/

/-- A key that is in use has one position. -/
theorem findIdx?_of_used (hnd : (rules.toList.map (·.1)).Nodup) (h : rules[i]? = some (key, old)) :
    rules.findIdx? (·.1 == key) = some i := by
  obtain ⟨hi, he⟩ := Array.getElem?_eq_some_iff.1 h
  rw [Array.findIdx?_eq_some_iff_getElem]
  refine ⟨hi, by rw [he]; exact beq_self_eq_true key, fun j hj hkey => ?_⟩
  -- a second position would repeat the key
  have hjs : j < rules.size := by omega
  have hji : (rules.toList.map (·.1))[j]? = (rules.toList.map (·.1))[i]? := by
    rw [List.getElem?_map, List.getElem?_map, Array.getElem?_toList, Array.getElem?_toList, h,
      Array.getElem?_eq_getElem hjs, Option.map_some, Option.map_some, eq_of_beq hkey]
  have := (List.getElem?_inj (by simpa using hjs) hnd).1 hji
  omega

/-- **A key that is in use keeps its position**, and so do all others. -/
theorem getElem?_putRule_of_used (hnd : (rules.toList.map (·.1)).Nodup)
    (h : rules[i]? = some (key, old)) (rule : Rule) (j : Nat) :
    (putRule rules key rule)[j]? = if j = i then some (key, rule) else rules[j]? := by
  unfold putRule
  rw [findIdx?_of_used hnd h]
  simp only [Array.getElem?_modify]
  by_cases hj : j = i
  · subst hj
    simp [h]
  · have hij : i ≠ j := fun e => hj e.symm
    simp [hj, hij]

/-- The rules of a set are those that stand in a history. -/
structure Follows (history : List (String × Rule)) (rules : Array (String × Rule)) : Prop where
  keys : rules.toList.map (·.1) = keysOf history
  nodup : (keysOf history).Nodup
  latest : ∀ e ∈ rules, latest? history e.1 = some e.2

namespace Follows

theorem nodup_keys (h : Follows history rules) : (rules.toList.map (·.1)).Nodup := by
  rw [h.keys]
  exact h.nodup

theorem keys_getElem? (h : Follows history rules) (i : Nat) :
    (keysOf history)[i]? = rules[i]?.map (·.1) := by
  rw [← h.keys, List.getElem?_map, Array.getElem?_toList]

/-- **The rules at their positions are the rules that stand.** -/
theorem stands_iff (h : Follows history rules) :
    Stands history i key rule ↔ rules[i]? = some (key, rule) := by
  unfold Stands
  rw [h.keys_getElem?]
  constructor
  · rintro ⟨hkey, hrule⟩
    obtain ⟨⟨k, r⟩, he, rfl⟩ := Option.map_eq_some_iff.1 hkey
    have hr := h.latest _ (Array.mem_of_getElem? he)
    rw [he, ← Option.some.inj (hr.symm.trans hrule)]
  · intro he
    rw [he]
    exact ⟨rfl, h.latest _ (Array.mem_of_getElem? he)⟩

/-- A key in use is replaced. -/
theorem put_used (h : Follows history rules) (hkey : key ∈ keysOf history) (rule : Rule) :
    Follows (history ++ [(key, rule)]) (putRule rules key rule) := by
  obtain ⟨i, hi⟩ := List.mem_iff_getElem?.1 hkey
  rw [h.keys_getElem?] at hi
  obtain ⟨⟨k, old⟩, he, rfl⟩ := Option.map_eq_some_iff.1 hi
  have hget := getElem?_putRule_of_used h.nodup_keys he rule
  rw [← h.keys] at hkey
  refine ⟨?_, ?_, ?_⟩
  · rw [keysOf_snoc, ← h.keys, if_pos hkey]
    apply List.ext_getElem?
    intro j
    rw [List.getElem?_map, List.getElem?_map, Array.getElem?_toList, Array.getElem?_toList, hget j]
    split
    · rename_i hj
      rw [hj, he]
      rfl
    · rfl
  · rw [keysOf_snoc, ← h.keys, if_pos hkey]
    exact h.nodup_keys
  · intro e hmem
    obtain ⟨j, hj⟩ := Array.mem_iff_getElem?.1 hmem
    rw [hget j] at hj
    split at hj
    · cases hj
      rw [latest?_snoc, if_pos rfl]
    · rename_i hji
      -- no other position has the key
      have hne : k ≠ e.1 := by
        intro heq
        have h₁ : rules.findIdx? (·.1 == e.1) = some j := findIdx?_of_used h.nodup_keys hj
        rw [← heq, findIdx?_of_used h.nodup_keys he] at h₁
        exact hji (Option.some.inj h₁).symm
      rw [latest?_snoc, if_neg hne]
      exact h.latest e (Array.mem_of_getElem? hj)

/-- A new key comes last. -/
theorem put_new (h : Follows history rules) (hkey : key ∉ keysOf history) (rule : Rule) :
    Follows (history ++ [(key, rule)]) (putRule rules key rule) := by
  have hne : ∀ e ∈ rules, e.1 ≠ key := by
    rintro e he rfl
    rw [← h.keys] at hkey
    exact hkey (List.mem_map_of_mem (Array.mem_toList_iff.2 he))
  rw [putRule_of_new hne]
  refine ⟨?_, ?_, ?_⟩
  · rw [keysOf_snoc, if_neg hkey, ← h.keys]
    simp
  · rw [keysOf_snoc, if_neg hkey, List.nodup_append]
    refine ⟨h.nodup, List.nodup_singleton key, ?_⟩
    rintro a ha b hb rfl
    rw [List.mem_singleton.1 hb] at ha
    exact hkey ha
  · intro e he
    rcases Array.mem_push.1 he with he | rfl
    · rw [latest?_snoc, if_neg fun heq => hne e he heq.symm]
      exact h.latest e he
    · rw [latest?_snoc, if_pos rfl]

end Follows

/-! ## The set of a history -/

theorem ofHistory_snoc (history : List (String × Rule)) (key : String) (rule : Rule) :
    ofHistory (history ++ [(key, rule)]) = (ofHistory history).insert key rule := by
  unfold ofHistory
  rw [List.foldl_append]
  rfl

/-- **The set holds the rules that stand.** -/
theorem follows_ofHistory (history : List (String × Rule)) :
    Follows history (ofHistory history).rules := by
  induction history using List.reverseRecOn with
  | nil => exact ⟨rfl, List.nodup_nil, fun e he => absurd he (Array.not_mem_empty e)⟩
  | append_singleton history e ih =>
    obtain ⟨key, rule⟩ := e
    rw [ofHistory_snoc, insert, ofRules_rules]
    by_cases h : key ∈ keysOf history
    · exact ih.put_used h rule
    · exact ih.put_new h rule

/-- Its index is made of these rules alone. -/
theorem ofHistory_eq (history : List (String × Rule)) :
    ofHistory history = ofRules (ofHistory history).rules := by
  induction history using List.reverseRecOn with
  | nil => rfl
  | append_singleton history e ih =>
    rw [ofHistory_snoc, insert, ofRules_rules]

theorem rule?_eq_some_iff :
    (ofHistory history).rule? i = some rule ↔ ∃ key, Stands history i key rule := by
  unfold rule?
  rw [Option.map_eq_some_iff]
  simp only [(follows_ofHistory history).stands_iff, Prod.exists]
  constructor
  · rintro ⟨k, r, he, rfl⟩
    exact ⟨k, he⟩
  · rintro ⟨k, he⟩
    exact ⟨k, rule, he, rfl⟩

/-- The index holds the positions of the rules that stand and accept the tag. -/
theorem mem_positions_ofHistory :
    i ∈ (ofHistory history).positions tag ↔
      ∃ key rule, Stands history i key rule ∧ rule.filter.accepts tag = true := by
  rw [ofHistory_eq, mem_positions]
  simp only [(follows_ofHistory history).stands_iff, Prod.exists]

theorem wins_iff : (ofHistory history).lookup? tag = some i ↔ Wins history tag i := by
  have hpriority : ∀ {j : Nat} {e : String × Rule}, (ofHistory history).rules[j]? = some e →
      (ofRules (ofHistory history).rules).priority j = e.2.priority := priority_of_getElem?
  rw [ofHistory_eq, lookup?_eq_some_iff]
  unfold Wins
  simp only [(follows_ofHistory history).stands_iff]
  constructor
  · rintro ⟨⟨⟨key, rule⟩, he, hacc⟩, hbest⟩
    refine ⟨key, rule, he, hacc, fun j key' rule' he' hacc' => ?_⟩
    have := hbest j _ he' hacc'
    unfold NoWorse at this
    rwa [hpriority he, hpriority he'] at this
  · rintro ⟨key, rule, he, hacc, hbest⟩
    refine ⟨⟨(key, rule), he, hacc⟩, fun j e' he' hacc' => ?_⟩
    unfold NoWorse
    rw [hpriority he, hpriority he']
    exact hbest j e'.1 e'.2 he' hacc'

theorem lookup?_ofHistory_none_iff :
    (ofHistory history).lookup? tag = none ↔
      ∀ i key rule, Stands history i key rule → rule.filter.accepts tag = false := by
  rw [ofHistory_eq, lookup?_eq_none_iff]
  simp only [(follows_ofHistory history).stands_iff, Prod.forall]

/-- Where a key is in use, the new rule takes its place and no other rule moves. -/
theorem rule?_insert_of_stands (h : Stands history i key old) (rule : Rule) (j : Nat) :
    ((ofHistory history).insert key rule).rule? j =
      if j = i then some rule else (ofHistory history).rule? j := by
  have hfollows := follows_ofHistory history
  unfold rule? insert
  rw [ofRules_rules, getElem?_putRule_of_used hfollows.nodup_keys (hfollows.stands_iff.1 h)]
  split <;> rfl

/-- The index then has the new rule in place of the old one, under the tags of the new one. -/
theorem mem_positions_insert_of_stands (h : Stands history i key old) (rule : Rule) (j : Nat) :
    j ∈ ((ofHistory history).insert key rule).positions tag ↔
      if j = i then rule.filter.accepts tag = true
      else j ∈ (ofHistory history).positions tag := by
  have hfollows := follows_ofHistory history
  rw [insert, mem_positions,
    getElem?_putRule_of_used hfollows.nodup_keys (hfollows.stands_iff.1 h)]
  split
  · simp
  · rw [mem_positions_ofHistory]
    simp only [hfollows.stands_iff, Prod.exists]

/-- **A set of rules answers like a search through its rules**, whatever was inserted. A tag has no
rule if and only if no rule that stands accepts it; otherwise its rule is the one that wins, at the
place of its key in the order of first use. The index for a tag holds the places of the rules that
accept it; and a rule put under a key in use takes the place of the old one, in the set as in the
index. -/
theorem lookup?_ofHistory (history : List (String × Rule)) (tag : String) :
    ((ofHistory history).lookup? tag = none ↔
      ∀ i key rule, Stands history i key rule → rule.filter.accepts tag = false) ∧
    (∀ i, (ofHistory history).lookup? tag = some i ↔ Wins history tag i) ∧
    (∀ i rule, (ofHistory history).rule? i = some rule ↔ ∃ key, Stands history i key rule) ∧
    (∀ i, i ∈ (ofHistory history).positions tag ↔
      ∃ key rule, Stands history i key rule ∧ rule.filter.accepts tag = true) ∧
    ∀ i key old rule, Stands history i key old → ∀ j,
      ((ofHistory history).insert key rule).rule? j =
        (if j = i then some rule else (ofHistory history).rule? j) ∧
      (j ∈ ((ofHistory history).insert key rule).positions tag ↔
        if j = i then rule.filter.accepts tag = true
        else j ∈ (ofHistory history).positions tag) := by
  refine ⟨lookup?_ofHistory_none_iff, fun i => wins_iff, fun i rule => rule?_eq_some_iff,
    fun i => mem_positions_ofHistory, ?_⟩
  intro i key old rule h j
  exact ⟨rule?_insert_of_stands h rule j, mem_positions_insert_of_stands h rule j⟩

end HtmlMarkdown.RuleSet
