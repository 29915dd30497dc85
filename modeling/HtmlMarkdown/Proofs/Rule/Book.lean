import HtmlMarkdown.Proofs.Rule.History
import HtmlMarkdown.Rule.Book

/-!
# Additions to the rule book

The caller adds rules to the standard book, and a history of additions says what the book holds:
all three of its sets come about by insertions (`set_ofHistory`), so each tag has the winner of
every set.

* `stands_snoc_iff`: **a new key leaves all that stands where it is** and comes last itself.
* `lookup?_snoc`: the new rule has a tag if it prevails there, and no other tag changes.
* `resolve?_cases`: where a place comes from, and which sets had nothing to offer before it.
* `resolve?_ofHistory`: **an addition has its declared effect and no other**, and every place that
  the book resolves to holds a rule for the tag.
-/

namespace HtmlMarkdown

namespace RuleSet

variable {history : List (String × Rule)} {rule r : Rule} {key k tag : String} {i : Nat}

/-! ## A rule under a new key -/

/-- The rule accepts the tag, and every rule that stands and accepts it too has a lower
priority. -/
def Prevails (history : List (String × Rule)) (rule : Rule) (tag : String) : Prop :=
  rule.filter.accepts tag = true ∧
    ∀ i key r, Stands history i key r → r.filter.accepts tag = true → r.priority < rule.priority

theorem Stands.lt_length (h : Stands history i k r) : i < (keysOf history).length := by
  obtain ⟨hi, -⟩ := List.getElem?_eq_some_iff.1 h.1
  exact hi

theorem Stands.mem_keysOf (h : Stands history i k r) : k ∈ keysOf history :=
  List.mem_of_getElem? h.1

/-- What stands was put there. -/
theorem Stands.exists_mem (h : Stands history i k r) : ∃ e ∈ history, e.2 = r := by
  obtain ⟨e, he, hr⟩ := Option.map_eq_some_iff.1 h.2
  exact ⟨e, List.mem_reverse.1 (List.mem_of_find?_eq_some he), hr⟩

/-- **A new key leaves all that stands where it is** and comes last itself. -/
theorem stands_snoc_iff (hkey : key ∉ keysOf history) (rule : Rule) :
    Stands (history ++ [(key, rule)]) i k r ↔
      Stands history i k r ∨ (i = (keysOf history).length ∧ k = key ∧ r = rule) := by
  have hkeys : keysOf (history ++ [(key, rule)]) = keysOf history ++ [key] := by
    rw [keysOf_snoc, if_neg hkey]
  constructor
  · rintro ⟨hi, hr⟩
    rw [hkeys] at hi
    rw [latest?_snoc] at hr
    rcases Nat.lt_trichotomy i (keysOf history).length with hlt | heq | hgt
    · rw [List.getElem?_append_left hlt] at hi
      have hne : key ≠ k := by
        rintro rfl
        exact hkey (List.mem_of_getElem? hi)
      rw [if_neg hne] at hr
      exact Or.inl ⟨hi, hr⟩
    · subst heq
      simp only [List.getElem?_concat_length, Option.some.injEq] at hi
      subst hi
      rw [if_pos rfl] at hr
      exact Or.inr ⟨rfl, rfl, (Option.some.inj hr).symm⟩
    · rw [List.getElem?_eq_none (by simp; omega)] at hi
      cases hi
  · rintro (h | ⟨rfl, rfl, rfl⟩)
    · have hne : key ≠ k := fun e => hkey (e ▸ h.mem_keysOf)
      unfold Stands
      rw [hkeys, latest?_snoc, if_neg hne, List.getElem?_append_left h.lt_length]
      exact h
    · unfold Stands
      rw [hkeys, latest?_snoc]
      simp

/-- The winner stays where the new rule does not prevail. -/
theorem Wins.snoc (h : Wins history tag i) (hkey : key ∉ keysOf history)
    (hno : ¬ Prevails history rule tag) : Wins (history ++ [(key, rule)]) tag i := by
  obtain ⟨k, r, hs, hacc, hbest⟩ := h
  refine ⟨k, r, (stands_snoc_iff hkey rule).2 (Or.inl hs), hacc, fun j k' r' hs' hacc' => ?_⟩
  rcases (stands_snoc_iff hkey rule).1 hs' with hold | ⟨rfl, rfl, rfl⟩
  · exact hbest j k' r' hold hacc'
  · -- if the new rule were better than the winner, it would be better than all the others
    have hle : r'.priority ≤ r.priority := by
      by_contra hlt
      refine hno ⟨hacc', fun j' k'' r'' hs'' hacc'' => ?_⟩
      have := hbest j' k'' r'' hs'' hacc''
      omega
    have := hs.lt_length
    omega

/-- **The rule for a tag after a rule is put under a new key**: the new one if it prevails, and
else the one that it was before. -/
theorem lookup?_snoc (hkey : key ∉ keysOf history) (rule : Rule) (tag : String) :
    (Prevails history rule tag →
      (ofHistory (history ++ [(key, rule)])).lookup? tag = some (keysOf history).length) ∧
    (¬ Prevails history rule tag →
      (ofHistory (history ++ [(key, rule)])).lookup? tag = (ofHistory history).lookup? tag) := by
  refine ⟨fun h => ?_, fun hno => ?_⟩
  · have hlast : Stands (history ++ [(key, rule)]) (keysOf history).length key rule :=
      (stands_snoc_iff hkey rule).2 (Or.inr ⟨rfl, rfl, rfl⟩)
    refine wins_iff.2 ⟨key, rule, hlast, h.1, fun j k r hs hacc => ?_⟩
    rcases (stands_snoc_iff hkey rule).1 hs with hold | ⟨rfl, rfl, rfl⟩
    · exact Or.inl (h.2 j k r hold hacc)
    · exact Or.inr ⟨rfl, le_rfl⟩
  · cases hold : (ofHistory history).lookup? tag with
    | some i => exact wins_iff.2 ((wins_iff.1 hold).snoc hkey hno)
    | none =>
      have hnone := lookup?_ofHistory_none_iff.1 hold
      refine lookup?_ofHistory_none_iff.2 fun i k r hs => ?_
      rcases (stands_snoc_iff hkey rule).1 hs with hs | ⟨rfl, rfl, rfl⟩
      · exact hnone i k r hs
      · rw [← Bool.not_eq_true]
        intro hacc
        refine hno ⟨hacc, fun j k' r' hs' hacc' => ?_⟩
        rw [hnone j k' r' hs'] at hacc'
        cases hacc'

end RuleSet

namespace RuleBook

open RuleSet

variable {history : List (String × Rule)} {rule : Rule} {key tag : String} {i : Nat}
variable {isEmail : Bool} {source : RuleSource} {place : RulePlace} {b b' : RuleBook}

/-! ## The book of a history -/

/-- The book after some additions. -/
def ofHistory (history : List (String × Rule)) : RuleBook :=
  history.foldl (fun b e => b.add e.1 e.2) standard

/-- The insertions that a set of the book has come about by. -/
def entriesOf (history : List (String × Rule)) : RuleSource → List (String × Rule)
  | .custom => history
  | .email => Rule.Mail.entries
  | .base => Rule.General.entries

theorem ofHistory_snoc (history : List (String × Rule)) (key : String) (rule : Rule) :
    ofHistory (history ++ [(key, rule)]) = (ofHistory history).add key rule := by
  unfold ofHistory
  rw [List.foldl_append]
  rfl

/-- **Every set of the book comes about by insertions**, that of the caller by the additions. -/
theorem set_ofHistory (history : List (String × Rule)) (source : RuleSource) :
    (ofHistory history).set source = RuleSet.ofHistory (entriesOf history source) := by
  induction history using List.reverseRecOn with
  | nil => cases source <;> rfl
  | append_singleton history e ih =>
    obtain ⟨key, rule⟩ := e
    rw [ofHistory_snoc]
    cases source with
    | custom =>
      have hcustom : (ofHistory history).custom = RuleSet.ofHistory history := ih
      change (ofHistory history).custom.insert key rule = _
      rw [hcustom, ← RuleSet.ofHistory_snoc]
      rfl
    | email => exact ih
    | base => exact ih

theorem rule?_ofHistory :
    (ofHistory history).rule? ⟨source, i⟩ = some rule ↔
      ∃ key, Stands (entriesOf history source) i key rule := by
  unfold rule?
  rw [set_ofHistory, RuleSet.rule?_eq_some_iff]

/-! ## What a set has to offer -/

/-- Some rule of the set accepts the tag. -/
def Offers (b : RuleBook) (source : RuleSource) (tag : String) : Prop :=
  ∃ i rule, b.rule? ⟨source, i⟩ = some rule ∧ rule.filter.accepts tag = true

/-- A set has no rule for a tag if and only if it has none that accepts it. -/
theorem lookup?_set_eq_none_iff :
    ((ofHistory history).set source).lookup? tag = none ↔
      ¬ (ofHistory history).Offers source tag := by
  rw [set_ofHistory, lookup?_ofHistory_none_iff]
  constructor
  · rintro h ⟨i, rule, hrule, hacc⟩
    obtain ⟨key, hs⟩ := rule?_ofHistory.1 hrule
    rw [h i key rule hs] at hacc
    cases hacc
  · intro h i key rule hs
    rw [← Bool.not_eq_true]
    exact fun hacc => h ⟨i, rule, rule?_ofHistory.2 ⟨key, hs⟩, hacc⟩

/-- The place that a set has for a tag holds a rule that accepts it. -/
theorem rule?_of_lookup? (h : ((ofHistory history).set source).lookup? tag = some i) :
    ∃ rule, (ofHistory history).rule? ⟨source, i⟩ = some rule ∧
      rule.filter.accepts tag = true := by
  rw [set_ofHistory, wins_iff] at h
  obtain ⟨key, rule, hs, hacc, -⟩ := h
  exact ⟨rule, rule?_ofHistory.2 ⟨key, hs⟩, hacc⟩

/-! ## Resolving a tag -/

/-- **Where a place comes from**: the first of the sets that count has it, and those before that
one have nothing for the tag. -/
theorem resolve?_cases (h : b.resolve? tag isEmail = some place) :
    (∃ i, place = ⟨.custom, i⟩ ∧ (b.set .custom).lookup? tag = some i) ∨
    (∃ i, place = ⟨.email, i⟩ ∧ isEmail = true ∧ (b.set .email).lookup? tag = some i ∧
      (b.set .custom).lookup? tag = none) ∨
    (∃ i, place = ⟨.base, i⟩ ∧ (b.set .base).lookup? tag = some i ∧
      (b.set .custom).lookup? tag = none ∧
      (isEmail = true → (b.set .email).lookup? tag = none)) := by
  unfold resolve? sources at h
  cases hc : (b.set .custom).lookup? tag with
  | some i =>
    have hplace : place = ⟨.custom, i⟩ := by cases isEmail <;> simpa [hc] using h.symm
    exact Or.inl ⟨i, hplace, rfl⟩
  | none =>
    cases isEmail with
    | false =>
      obtain ⟨i, hb, hplace⟩ : ∃ i, (b.set .base).lookup? tag = some i ∧ ⟨.base, i⟩ = place := by
        simpa [hc, Option.map_eq_some_iff] using h
      exact Or.inr (Or.inr ⟨i, hplace.symm, hb, rfl, fun hno => by cases hno⟩)
    | true =>
      cases he : (b.set .email).lookup? tag with
      | some i =>
        have hplace : place = ⟨.email, i⟩ := by simpa [hc, he] using h.symm
        exact Or.inr (Or.inl ⟨i, hplace, rfl, rfl, rfl⟩)
      | none =>
        obtain ⟨i, hb, hplace⟩ : ∃ i, (b.set .base).lookup? tag = some i ∧ ⟨.base, i⟩ = place := by
          simpa [hc, he, Option.map_eq_some_iff] using h
        exact Or.inr (Or.inr ⟨i, hplace.symm, hb, rfl, fun _ => rfl⟩)

theorem resolve?_of_custom (h : (b.set .custom).lookup? tag = some i) :
    b.resolve? tag isEmail = some ⟨.custom, i⟩ := by
  unfold resolve? sources
  cases isEmail <;> simp [h]

theorem resolve?_congr (h : ∀ source, (b.set source).lookup? tag = (b'.set source).lookup? tag) :
    b.resolve? tag isEmail = b'.resolve? tag isEmail := by
  unfold resolve?
  simp only [h]

/-! ## The effect of an addition -/

/-- **A rule that prevails is taken**, in and outside of mail. -/
theorem resolve?_add_of_prevails (hkey : key ∉ keysOf history)
    (h : Prevails history rule tag) :
    ((ofHistory history).add key rule).resolve? tag isEmail =
      some ⟨.custom, (keysOf history).length⟩ := by
  apply resolve?_of_custom
  rw [← ofHistory_snoc, set_ofHistory]
  exact (lookup?_snoc hkey rule tag).1 h

/-- Where it does not prevail, the tag resolves as before. -/
theorem resolve?_add_of_not_prevails (hkey : key ∉ keysOf history)
    (h : ¬ Prevails history rule tag) :
    ((ofHistory history).add key rule).resolve? tag isEmail =
      (ofHistory history).resolve? tag isEmail := by
  apply resolve?_congr
  intro source
  rw [← ofHistory_snoc, set_ofHistory, set_ofHistory]
  cases source with
  | custom => exact (lookup?_snoc hkey rule tag).2 h
  | email => rfl
  | base => rfl

/-- The place of a new rule was not resolved to before. -/
theorem resolve?_ne_new (history : List (String × Rule)) (tag : String) (isEmail : Bool) :
    (ofHistory history).resolve? tag isEmail ≠ some ⟨.custom, (keysOf history).length⟩ := by
  intro h
  rcases resolve?_cases h with ⟨i, hplace, hi⟩ | ⟨i, hplace, -⟩ | ⟨i, hplace, -⟩
  · cases hplace
    obtain ⟨rule, hrule, -⟩ := rule?_of_lookup? hi
    obtain ⟨key, hs⟩ := rule?_ofHistory.1 hrule
    exact absurd hs.lt_length (Nat.lt_irrefl _)
  · cases hplace
  · cases hplace

/-- **Places that hold a rule keep it**, and the new rule has a place behind those of the
caller. -/
theorem rule?_add (hkey : key ∉ keysOf history) (rule : Rule) :
    ((ofHistory history).add key rule).rule? ⟨.custom, (keysOf history).length⟩ = some rule ∧
      ∀ place r, (ofHistory history).rule? place = some r →
        ((ofHistory history).add key rule).rule? place = some r := by
  rw [← ofHistory_snoc]
  constructor
  · exact rule?_ofHistory.2 ⟨key, (stands_snoc_iff hkey rule).2 (Or.inr ⟨rfl, rfl, rfl⟩)⟩
  · rintro ⟨source, i⟩ r hr
    obtain ⟨k, hs⟩ := rule?_ofHistory.1 hr
    apply rule?_ofHistory.2
    cases source with
    | custom => exact ⟨k, (stands_snoc_iff hkey rule).2 (Or.inl hs)⟩
    | email => exact ⟨k, hs⟩
    | base => exact ⟨k, hs⟩

/-- **Only the sets that count are asked, in order of precedence**: the caller's first, that for
mail only in mail, and the general one last. -/
theorem source_of_resolve? (h : (ofHistory history).resolve? tag isEmail = some place) :
    ((ofHistory history).Offers .custom tag → place.source = .custom) ∧
      (isEmail = false → place.source ≠ .email) ∧
      (place.source = .base → ¬ (ofHistory history).Offers .custom tag ∧
        (isEmail = true → ¬ (ofHistory history).Offers .email tag)) := by
  rcases resolve?_cases h with ⟨i, rfl, -⟩ | ⟨i, rfl, hmail, -, hc⟩ | ⟨i, rfl, -, hc, he⟩
  · simp
  · have hcustom := lookup?_set_eq_none_iff.1 hc
    simp [hcustom, hmail]
  · have hcustom := lookup?_set_eq_none_iff.1 hc
    have hemail : isEmail = true → ¬ (ofHistory history).Offers .email tag :=
      fun hm => lookup?_set_eq_none_iff.1 (he hm)
    simpa [hcustom] using hemail

/-- **What a tag resolves to** is a place with a rule that accepts it. -/
theorem rule?_of_resolve? (h : (ofHistory history).resolve? tag isEmail = some place) :
    ∃ rule, (ofHistory history).rule? place = some rule ∧ rule.filter.accepts tag = true := by
  rcases resolve?_cases h with ⟨i, rfl, hi⟩ | ⟨i, rfl, -, hi, -⟩ | ⟨i, rfl, hi, -, -⟩
  · exact rule?_of_lookup? hi
  · exact rule?_of_lookup? hi
  · exact rule?_of_lookup? hi

/-- **An addition has its declared effect and no other.** Take the book after any additions. A rule
that is added under a new key changes what a tag resolves to if and only if it prevails there, and
the tag then resolves to the place of the new rule; no rule that is there already moves. And
whatever a tag resolves to is a place with a rule for it: one of the caller's if any of those
accepts the tag, one for mail only in mail, and a general one only if nothing before it accepts the
tag. -/
theorem resolve?_ofHistory (history : List (String × Rule)) :
    (∀ key rule, key ∉ history.map (·.1) →
      (∀ tag isEmail,
        (((ofHistory history).add key rule).resolve? tag isEmail ≠
          (ofHistory history).resolve? tag isEmail ↔ Prevails history rule tag) ∧
        (Prevails history rule tag →
          ((ofHistory history).add key rule).resolve? tag isEmail =
            some ⟨.custom, (keysOf history).length⟩)) ∧
      ((ofHistory history).add key rule).rule? ⟨.custom, (keysOf history).length⟩ = some rule ∧
      ∀ place r, (ofHistory history).rule? place = some r →
        ((ofHistory history).add key rule).rule? place = some r) ∧
    ∀ tag isEmail place, (ofHistory history).resolve? tag isEmail = some place →
      (∃ rule, (ofHistory history).rule? place = some rule ∧
        rule.filter.accepts tag = true) ∧
      ((ofHistory history).Offers .custom tag → place.source = .custom) ∧
      (isEmail = false → place.source ≠ .email) ∧
      (place.source = .base → ¬ (ofHistory history).Offers .custom tag ∧
        (isEmail = true → ¬ (ofHistory history).Offers .email tag)) := by
  refine ⟨fun key rule hnew => ?_, fun tag isEmail place h => ?_⟩
  · have hkey : key ∉ keysOf history := fun hmem => hnew (List.mem_eraseDups.1 hmem)
    refine ⟨fun tag isEmail => ⟨⟨fun hne => ?_, fun h => ?_⟩, fun h => ?_⟩, rule?_add hkey rule⟩
    · by_contra hno
      exact hne (resolve?_add_of_not_prevails hkey hno)
    · rw [resolve?_add_of_prevails hkey h]
      exact (resolve?_ne_new history tag isEmail).symm
    · exact resolve?_add_of_prevails hkey h
  · exact ⟨rule?_of_resolve? h, source_of_resolve? h⟩

/-- A rule that leaves links as their text. -/
def bareLink : Rule := .forTag "a" fun _ content _ => .ok content

/-- A rule for every tag, above those of no priority. -/
def bareAny : Rule := { filter := .any, priority := 1, action := fun _ content _ => .ok content }

theorem resolve?_ofHistory_overruled :
    "any" ∉ [("link", bareLink)].map (·.1) ∧
      Prevails [("link", bareLink)] bareAny "A" ∧
      (ofHistory [("link", bareLink), ("any", bareAny)]).resolve? "A" true =
        some ⟨.custom, 1⟩ ∧
      (ofHistory [("link", bareLink), ("any", bareAny)]).rule? ⟨.custom, 1⟩ = some bareAny ∧
      (∃ rule, (ofHistory [("link", bareLink), ("any", bareAny)]).rule? ⟨.custom, 1⟩ =
        some rule ∧ rule.filter.accepts "A" = true) ∧
      "again" ∉ [("link", bareLink), ("any", bareAny)].map (·.1) ∧
      ((ofHistory [("link", bareLink), ("any", bareAny)]).add "again" bareLink).resolve? "A" true =
        some ⟨.custom, 1⟩ := by
  have hany : "any" ∉ [("link", bareLink)].map (·.1) := by decide
  have hagain : "again" ∉ [("link", bareLink), ("any", bareAny)].map (·.1) := by decide
  have hlink : "link" ∉ keysOf ([] : List (String × Rule)) := by decide
  have hprevails : Prevails [("link", bareLink)] bareAny "A" := by
    refine ⟨rfl, fun i key r hs _ => ?_⟩
    rcases (stands_snoc_iff hlink bareLink).1 hs with ⟨hi, -⟩ | ⟨-, -, rfl⟩
    · cases hi
    · decide
  have hovertaken : ¬ Prevails [("link", bareLink), ("any", bareAny)] bareLink "A" := fun h =>
    absurd (h.2 1 "any" bareAny ⟨rfl, rfl⟩ rfl) (by decide)
  obtain ⟨heffect, hplace, -⟩ := (resolve?_ofHistory [("link", bareLink)]).1 "any" bareAny hany
  obtain ⟨hadd, hvalid⟩ := resolve?_ofHistory [("link", bareLink), ("any", bareAny)]
  have hresolve := (heffect "A" true).2 hprevails
  have hkept := not_not.1 fun hne => hovertaken (((hadd "again" bareLink hagain).1 "A" true).1.1 hne)
  exact ⟨hany, hprevails, hresolve, hplace, (hvalid "A" true _ hresolve).1, hagain,
    hkept.trans hresolve⟩

end RuleBook

end HtmlMarkdown
