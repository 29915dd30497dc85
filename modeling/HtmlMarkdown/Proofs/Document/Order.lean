import HtmlMarkdown.Document.Node
import Mathlib.Data.List.Basic
import Mathlib.Data.Nat.Basic
import Mathlib.Logic.Relation

/-!
# The tree order of a document

`d.Parent p c` says that `p` is the parent of `c`. Parents come before their children, so every
climb ends and every descent does; the bounds in `ancestors` and `descendants` never cut.

* `tree_induction`: what holds of a node as soon as it holds of its children holds of every node.
* `ancestors_eq`, `descendants_eq`: both lists without their bounds, one level at a time.
* `mem_ancestors`, `mem_descendants`: both lists are the one relation, read upwards and downwards.
* `eq_of_siblings`: **no node lies below two children of one parent.**
* `fold`: recursion from the leaves to a node, with its equation `fold_eq`.
-/

namespace HtmlMarkdown

namespace Document

variable {d : Document} {a b c m p id : Nat}

/-- The one is the parent of the other. -/
def Parent (d : Document) (p c : Nat) : Prop := d.parent? c = some p

/-- The one lies on the way from the other to the root, or is the other itself. -/
abbrev Above (d : Document) : Nat → Nat → Prop := Relation.ReflTransGen d.Parent

/-! ## Parents and children -/

theorem Parent.lt (h : d.Parent p c) : p < c := d.isTree.parent_lt h

/-- Only nodes of the document have a parent. -/
theorem Parent.lt_size (h : d.Parent p c) : c < d.size := by
  by_contra hc
  have hn : parentIn d.slots c = none := parentIn_eq_none_of_le (by unfold size at hc; omega)
  unfold Parent parent? at h
  rw [hn] at h
  cases h

theorem mem_children : c ∈ d.children p ↔ d.Parent p c := by
  have hmem : c ∈ d.children p ↔ c < d.size ∧ d.Parent p c := by
    unfold children
    rw [d.isTree.children_eq p, List.mem_filter, List.mem_range, beq_iff_eq]
    rfl
  rw [hmem]
  exact ⟨fun h => h.2, fun h => ⟨h.lt_size, h⟩⟩

theorem children_nodup (d : Document) (p : Nat) : (d.children p).Nodup := by
  unfold children
  rw [d.isTree.children_eq p]
  exact List.nodup_range.filter _

theorem children_eq_nil_of_le (h : d.size ≤ id) : d.children id = [] := by
  rw [List.eq_nil_iff_forall_not_mem]
  intro c hc
  have hp := mem_children.1 hc
  have h1 := hp.lt
  have h2 := hp.lt_size
  omega

/-- **Induction from the leaves to the root.** -/
theorem tree_induction (d : Document) {P : Nat → Prop}
    (step : ∀ id, (∀ c ∈ d.children id, P c) → P id) : ∀ id, P id := by
  -- the children of a node have larger numbers, and none is larger than the document
  have key : ∀ k id, d.size - id ≤ k → P id := by
    intro k
    induction k with
    | zero =>
      intro id hk
      apply step
      intro c hc
      rw [children_eq_nil_of_le (by omega)] at hc
      cases hc
    | succ k ih =>
      intro id hk
      apply step
      intro c hc
      have hp := mem_children.1 hc
      have h1 := hp.lt
      have h2 := hp.lt_size
      exact ih c (by omega)
  intro id
  exact key _ id le_rfl

/-! ## Above and below -/

theorem Above.le (h : d.Above a b) : a ≤ b := by
  induction h with
  | refl => exact le_rfl
  | tail _ hp ih =>
    have := hp.lt
    omega

/-- What lies strictly above a node lies above its parent. -/
theorem Above.of_ne (h : d.Above a b) (hne : a ≠ b) : ∃ p, d.Parent p b ∧ d.Above a p := by
  rcases Relation.ReflTransGen.cases_tail h with h | ⟨p, hap, hpb⟩
  · exact absurd h.symm hne
  · exact ⟨p, hpb, hap⟩

theorem Parent.unique (h : d.Parent p c) (h' : d.Parent a c) : p = a := by
  unfold Parent at h h'
  rw [h] at h'
  exact Option.some.inj h'

/-- **The subtrees of siblings are disjoint.** -/
theorem eq_of_siblings (ha : d.Parent p a) (hb : d.Parent p b) (ham : d.Above a m)
    (hbm : d.Above b m) : a = b := by
  -- a node above its own sibling would lie above its own parent
  have key : ∀ {x y}, d.Parent p x → d.Parent p y → d.Above x y → x = y := by
    intro x y hx hy h
    by_contra hne
    obtain ⟨q, hq, hxq⟩ := h.of_ne hne
    rw [hq.unique hy] at hxq
    have h1 := hxq.le
    have h2 := hx.lt
    omega
  induction ham with
  | refl => exact (key hb ha hbm).symm
  | tail ham' hp ih =>
    rename_i q m
    by_cases hbm' : b = m
    · subst hbm'
      exact key ha hb (Relation.ReflTransGen.tail ham' hp)
    · obtain ⟨q', hq', hbq⟩ := hbm.of_ne hbm'
      rw [hq'.unique hp] at hbq
      exact ih hbq

/-! ## The nodes above -/

/-- The root has no parent. -/
theorem parent?_root (d : Document) : d.parent? rootId = none := by
  cases hp : d.parent? rootId with
  | none => rfl
  | some p => exact absurd (d.isTree.parent_lt hp) (Nat.not_lt_zero p)

theorem ancestorsFrom_root (d : Document) (fuel : Nat) : d.ancestorsFrom fuel rootId = [] := by
  cases fuel with
  | zero => rfl
  | succ fuel => rw [ancestorsFrom, parent?_root]

theorem ancestorsFrom_eq : ∀ {fuel fuel' id : Nat}, id ≤ fuel → id ≤ fuel' →
    d.ancestorsFrom fuel id = d.ancestorsFrom fuel' id := by
  intro fuel
  induction fuel with
  | zero =>
    intro fuel' id h _
    obtain rfl : id = rootId := Nat.le_zero.1 h
    rw [ancestorsFrom_root, ancestorsFrom_root]
  | succ fuel ih =>
    intro fuel' id h h'
    cases fuel' with
    | zero =>
      obtain rfl : id = rootId := Nat.le_zero.1 h'
      rw [ancestorsFrom_root, ancestorsFrom_root]
    | succ fuel' =>
      simp only [ancestorsFrom]
      cases hp : d.parent? id with
      | none => rfl
      | some p =>
        have hlt : p < id := d.isTree.parent_lt hp
        simp only
        rw [ih (by omega) (by omega : p ≤ fuel')]

/-- The root has nothing above it. -/
theorem ancestors_of_none (h : d.parent? id = none) : d.ancestors id = [] := by
  unfold ancestors
  cases id with
  | zero => rfl
  | succ id => simp [ancestorsFrom, h]

/-- **Above a node are its parent and what is above that.** -/
theorem ancestors_eq (h : d.Parent p id) : d.ancestors id = p :: d.ancestors p := by
  have hlt := h.lt
  unfold ancestors
  obtain ⟨k, rfl⟩ : ∃ k, id = k + 1 := ⟨id - 1, by omega⟩
  unfold Parent at h
  rw [ancestorsFrom, h]
  simp only
  rw [ancestorsFrom_eq (by omega) le_rfl]

/-- **`ancestors` lists the nodes strictly above.** -/
theorem mem_ancestors : ∀ {m : Nat}, a ∈ d.ancestors m ↔ a ≠ m ∧ d.Above a m := by
  intro m
  induction m using Nat.strong_induction_on with
  | _ m ih =>
    cases hp : d.parent? m with
    | none =>
      rw [ancestors_of_none hp]
      refine ⟨fun h => absurd h List.not_mem_nil, ?_⟩
      rintro ⟨hne, h⟩
      obtain ⟨q, hq, -⟩ := h.of_ne hne
      unfold Parent at hq
      rw [hp] at hq
      cases hq
    | some p =>
      have hpm : d.Parent p m := hp
      rw [ancestors_eq hpm, List.mem_cons, ih p hpm.lt]
      constructor
      · rintro (rfl | ⟨-, h⟩)
        · have := hpm.lt
          exact ⟨by omega, Relation.ReflTransGen.single hpm⟩
        · have h1 := h.le
          have h2 := hpm.lt
          exact ⟨by omega, Relation.ReflTransGen.tail h hpm⟩
      · rintro ⟨hne, h⟩
        obtain ⟨q, hq, haq⟩ := h.of_ne hne
        rw [hq.unique hpm] at haq
        by_cases hap : a = p
        · exact Or.inl hap
        · exact Or.inr ⟨hap, haq⟩

/-! ## The nodes below -/

theorem subtreeOnto_append (d : Document) : ∀ (levels id : Nat) (rest : List Nat),
    d.subtreeOnto levels id rest = d.subtreeOnto levels id [] ++ rest := by
  intro levels
  induction levels with
  | zero => intro id rest; rfl
  | succ levels ih =>
    intro id rest
    simp only [subtreeOnto, List.cons_append, List.cons.injEq, true_and]
    induction d.children id with
    | nil => rfl
    | cons c cs ihc =>
      simp only [List.foldr_cons]
      rw [ih c, ihc, ih c (List.foldr _ _ cs), List.append_assoc]

/-- A subtree, one level at a time. -/
theorem subtreeOnto_succ (d : Document) (levels id : Nat) :
    d.subtreeOnto (levels + 1) id [] =
      id :: (d.children id).flatMap fun c => d.subtreeOnto levels c [] := by
  simp only [subtreeOnto, List.cons.injEq, true_and]
  induction d.children id with
  | nil => rfl
  | cons c cs ih =>
    rw [List.foldr_cons, subtreeOnto_append, ih, List.flatMap_cons]

theorem subtreeOnto_eq : ∀ {levels levels' id : Nat}, d.size ≤ id + levels →
    d.size ≤ id + levels' → d.subtreeOnto levels id [] = d.subtreeOnto levels' id [] := by
  intro levels
  induction levels with
  | zero =>
    intro levels' id h _
    cases levels' with
    | zero => rfl
    | succ levels' =>
      rw [subtreeOnto_succ, children_eq_nil_of_le (by omega)]
      rfl
  | succ levels ih =>
    intro levels' id h h'
    cases levels' with
    | zero =>
      rw [subtreeOnto_succ, children_eq_nil_of_le (by omega)]
      rfl
    | succ levels' =>
      rw [subtreeOnto_succ, subtreeOnto_succ]
      congr 1
      apply List.flatMap_congr
      intro c hc
      have := (mem_children.1 hc).lt
      exact ih (by omega) (by omega)

/-- **Below a node are its children, each followed by what is below it.** -/
theorem descendants_eq (d : Document) (id : Nat) :
    d.descendants id = (d.children id).flatMap fun c => c :: d.descendants c := by
  have key : ∀ id,
      d.descendants id = (d.children id).flatMap fun c => d.subtreeOnto d.size c [] := by
    intro id
    unfold descendants
    induction d.children id with
    | nil => rfl
    | cons c cs ih => rw [List.foldr_cons, subtreeOnto_append, ih, List.flatMap_cons]
  rw [key]
  apply List.flatMap_congr
  intro c hc
  have hfuel : d.subtreeOnto d.size c [] = d.subtreeOnto (d.size + 1) c [] :=
    subtreeOnto_eq (by omega) (by omega)
  rw [hfuel, subtreeOnto_succ, key]

/-- **`descendants` lists the nodes strictly below.** -/
theorem mem_descendants : m ∈ d.descendants a ↔ a ≠ m ∧ d.Above a m := by
  revert m
  refine d.tree_induction (P := fun a => ∀ {m}, m ∈ d.descendants a ↔ a ≠ m ∧ d.Above a m) ?_ a
  intro a ih m
  rw [descendants_eq, List.mem_flatMap]
  constructor
  · rintro ⟨c, hc, hm⟩
    have hac := mem_children.1 hc
    rw [List.mem_cons] at hm
    have hcm : d.Above c m := by
      rcases hm with rfl | hm
      · exact Relation.ReflTransGen.refl
      · exact ((ih c hc).1 hm).2
    have h1 := hac.lt
    have h2 := hcm.le
    exact ⟨by omega, Relation.ReflTransGen.head hac hcm⟩
  · rintro ⟨hne, h⟩
    rcases Relation.ReflTransGen.cases_head h with h | ⟨c, hac, hcm⟩
    · exact absurd h hne
    · refine ⟨c, mem_children.2 hac, List.mem_cons.2 ?_⟩
      by_cases hcm' : m = c
      · exact Or.inl hcm'
      · exact Or.inr ((ih c (mem_children.2 hac)).2 ⟨fun e => hcm' e.symm, hcm⟩)

/-! ## Recursion from the leaves -/

variable {β : Type}

/-- What `f` makes of a node and of what it made of the children; `levels` bounds the depth. -/
def foldTo (d : Document) (f : Nat → List β → β) : (levels : Nat) → Nat → β
  | 0, id => f id []
  | levels + 1, id => f id ((d.children id).map (foldTo d f levels))

theorem foldTo_eq {f : Nat → List β → β} : ∀ {levels levels' id : Nat}, d.size ≤ id + levels →
    d.size ≤ id + levels' → d.foldTo f levels id = d.foldTo f levels' id := by
  intro levels
  induction levels with
  | zero =>
    intro levels' id h _
    cases levels' with
    | zero => rfl
    | succ levels' =>
      rw [foldTo, foldTo, children_eq_nil_of_le (by omega), List.map_nil]
  | succ levels ih =>
    intro levels' id h h'
    cases levels' with
    | zero => rw [foldTo, foldTo, children_eq_nil_of_le (by omega), List.map_nil]
    | succ levels' =>
      rw [foldTo, foldTo]
      congr 1
      apply List.map_congr_left
      intro c hc
      have := (mem_children.1 hc).lt
      exact ih (by omega) (by omega)

/-- What `f` makes of a node and of what it made of the children, from the leaves on. -/
def fold (d : Document) (f : Nat → List β → β) (id : Nat) : β := d.foldTo f d.size id

/-- **The recursion without its bound.** -/
theorem fold_eq (d : Document) (f : Nat → List β → β) (id : Nat) :
    d.fold f id = f id ((d.children id).map (d.fold f)) := by
  have hlevels : d.foldTo f d.size id = d.foldTo f (d.size + 1) id :=
    foldTo_eq (by omega) (by omega)
  unfold fold
  rw [hlevels, foldTo]

end Document

end HtmlMarkdown
