import HtmlMarkdown.Proofs.Document.Order

/-!
# Document order

`d.Precedes a b` says that `a` comes before `b` in document order: `b` lies below `a`, or the two
lie in the subtrees of siblings and that of `a` is the earlier one. Below one node there is exactly
one list of nodes in this order, and a walk with a stack yields it.

* `Precedes.asymm`: no two nodes precede each other, as two siblings apart fix the node where the
  ways to the two part (`eq_of_fork`).
* `idxOf_descendants_lt_iff`: **`descendants` is in document order.**
* `walk_iff`: **a walk with a stack ends**, and it yields the descendants.
-/

namespace HtmlMarkdown.Document

variable {d : Document} {a b m p q x y id : Nat} {stack out out' : List Nat}

/-- The one lies strictly above the other. -/
abbrev Over (d : Document) : Nat → Nat → Prop := Relation.TransGen d.Parent

theorem over_iff : d.Over a b ↔ a ≠ b ∧ d.Above a b := by
  constructor
  · intro h
    have hlt : a < b := by
      induction h with
      | single hp => exact hp.lt
      | tail _ hp ih => exact Nat.lt_trans ih hp.lt
    exact ⟨by omega, h.to_reflTransGen⟩
  · rintro ⟨hne, h⟩
    rcases Relation.reflTransGen_iff_eq_or_transGen.1 h with he | h
    · exact absurd he.symm hne
    · exact h

theorem Over.lt (h : d.Over a b) : a < b := by
  obtain ⟨hne, habove⟩ := over_iff.1 h
  have := Above.le habove
  omega

/-! ## The way to the root -/

theorem exists_parent (hroot : id ≠ rootId) (h : id < d.size) : ∃ p, d.Parent p id :=
  Option.isSome_iff_exists.1 (d.isTree.parent_isSome (Nat.pos_of_ne_zero hroot) h)

/-- Two nodes above a third one lie on one way to the root. -/
theorem Above.total (ha : d.Above a m) (hb : d.Above b m) : d.Above a b ∨ d.Above b a := by
  induction ha with
  | refl => exact Or.inr hb
  | @tail p m ha' hp ih =>
    by_cases hbm : b = m
    · subst hbm
      exact Or.inl (Relation.ReflTransGen.tail ha' hp)
    · obtain ⟨q, hq, hbq⟩ := hb.of_ne hbm
      rw [hq.unique hp] at hbq
      exact ih hbq

/-- **The way from a node up**: from each node to its parent, up to the root, and no node twice. -/
theorem climb (h : id < d.size) :
    (id :: d.ancestors id).IsChain (fun c p => d.Parent p c) ∧
      (id :: d.ancestors id).getLast? = some rootId ∧ (id :: d.ancestors id).Nodup := by
  induction id using Nat.strong_induction_on with
  | _ id ih =>
    by_cases hroot : id = rootId
    · subst hroot
      have htop : d.ancestors rootId = [] := ancestors_of_none d.parent?_root
      rw [htop]
      simp
    · obtain ⟨p, hp⟩ := exists_parent hroot h
      have hlt : p < id := hp.lt
      obtain ⟨hchain, hlast, hnodup⟩ := ih p hlt (Nat.lt_trans hlt h)
      have hself : id ∉ p :: d.ancestors p := by
        rw [← ancestors_eq hp, mem_ancestors]
        exact fun h => h.1 rfl
      rw [ancestors_eq hp]
      exact ⟨List.isChain_cons_cons.2 ⟨hp, hchain⟩, hlast, List.nodup_cons.2 ⟨hself, hnodup⟩⟩

/-! ## Before and after -/

/-- **Document order**: a node before the nodes below it, and all at or below a sibling before all
at or below a later one. -/
inductive Precedes (d : Document) : Nat → Nat → Prop where
  | below {a b : Nat} : d.Over a b → Precedes d a b
  | beside {p x y a b : Nat} : d.Parent p x → d.Parent p y → x < y → d.Above x a → d.Above y b →
      Precedes d a b

/-- Where two nodes lie below different children of a node, no node between that one and them is
above both. -/
theorem eq_of_fork (hx : d.Parent p x) (hy : d.Parent p y) (hne : x ≠ y) (hxa : d.Above x a)
    (hyb : d.Above y b) (hqa : d.Above q a) (hqb : d.Above q b) (hpq : d.Above p q) : p = q := by
  rcases Relation.ReflTransGen.cases_head hpq with h | ⟨z, hz, hzq⟩
  · exact h
  · have hxz : x = z := eq_of_siblings hx hz hxa (hzq.trans hqa)
    have hyz : y = z := eq_of_siblings hy hz hyb (hzq.trans hqb)
    exact absurd (hxz.trans hyz.symm) hne

/-- **No two nodes precede each other.** -/
theorem Precedes.asymm (h : d.Precedes a b) : ¬ d.Precedes b a := by
  intro h'
  cases h with
  | below hab =>
    cases h' with
    | below hba =>
      have := hab.lt
      have := hba.lt
      omega
    | beside hx hy hlt hxb hya =>
      -- both siblings would be above `b`
      have := eq_of_siblings hx hy hxb (hya.trans hab.to_reflTransGen)
      omega
  | @beside p x y _ _ hx hy hlt hxa hyb =>
    cases h' with
    | below hba =>
      have := eq_of_siblings hx hy hxa (hyb.trans hba.to_reflTransGen)
      omega
    | @beside p' x' y' _ _ hx' hy' hlt' hxb' hya' =>
      -- the ways to the two nodes part at both parents, so these are one node
      have hpa : d.Above p a := Relation.ReflTransGen.head hx hxa
      have hpb : d.Above p b := Relation.ReflTransGen.head hy hyb
      have hpa' : d.Above p' a := Relation.ReflTransGen.head hy' hya'
      have hpb' : d.Above p' b := Relation.ReflTransGen.head hx' hxb'
      obtain rfl : p = p' := by
        rcases hpa.total hpa' with hpp | hpp
        · exact eq_of_fork hx hy (by omega) hxa hyb hpa' hpb' hpp
        · exact (eq_of_fork hx' hy' (by omega) hxb' hya' hpb hpa hpp).symm
      have hxy' : x = y' := eq_of_siblings hx hy' hxa hya'
      have hyx' : y = x' := eq_of_siblings hy hx' hyb hxb'
      omega

/-- The children of a node stand in the order of their numbers. -/
theorem children_sorted (d : Document) (p : Nat) : (d.children p).Pairwise (· < ·) := by
  unfold children
  rw [d.isTree.children_eq p]
  exact List.pairwise_lt_range.filter _

theorem mem_descendants_iff : m ∈ d.descendants id ↔ d.Over id m := by
  rw [mem_descendants, over_iff]

/-- Of the nodes below another, each precedes those that are listed behind it. -/
theorem pairwise_descendants (d : Document) (id : Nat) :
    (d.descendants id).Pairwise d.Precedes := by
  refine d.tree_induction (P := fun id => (d.descendants id).Pairwise d.Precedes) ?_ id
  intro id ih
  have habove : ∀ {c m}, m ∈ c :: d.descendants c → d.Above c m := by
    intro c m hm
    rcases List.mem_cons.1 hm with rfl | hm
    · exact Relation.ReflTransGen.refl
    · exact (mem_descendants.1 hm).2
  rw [descendants_eq, List.pairwise_flatMap]
  constructor
  · intro c hc
    refine List.pairwise_cons.2 ⟨fun m hm => ?_, ih c hc⟩
    exact Precedes.below (mem_descendants_iff.1 hm)
  · refine List.Pairwise.imp_of_mem ?_ (d.children_sorted id)
    intro x y hx hy hlt a ha b hb
    exact Precedes.beside (mem_children.1 hx) (mem_children.1 hy) hlt (habove ha) (habove hb)

theorem descendants_nodup (d : Document) (id : Nat) : (d.descendants id).Nodup := by
  refine (pairwise_descendants d id).imp ?_
  rintro a b h rfl
  exact h.asymm h

/-- In a list where each element goes before those behind it, places tell what goes before what. -/
theorem idxOf_lt_iff {R : Nat → Nat → Prop} (hasymm : ∀ {a b}, R a b → ¬ R b a) {l : List Nat}
    (hl : l.Pairwise R) (ha : a ∈ l) (hb : b ∈ l) : l.idxOf a < l.idxOf b ↔ R a b := by
  have hfirst : ∀ {a b}, a ∈ l → b ∈ l → l.idxOf a < l.idxOf b → R a b := by
    intro a b ha hb hlt
    have h := List.pairwise_iff_getElem.1 hl _ _ (List.idxOf_lt_length_iff.2 ha)
      (List.idxOf_lt_length_iff.2 hb) hlt
    rwa [List.getElem_idxOf, List.getElem_idxOf] at h
  refine ⟨hfirst ha hb, fun h => ?_⟩
  rcases Nat.lt_trichotomy (l.idxOf a) (l.idxOf b) with hlt | heq | hgt
  · exact hlt
  · obtain rfl : a = b := (List.idxOf_inj ha).1 heq
    exact absurd h (hasymm h)
  · exact absurd (hfirst hb ha hgt) (hasymm h)

/-- **`descendants` is in document order.** -/
theorem idxOf_descendants_lt_iff (ha : a ∈ d.descendants id) (hb : b ∈ d.descendants id) :
    (d.descendants id).idxOf a < (d.descendants id).idxOf b ↔ d.Precedes a b :=
  idxOf_lt_iff Precedes.asymm (pairwise_descendants d id) ha hb

/-! ## Walking with a stack -/

/-- `d.Walk stack out`: a walk that starts with the stack ends and has yielded `out`. At every step
the top of the stack is yielded and its children take its place. -/
inductive Walk (d : Document) : (stack out : List Nat) → Prop where
  | done : Walk d [] []
  | visit {id : Nat} {stack out : List Nat} : Walk d (d.children id ++ stack) out →
      Walk d (id :: stack) (id :: out)

/-- What a walk yields is fixed by the stack that it starts with. -/
theorem Walk.unique (h : d.Walk stack out) (h' : d.Walk stack out') : out = out' := by
  induction h generalizing out' with
  | done => cases h'; rfl
  | visit _ ih =>
    cases h' with
    | visit h' => rw [ih h']

/-- A row of nodes on the stack is walked through from subtree to subtree. -/
theorem walk_row (cs : List Nat) (hcs : ∀ c ∈ cs, ∀ stack out, d.Walk stack out →
      d.Walk (c :: stack) (c :: d.descendants c ++ out)) (h : d.Walk stack out) :
    d.Walk (cs ++ stack) ((cs.flatMap fun c => c :: d.descendants c) ++ out) := by
  induction cs with
  | nil => exact h
  | cons c cs ih =>
    have hrest := ih fun c' hc' => hcs c' (List.mem_cons_of_mem _ hc')
    rw [List.flatMap_cons, List.append_assoc]
    exact hcs c List.mem_cons_self _ _ hrest

/-- **A node on the stack** yields itself and what is below it before the rest of the stack. -/
theorem walk_node (d : Document) (id : Nat) : ∀ stack out, d.Walk stack out →
    d.Walk (id :: stack) (id :: d.descendants id ++ out) := by
  refine d.tree_induction (P := fun id => ∀ stack out, d.Walk stack out →
    d.Walk (id :: stack) (id :: d.descendants id ++ out)) ?_ id
  intro id ih stack out h
  rw [descendants_eq]
  exact Walk.visit (walk_row (d.children id) ih h)

/-- **A walk from the children of a node ends**, and it yields the descendants of the node. -/
theorem walk_iff (d : Document) (id : Nat) :
    d.Walk (d.children id) out ↔ out = d.descendants id := by
  have hwalk : d.Walk (d.children id) (d.descendants id) := by
    have h := walk_row (d.children id) (fun c _ => d.walk_node c) Walk.done
    rwa [List.append_nil, List.append_nil, ← descendants_eq] at h
  constructor
  · exact fun h => h.unique hwalk
  · rintro rfl
    exact hwalk

end HtmlMarkdown.Document
