import HtmlMarkdown.Proofs.Document.Relatives
import Mathlib.Data.List.Forall2

/-!
# Documents with the same outline

The outline of a document is its tree without what is in ignored elements. Where two documents have
the same outline, each node outside of ignored elements is paired with one of the other document
(`Paired`). Paired nodes hold the same, and what stands around them is paired too.

* `Paired.children`, `Paired.ancestors`: the nodes below and above, in order.
* `Paired.prev?_data`, `Paired.next?_data`, `Paired.elementIndex_eq`: the siblings.
* `Paired.id_eq_iff`: a node is paired with one node only.
* `Twin`: paired nodes with no ignored element in them. **Whatever is below one of them is paired
  with what is below the other** (`Twin.descendants`), so their texts are the same
  (`Twin.text_eq`).
-/

namespace HtmlMarkdown

open Document

/-- A tree of nodes. -/
inductive Outline where
  | node (data : NodeData) (below : List Outline)

/-- **The tree at a node**, less what is in ignored elements. -/
def Document.outline (d : Document) (id : Nat) : Outline :=
  d.fold (fun id below =>
    .node (d.data id) (if Tag.isIgnored (d.node id).tag then [] else below)) id

/-- The tree at the node, less what is in ignored elements. -/
def Node.outline (n : Node) : Outline := n.doc.outline n.id

theorem Node.outline_eq (n : Node) :
    n.outline = .node n.data (if Tag.isIgnored n.tag then [] else n.children.map Node.outline) := by
  have hbelow : n.children.map Node.outline = (n.doc.children n.id).map n.doc.outline := by
    unfold Node.children
    rw [List.map_map]
    rfl
  rw [hbelow]
  exact n.doc.fold_eq _ n.id

/-! ## Lists in step -/

section

variable {α β γ : Type} {R : α → β → Prop} {l : List α} {l' : List β}

theorem forall₂_map_eq {f : α → γ} {g : β → γ} (hfg : ∀ a b, R a b → f a = g b)
    (h : List.Forall₂ R l l') : l.map f = l'.map g := by
  induction h with
  | nil => rfl
  | cons hab _ ih => rw [List.map_cons, List.map_cons, hfg _ _ hab, ih]

/-- The first ones with a property are in step. -/
theorem forall₂_find? {p : α → Bool} {q : β → Bool} (hpq : ∀ a b, R a b → p a = q b)
    (h : List.Forall₂ R l l') :
    (l.find? p = none ∧ l'.find? q = none) ∨
      ∃ a b, R a b ∧ l.find? p = some a ∧ l'.find? q = some b := by
  induction h with
  | nil => exact Or.inl ⟨rfl, rfl⟩
  | @cons a b l l' hab _ ih =>
    rw [List.find?_cons, List.find?_cons, hpq _ _ hab]
    cases q b with
    | true => exact Or.inr ⟨a, b, hab, rfl, rfl⟩
    | false => exact ih

theorem forall₂_any {p : α → Bool} {q : β → Bool} (hpq : ∀ a b, R a b → p a = q b)
    (h : List.Forall₂ R l l') : l.any p = l'.any q := by
  induction h with
  | nil => rfl
  | cons hab _ ih => rw [List.any_cons, List.any_cons, hpq _ _ hab, ih]

theorem forall₂_filter {p : α → Bool} {q : β → Bool} (hpq : ∀ a b, R a b → p a = q b)
    (h : List.Forall₂ R l l') : List.Forall₂ R (l.filter p) (l'.filter q) :=
  List.rel_filter (fun _ _ hab => by simp only [hpq _ _ hab]) h

end

/-- **Nodes in the same place** of two documents with the same outline. -/
inductive Paired (d d' : Document) : Node → Node → Prop where
  | root : d.root.outline = d'.root.outline → Paired d d' d.root d'.root
  | child {p p' c c' : Node} {i : Nat} : Paired d d' p p' → Tag.isIgnored p.tag = false →
      p.children[i]? = some c → p'.children[i]? = some c' → Paired d d' c c'

namespace Paired

variable {d d' : Document} {a a' b b' n n' : Node}

/-! ## What they hold -/

theorem outline_data (h : n.outline = n'.outline) : n.data = n'.data := by
  rw [n.outline_eq, n'.outline_eq] at h
  exact (Outline.node.inj h).1

theorem outline_children (h : n.outline = n'.outline) (hopen : Tag.isIgnored n.tag = false) :
    n.children.map Node.outline = n'.children.map Node.outline := by
  have htag : n'.tag = n.tag := by
    unfold Node.tag
    rw [outline_data h]
  rw [n.outline_eq, n'.outline_eq, htag, hopen] at h
  exact (Outline.node.inj h).2

theorem outline_eq (h : Paired d d' n n') : n.outline = n'.outline := by
  induction h with
  | root h => exact h
  | @child p p' c c' i _ hopen hc hc' ih =>
    have hi := congrArg (·[i]?) (outline_children ih hopen)
    simp only [List.getElem?_map, hc, hc', Option.map_some, Option.some.injEq] at hi
    exact hi

theorem data_eq (h : Paired d d' n n') : n.data = n'.data := outline_data h.outline_eq

theorem tag_eq (h : Paired d d' n n') : n.tag = n'.tag := by
  unfold Node.tag
  rw [h.data_eq]

theorem isElement_eq (h : Paired d d' n n') : n.isElement = n'.isElement := by
  unfold Node.isElement
  rw [h.data_eq]

theorem attr?_eq (h : Paired d d' n n') (name : String) : n.attr? name = n'.attr? name := by
  unfold Node.attr?
  rw [h.data_eq]

theorem symm (h : Paired d d' n n') : Paired d' d n' n := by
  induction h with
  | root h => exact root h.symm
  | child hp hopen hc hc' ih => exact child ih (by rw [← hp.tag_eq, hopen]) hc' hc

/-! ## What stands around them -/

/-- **The children** of paired nodes that are not ignored. -/
theorem children (h : Paired d d' n n') (hopen : Tag.isIgnored n.tag = false) :
    List.Forall₂ (Paired d d') n.children n'.children := by
  have hmap := outline_children h.outline_eq hopen
  refine List.forall₂_of_length_eq_of_get (by simpa using congrArg List.length hmap) ?_
  intro i hi hi'
  exact h.child hopen (List.getElem?_eq_getElem hi) (List.getElem?_eq_getElem hi')

theorem children_data (h : Paired d d' n n') (hopen : Tag.isIgnored n.tag = false) :
    n.children.map Node.data = n'.children.map Node.data :=
  forall₂_map_eq (fun _ _ hc => hc.data_eq) (h.children hopen)

theorem doc_eq (h : Paired d d' n n') : n.doc = d := by
  induction h with
  | root => rfl
  | child _ _ hc _ ih => rw [(Node.parent_of_mem (List.mem_of_getElem? hc)).1, ih]

/-- **The nodes above.** -/
theorem ancestors (h : Paired d d' n n') :
    List.Forall₂ (Paired d d') n.ancestors n'.ancestors := by
  induction h with
  | root =>
    rw [Node.ancestors_root, Node.ancestors_root]
    exact List.Forall₂.nil
  | child hp _ hc hc' ih =>
    rw [Node.ancestors_child (List.mem_of_getElem? hc),
      Node.ancestors_child (List.mem_of_getElem? hc')]
    exact List.Forall₂.cons hp ih

/-- **The parents.** -/
theorem parent? (h : Paired d d' n n') :
    (n.parent? = none ∧ n'.parent? = none) ∨
      ∃ p p', Paired d d' p p' ∧ n.parent? = some p ∧ n'.parent? = some p' := by
  cases h with
  | root => exact Or.inl ⟨Node.parent?_root d, Node.parent?_root d'⟩
  | child hp _ hc hc' =>
    exact Or.inr ⟨_, _, hp, Node.parent?_child (List.mem_of_getElem? hc),
      Node.parent?_child (List.mem_of_getElem? hc')⟩

/-- The place of a child among the others. -/
theorem split_at {c : Node} {i : Nat} (hc : n.children[i]? = some c) :
    n.children = n.children.take i ++ c :: n.children.drop (i + 1) := by
  obtain ⟨hi, rfl⟩ := List.getElem?_eq_some_iff.1 hc
  rw [List.getElem_cons_drop, List.take_append_drop]

/-- The siblings before them hold the same. -/
theorem prev?_data (h : Paired d d' n n') : n.prev?.map Node.data = n'.prev?.map Node.data := by
  cases h with
  | root =>
    unfold Node.prev?
    rw [Node.siblingIds_root, Node.siblingIds_root]
    rfl
  | child hp hopen hc hc' =>
    rw [Node.prev?_eq (split_at hc), Node.prev?_eq (split_at hc'), ← List.getLast?_map,
      ← List.getLast?_map, List.map_take, List.map_take, hp.children_data hopen]

/-- The siblings behind them hold the same. -/
theorem next?_data (h : Paired d d' n n') : n.next?.map Node.data = n'.next?.map Node.data := by
  cases h with
  | root =>
    unfold Node.next?
    rw [Node.siblingIds_root, Node.siblingIds_root]
    rfl
  | child hp hopen hc hc' =>
    rw [Node.next?_eq (split_at hc), Node.next?_eq (split_at hc'), ← List.head?_map,
      ← List.head?_map, List.map_drop, List.map_drop, hp.children_data hopen]

/-- Their positions among the elements are the same. -/
theorem elementIndex_eq (h : Paired d d' n n') (he : n.isElement = true) :
    n.elementIndex = n'.elementIndex := by
  have he' : n'.isElement = true := by rw [← h.isElement_eq, he]
  cases h with
  | root =>
    unfold Node.elementIndex
    rw [Node.siblingIds_root, Node.siblingIds_root]
    rfl
  | @child p p' c c' i hp hopen hc hc' =>
    have hahead := List.forall₂_take i (hp.children hopen)
    have helements := forall₂_filter (fun _ _ hm => hm.isElement_eq) hahead
    rw [Node.elementIndex_eq (split_at hc) he, Node.elementIndex_eq (split_at hc') he',
      helements.length_eq]

/-! ## One for one -/

/-- **A node is paired with one node only.** -/
theorem unique (h : Paired d d' n a) : ∀ {b : Node}, Paired d d' n b → a = b := by
  -- up the tree: the parent is paired with one node only, and the place below it is the same
  induction h with
  | root h =>
    intro b hb
    generalize hn : d.root = r at hb
    cases hb with
    | root => rfl
    | child _ _ hc _ =>
      rw [← hn] at hc
      have hp := Node.parent?_child (List.mem_of_getElem? hc)
      rw [Node.parent?_root] at hp
      cases hp
  | @child p p' c c' i hp hopen hc hc' ih =>
    intro b hb
    have hparent := Node.parent?_child (List.mem_of_getElem? hc)
    cases hb with
    | root =>
      rw [Node.parent?_root] at hparent
      cases hparent
    | @child q q' _ _ j hq _ hj hj' =>
      obtain rfl : p = q := by
        rw [Node.parent?_child (List.mem_of_getElem? hj)] at hparent
        exact (Option.some.inj hparent).symm
      obtain rfl := ih hq
      obtain ⟨hi, hci⟩ := List.getElem?_eq_some_iff.1 hc
      obtain ⟨hj₁, hcj⟩ := List.getElem?_eq_some_iff.1 hj
      obtain rfl : i = j := (Node.children_nodup p).getElem_inj_iff.1 (hci.trans hcj.symm)
      rw [hc'] at hj'
      exact Option.some.inj hj'

theorem id_eq_iff (ha : Paired d d' a a') (hb : Paired d d' b b') :
    a.id = b.id ↔ a'.id = b'.id := by
  -- each direction is the uniqueness on one side
  have key : ∀ {d d' : Document} {a a' b b' : Node}, Paired d d' a a' → Paired d d' b b' →
      a.id = b.id → a'.id = b'.id := by
    intro d d' a a' b b' ha hb hid
    have hab : a = b := by
      have hdoc : a.doc = b.doc := ha.doc_eq.trans hb.doc_eq.symm
      cases a
      cases b
      simp only at hid hdoc
      rw [hid, hdoc]
    subst hab
    rw [ha.unique hb]
  exact ⟨key ha hb, key ha.symm hb.symm⟩

end Paired

/-! ## Without ignored elements -/

/-- No element at or below the node is ignored. -/
def Node.IsClear (n : Node) : Prop :=
  ∀ m, n.doc.Above n.id m → Tag.isIgnored (n.doc.node m).tag = false

theorem Node.IsClear.self {n : Node} (h : n.IsClear) : Tag.isIgnored n.tag = false :=
  h n.id Relation.ReflTransGen.refl

theorem Node.IsClear.child {n c : Node} (h : n.IsClear) (hc : c ∈ n.children) : c.IsClear := by
  obtain ⟨id, hid, rfl⟩ := List.mem_map.1 hc
  exact fun m hm => h m (Relation.ReflTransGen.head (mem_children.1 hid) hm)

/-- What the document remembers of its texts is up to date. -/
def Document.IsCurrent (d : Document) : Prop :=
  ∀ (id : Nat) (t : Text), d.slots[id]?.bind (·.snapshot) = some t → t = d.currentText id

theorem Node.text_text {n : Node} {t : Text} (h : n.data = .text t) : n.text = t := by
  change n.doc.data n.id = .text t at h
  rw [Node.text, Document.text, h]

theorem Node.text_comment {n : Node} {t : Text} (h : n.data = .comment t) : n.text = [] := by
  change n.doc.data n.id = .comment t at h
  rw [Node.text, Document.text, h]

/-- The text of an element is that of the texts below it, one after the other. -/
theorem Node.text_element {n : Node} {tag : String} {attributes : Attributes}
    (hcurrent : n.doc.IsCurrent) (h : n.data = .element tag attributes) :
    n.text = n.descendants.flatMap fun m => m.doc.ownText m.id := by
  have hbelow : n.doc.currentText n.id = n.descendants.flatMap fun m => m.doc.ownText m.id := by
    unfold Document.currentText Node.descendants
    rw [List.flatMap_map]
    rfl
  change n.doc.data n.id = .element tag attributes at h
  rw [← hbelow, Node.text, Document.text, h]
  simp only
  cases hs : n.doc.slots[n.id]?.bind (·.snapshot) with
  | none => rfl
  | some t => exact hcurrent n.id t hs

/-- **Paired nodes without an ignored element in them.** -/
structure Twin (d d' : Document) (n n' : Node) : Prop where
  paired : Paired d d' n n'
  clear : n.IsClear

namespace Twin

variable {d d' : Document} {n n' : Node}

/-- The children are twins. -/
theorem children (h : Twin d d' n n') : List.Forall₂ (Twin d d') n.children n'.children := by
  have hchildren := h.paired.children h.clear.self
  refine List.forall₂_of_length_eq_of_get hchildren.length_eq fun i hi hi' => ?_
  exact ⟨hchildren.get hi hi', h.clear.child (List.get_mem _ _)⟩

/-- **All that is below twins are twins**, in order. -/
theorem descendants : ∀ {n n' : Node}, Twin d d' n n' →
    List.Forall₂ (Twin d d') n.descendants n'.descendants := by
  rintro ⟨e, id⟩
  refine e.tree_induction (P := fun id => ∀ {n' : Node}, Twin d d' (e.node id) n' →
    List.Forall₂ (Twin d d') (e.node id).descendants n'.descendants) ?_ id
  intro id ih n' h
  -- a row of children, each with what is below it
  have hrow : ∀ {cs cs' : List Node}, List.Forall₂ (Twin d d') cs cs' →
      (∀ c ∈ cs, c ∈ (e.node id).children) →
      List.Forall₂ (Twin d d') (cs.flatMap fun c => c :: c.descendants)
        (cs'.flatMap fun c => c :: c.descendants) := by
    intro cs cs' hcs
    induction hcs with
    | nil => intro _; exact List.Forall₂.nil
    | @cons c c' cs cs' hc _ ihcs =>
      intro hmem
      obtain ⟨cid, hcid, rfl⟩ := List.mem_map.1 (hmem c List.mem_cons_self)
      rw [List.flatMap_cons, List.flatMap_cons]
      exact List.rel_append (List.Forall₂.cons hc (ih cid hcid hc))
        (ihcs fun m hm => hmem m (List.mem_cons_of_mem _ hm))
  rw [Node.descendants_eq, Node.descendants_eq]
  exact hrow h.children fun _ hc => hc

/-- The elements among the children are twins. -/
theorem elementChildren (h : Twin d d' n n') :
    List.Forall₂ (Twin d d') n.elementChildren n'.elementChildren :=
  forall₂_filter (fun _ _ hc => hc.paired.isElement_eq) h.children

theorem symm (h : Twin d d' n n') : Twin d' d n' n := by
  refine ⟨h.paired.symm, fun m hm => ?_⟩
  by_cases hself : n'.id = m
  · subst hself
    have htag := h.paired.tag_eq
    have hclear := h.clear.self
    rw [htag] at hclear
    exact hclear
  · -- a node below the one has its twin below the other, which is not ignored
    have hbelow : n'.doc.node m ∈ n'.descendants :=
      List.mem_map.2 ⟨m, mem_descendants.2 ⟨hself, hm⟩, rfl⟩
    obtain ⟨i, hi, hmi⟩ := List.getElem_of_mem hbelow
    have htwins := h.descendants
    have htwin := htwins.get (by rwa [htwins.length_eq]) hi
    have hclear := htwin.clear.self
    rw [htwin.paired.tag_eq] at hclear
    rw [← hmi]
    exact hclear

/-- **The texts of twins are the same.** -/
theorem text_eq (hd : d.IsCurrent) (hd' : d'.IsCurrent) (h : Twin d d' n n') :
    n.text = n'.text := by
  have hdata := h.paired.data_eq
  cases hn : n.data with
  | text t => rw [Node.text_text hn, Node.text_text (hdata.symm.trans hn)]
  | comment t => rw [Node.text_comment hn, Node.text_comment (hdata.symm.trans hn)]
  | element tag attributes =>
    have hcurrent : n.doc.IsCurrent := by rw [h.paired.doc_eq]; exact hd
    have hcurrent' : n'.doc.IsCurrent := by rw [h.paired.symm.doc_eq]; exact hd'
    have hown : ∀ m m', Twin d d' m m' → m.doc.ownText m.id = m'.doc.ownText m'.id := by
      intro m m' hm
      have hm' : m.doc.data m.id = m'.doc.data m'.id := hm.paired.data_eq
      unfold Document.ownText
      rw [hm']
    rw [Node.text_element hcurrent hn, Node.text_element hcurrent' (hdata.symm.trans hn),
      List.flatMap, List.flatMap, forall₂_map_eq hown h.descendants]

end Twin

end HtmlMarkdown
