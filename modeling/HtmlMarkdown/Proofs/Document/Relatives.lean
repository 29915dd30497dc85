import HtmlMarkdown.Proofs.Document.Order
import Mathlib.Data.List.Nodup

/-!
# The relatives of a node

What stands around a child is read off its place among the children of its parent: above it the
parent and what is above that, before and behind it the nearest of the other children.

* `ancestors_child`, `descendants_eq`: the nodes above and below, one level at a time.
* `depthIn`: how many elements of a tag are above a node.
* `prev?_eq`, `next?_eq`, `elementIndex_eq`: **the siblings**, and the position among the elements.
-/

namespace HtmlMarkdown.Node

open Document

/-! ## Neighbours in a list -/

theorem before?_of_not_mem : ∀ {id : Nat} {ids : List Nat}, id ∉ ids.tail → before? id ids = none
  | _, [], _ => rfl
  | _, [_], _ => rfl
  | id, a :: b :: rest, h => by
    rw [List.tail_cons, List.mem_cons, not_or] at h
    rw [before?, if_neg (Ne.symm h.1)]
    exact before?_of_not_mem h.2

theorem before?_split {id : Nat} {behind : List Nat} : ∀ {ahead : List Nat},
    (ahead ++ id :: behind).Nodup → before? id (ahead ++ id :: behind) = ahead.getLast?
  | [], h => before?_of_not_mem (List.nodup_cons.1 h).1
  | [a], _ => by simp [before?]
  | a :: b :: ahead, h => by
    have hrest : (b :: ahead ++ id :: behind).Nodup := (List.nodup_cons.1 h).2
    have hne : b ≠ id := by
      rintro rfl
      exact (List.nodup_cons.1 hrest).1 (by simp)
    change before? id (a :: b :: (ahead ++ id :: behind)) = _
    rw [before?, if_neg hne]
    exact (before?_split hrest).trans (List.getLast?_cons_cons ..).symm

theorem after?_split {id : Nat} {behind : List Nat} : ∀ {ahead : List Nat},
    (ahead ++ id :: behind).Nodup → after? id (ahead ++ id :: behind) = behind.head?
  | [], _ => by cases behind <;> simp [after?]
  | [a], h => by
    have hne : a ≠ id := by
      rintro rfl
      exact (List.nodup_cons.1 h).1 (by simp)
    change after? id (a :: id :: behind) = _
    rw [after?, if_neg hne]
    exact @after?_split id behind [] (List.nodup_cons.1 h).2
  | a :: b :: ahead, h => by
    have hne : a ≠ id := by
      rintro rfl
      exact (List.nodup_cons.1 h).1 (by simp)
    change after? id (a :: b :: (ahead ++ id :: behind)) = _
    rw [after?, if_neg hne]
    exact @after?_split id behind (b :: ahead) (List.nodup_cons.1 h).2

/-! ## The parent, and what is above and below -/

variable {d : Document} {n p c : Node} {ahead behind : List Node}

theorem parent_of_mem (h : c ∈ n.children) : c.doc = n.doc ∧ n.doc.Parent n.id c.id := by
  obtain ⟨id, hid, rfl⟩ := List.mem_map.1 h
  exact ⟨rfl, mem_children.1 hid⟩

/-- The parent of a child. -/
theorem parent?_child (h : c ∈ n.children) : c.parent? = some n := by
  obtain ⟨id, hid, rfl⟩ := List.mem_map.1 h
  have hp : n.doc.parent? id = some n.id := mem_children.1 hid
  change (n.doc.parent? id).map (n.at' id).at' = some n
  rw [hp]
  rfl

/-- **Above a child** are its parent and what is above that. -/
theorem ancestors_child (h : c ∈ n.children) : c.ancestors = n :: n.ancestors := by
  obtain ⟨id, hid, rfl⟩ := List.mem_map.1 h
  have hids : n.doc.ancestors id = n.id :: n.doc.ancestors n.id :=
    ancestors_eq (mem_children.1 hid)
  change (n.doc.ancestors id).map (n.at' id).at' = _
  rw [hids]
  rfl

/-- **Below a node** are its children, each followed by what is below it. -/
theorem descendants_eq (n : Node) :
    n.descendants = n.children.flatMap fun c => c :: c.descendants := by
  unfold descendants children
  rw [Document.descendants_eq, List.map_flatMap, List.flatMap_map]
  rfl

/-- **At and below a node** is what has it on its way to the root. -/
theorem mem_subtree {m : Node} :
    m ∈ n :: n.descendants ↔ m.doc = n.doc ∧ n.doc.Above n.id m.id := by
  constructor
  · intro h
    rcases List.mem_cons.1 h with rfl | h
    · exact ⟨rfl, Relation.ReflTransGen.refl⟩
    · obtain ⟨id, hid, rfl⟩ := List.mem_map.1 h
      exact ⟨rfl, (mem_descendants.1 hid).2⟩
  · rintro ⟨hdoc, habove⟩
    have hm : m = n.at' m.id := by
      cases m
      cases hdoc
      rfl
    rw [hm]
    by_cases hid : n.id = m.id
    · rw [← hid]
      exact List.mem_cons_self
    · exact List.mem_cons_of_mem _ (List.mem_map_of_mem (mem_descendants.2 ⟨hid, habove⟩))

/-- What is below a node stays below what is above that. -/
theorem mem_subtree_trans {m x : Node} (hm : m ∈ n :: n.descendants)
    (hx : x ∈ m :: m.descendants) : x ∈ n :: n.descendants := by
  rw [mem_subtree] at *
  obtain ⟨hdoc, habove⟩ := hm
  rw [hdoc] at hx
  exact ⟨hx.1, habove.trans hx.2⟩

theorem mem_subtree_child (h : c ∈ n.children) : c ∈ n :: n.descendants := by
  obtain ⟨hdoc, hparent⟩ := parent_of_mem h
  exact mem_subtree.2 ⟨hdoc, Relation.ReflTransGen.single hparent⟩

/-- **What is above a node** is above everything below it. -/
theorem ancestors_suffix {m : Node} (h : m ∈ n :: n.descendants) :
    n.ancestors <:+ m.ancestors := by
  obtain ⟨hdoc, habove⟩ := mem_subtree.1 h
  have hids : ∀ id, n.doc.Above n.id id → n.doc.ancestors n.id <:+ n.doc.ancestors id := by
    intro id habove
    induction habove with
    | refl => exact List.suffix_refl _
    | tail _ hp ih =>
      rw [ancestors_eq hp]
      exact ih.trans (List.suffix_cons _ _)
  have hat : m.at' = n.at' := by
    unfold at'
    rw [hdoc]
  unfold ancestors
  rw [hat, hdoc]
  exact (hids m.id habove).map _

/-! ## Depth in the elements of a tag -/

section

variable {tag : String}

/-- How many elements of the tag are above the node. -/
def depthIn (tag : String) (n : Node) : Nat := (n.ancestors.filter (·.tag == tag)).length

theorem depthIn_child (h : c ∈ n.children) :
    c.depthIn tag = n.depthIn tag + if n.tag = tag then 1 else 0 := by
  unfold depthIn
  rw [ancestors_child h, List.filter_cons]
  by_cases htag : n.tag = tag <;> simp [htag]

theorem depthIn_eq_zero_iff : n.depthIn tag = 0 ↔ n.hasAncestor tag = false := by
  unfold depthIn hasAncestor
  rw [List.length_eq_zero_iff, List.filter_eq_nil_iff, List.any_eq_false]

theorem depthIn_le {m : Node} (h : m ∈ n :: n.descendants) : n.depthIn tag ≤ m.depthIn tag :=
  ((ancestors_suffix h).filter _).length_le

end

theorem children_nodup (n : Node) : n.children.Nodup := by
  refine (n.doc.children_nodup n.id).map fun a b h => ?_
  exact congrArg Node.id h

theorem parent?_root (d : Document) : d.root.parent? = none := by
  change (d.parent? rootId).map d.root.at' = none
  rw [d.parent?_root]
  rfl

theorem siblingIds_root (d : Document) : d.root.siblingIds = [] := by
  have hp : d.root.doc.parent? d.root.id = none := d.parent?_root
  unfold siblingIds
  rw [hp]

theorem ancestors_root (d : Document) : d.root.ancestors = [] := by
  change (d.ancestors rootId).map d.root.at' = []
  rw [ancestors_of_none d.parent?_root]
  rfl

/-! ## Siblings -/

theorem siblingIds_child (h : c ∈ n.children) : c.siblingIds = n.doc.children n.id := by
  obtain ⟨id, hid, rfl⟩ := List.mem_map.1 h
  have hp : (n.at' id).doc.parent? (n.at' id).id = some n.id := mem_children.1 hid
  unfold siblingIds
  rw [hp]
  rfl

/-- The numbers of a child and its siblings, by its place. -/
theorem siblingIds_split (h : n.children = ahead ++ c :: behind) :
    c.siblingIds = ahead.map (·.id) ++ c.id :: behind.map (·.id) ∧ c.siblingIds.Nodup := by
  have hids : n.children.map (·.id) = n.doc.children n.id := by
    unfold children
    rw [List.map_map]
    exact List.map_id _
  rw [siblingIds_child (by rw [h]; simp : c ∈ n.children)]
  refine ⟨?_, n.doc.children_nodup n.id⟩
  rw [← hids, h, List.map_append, List.map_cons]

/-- The places of some children, seen from one of them. -/
theorem map_at_ids {nodes : List Node} (hc : c ∈ n.children) (h : ∀ m ∈ nodes, m ∈ n.children) :
    (nodes.map (·.id)).map c.at' = nodes := by
  rw [List.map_map]
  conv_rhs => rw [← List.map_id nodes]
  apply List.map_congr_left
  intro m hm
  obtain ⟨id, -, rfl⟩ := List.mem_map.1 (h m hm)
  obtain ⟨cid, -, rfl⟩ := List.mem_map.1 hc
  rfl

/-- **The sibling before a child** is the last one of those before it. -/
theorem prev?_eq (h : n.children = ahead ++ c :: behind) : c.prev? = ahead.getLast? := by
  obtain ⟨hids, hnodup⟩ := siblingIds_split h
  have hahead : (ahead.map (·.id)).map c.at' = ahead :=
    map_at_ids (n := n) (by rw [h]; simp) fun m hm => by rw [h]; simp [hm]
  rw [hids] at hnodup
  unfold prev?
  rw [hids, before?_split hnodup, ← List.getLast?_map, hahead]

/-- **The sibling behind a child** is the first one of those behind it. -/
theorem next?_eq (h : n.children = ahead ++ c :: behind) : c.next? = behind.head? := by
  obtain ⟨hids, hnodup⟩ := siblingIds_split h
  have hbehind : (behind.map (·.id)).map c.at' = behind :=
    map_at_ids (n := n) (by rw [h]; simp) fun m hm => by rw [h]; simp [hm]
  rw [hids] at hnodup
  unfold next?
  rw [hids, after?_split hnodup, ← List.head?_map, hbehind]

theorem idxOf?_split {id : Nat} {behind : List Nat} : ∀ {ahead : List Nat}, id ∉ ahead →
    (ahead ++ id :: behind).idxOf? id = some ahead.length
  | [], _ => by simp [List.idxOf?_cons]
  | a :: ahead, h => by
    rw [List.mem_cons, not_or] at h
    have hne : (a == id) = false := beq_false_of_ne (Ne.symm h.1)
    rw [List.cons_append, List.idxOf?_cons, hne, idxOf?_split h.2]
    rfl

/-- **The position of a child** among the elements counts those before it. -/
theorem elementIndex_eq (h : n.children = ahead ++ c :: behind) (hc : c.isElement = true) :
    c.elementIndex = (ahead.filter isElement).length + 1 := by
  obtain ⟨hids, hnodup⟩ := siblingIds_split h
  have hmem : c ∈ n.children := by rw [h]; simp
  have hnodes : (ahead.map (·.id)).map c.at' = ahead :=
    map_at_ids hmem fun m hm => by rw [h]; simp [hm]
  have hself : (c.at' c.id).isElement = true := hc
  have hahead : ((ahead.map (·.id)).filter fun id => (c.at' id).isElement).length =
      (ahead.filter isElement).length := by
    conv_rhs => rw [← hnodes, List.filter_map, List.length_map]
    rfl
  have hnot : c.id ∉ (ahead.map (·.id)).filter fun id => (c.at' id).isElement := by
    rw [hids, List.nodup_append] at hnodup
    intro hin
    exact hnodup.2.2 _ (List.mem_of_mem_filter hin) _ List.mem_cons_self rfl
  unfold elementIndex
  simp only [hids, List.filter_append, List.filter_cons, hself, if_true, idxOf?_split hnot, hahead]

end HtmlMarkdown.Node
