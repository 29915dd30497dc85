import HtmlMarkdown.Proofs.Document.Walk
import Mathlib.Data.List.Nodup

/-!
# How a document grows

A document starts from a root or from a plain text, and every call that appends a node adds one
behind those that are there. `d.Continues log d'` says what a log of such calls leaves of `d` and
what it adds.

* `continues_extend`: one call; `continues_extendAll`: **a log of calls**, each below a node that
  exists when the call is made.
* `Continues.children_eq`: the children of a node, in the order of the log.
* `extendAll_ordered`: **a document is a tree however it has grown**, and `descendants` lists it
  in document order.
-/

namespace HtmlMarkdown

/-! ## Calls that append -/

/-- A call that appends a node. -/
inductive Addition where
  | element (parent : Nat) (tag : String) (attributes : List (String × Text))
  | text (parent : Nat) (value : Text)
  | comment (parent : Nat) (value : Text)

/-- The node below which the new one is to stand. -/
def Addition.parent : Addition → Nat
  | .element parent _ _ | .text parent _ | .comment parent _ => parent

/-- What the new node holds. -/
def Addition.data : Addition → NodeData
  | .element _ tag attributes => .ofTag tag attributes
  | .text _ value => .text value
  | .comment _ value => .comment value

/-- What a document starts from. -/
inductive Origin where
  | root (tag : String) (attributes : List (String × Text))
  | plainText (value : Text)

/-- The document before the first addition. -/
def Origin.document : Origin → Document
  | .root tag attributes => .new tag attributes
  | .plainText value => .ofPlainText value

namespace Document

variable {d d' d'' : Document} {log log' : List Addition} {p id : Nat}

/-- Make one call. -/
def extend (d : Document) : Addition → Document
  | .element parent tag attributes => d.appendElement parent tag attributes
  | .text parent value => d.appendText parent value
  | .comment parent value => d.appendComment parent value

/-- Make the calls of a log, one after the other. -/
def extendAll (d : Document) (log : List Addition) : Document := log.foldl extend d

/-- Every call of the log names a node that exists when the call is made. -/
def Accepts (d : Document) : List Addition → Prop
  | [] => True
  | a :: log => a.parent < d.size ∧ (d.extend a).Accepts log

theorem extend_eq (d : Document) (a : Addition) : d.extend a = d.append a.parent a.data := by
  cases a <;> rfl

/-! ## What a log adds -/

/-- `d'` has the nodes of `d` as they were, and behind them those of `log`. -/
structure Continues (d : Document) (log : List Addition) (d' : Document) : Prop where
  size_eq : d'.size = d.size + log.length
  old : ∀ {id : Nat}, id < d.size → d'.parent? id = d.parent? id ∧ d'.data id = d.data id
  new : ∀ {i : Nat} {a : Addition}, log[i]? = some a →
    d'.parent? (d.size + i) = some a.parent ∧ d'.data (d.size + i) = a.data

theorem Continues.refl (d : Document) : d.Continues [] d where
  size_eq := rfl
  old := fun _ => ⟨rfl, rfl⟩
  new := by simp

theorem Continues.trans (h : d.Continues log d') (h' : d'.Continues log' d'') :
    d.Continues (log ++ log') d'' where
  size_eq := by
    rw [h'.size_eq, h.size_eq, List.length_append]
    omega
  old := by
    intro id hid
    have hid' : id < d'.size := by
      rw [h.size_eq]
      omega
    rw [(h'.old hid').1, (h'.old hid').2]
    exact h.old hid
  new := by
    intro i a ha
    rcases Nat.lt_or_ge i log.length with hi | hi
    · -- a node of the first log, which the second one leaves as it is
      rw [List.getElem?_append_left hi] at ha
      have hid : d.size + i < d'.size := by
        rw [h.size_eq]
        omega
      rw [(h'.old hid).1, (h'.old hid).2]
      exact h.new ha
    · rw [List.getElem?_append_right hi] at ha
      have hid : d.size + i = d'.size + (i - log.length) := by
        rw [h.size_eq]
        omega
      rw [hid]
      exact h'.new ha

theorem append_of_lt (h : p < d.size) (data : NodeData) :
    (d.append p data).slots = attach d.slots p data := by
  unfold size at h
  unfold append
  rw [dif_pos h]

theorem parent?_append (h : p < d.size) (data : NodeData) (id : Nat) :
    (d.append p data).parent? id = if id = d.size then some p else d.parent? id := by
  unfold parent?
  rw [append_of_lt h]
  exact parentIn_attach d.slots p data id

theorem data_append (h : p < d.size) (data : NodeData) (id : Nat) :
    (d.append p data).data id = if id = d.size then data else d.data id := by
  unfold Document.data
  rw [append_of_lt h, attach, Array.getElem?_push, Array.size_modify, ← size]
  by_cases hid : id = d.size
  · rw [if_pos hid, if_pos hid]
    rfl
  · rw [if_neg hid, if_neg hid, Array.getElem?_modify]
    split
    · cases d.slots[id]? <;> rfl
    · rfl

/-- **One call** adds one node. -/
theorem continues_extend {a : Addition} (h : a.parent < d.size) :
    d.Continues [a] (d.extend a) where
  size_eq := by
    rw [extend_eq]
    unfold size
    rw [append_of_lt h, size_attach]
    rfl
  old := by
    intro id hid
    have hne : id ≠ d.size := by omega
    rw [extend_eq, parent?_append h, data_append h, if_neg hne, if_neg hne]
    exact ⟨rfl, rfl⟩
  new := by
    intro i b hb
    obtain ⟨rfl, rfl⟩ : i = 0 ∧ b = a := by
      cases i with
      | zero => simpa using hb.symm
      | succ i => simp at hb
    rw [extend_eq, Nat.add_zero, parent?_append h, data_append h, if_pos rfl, if_pos rfl]
    exact ⟨rfl, rfl⟩

/-- **A log of calls** adds its nodes, in its order. -/
theorem continues_extendAll (h : d.Accepts log) : d.Continues log (d.extendAll log) := by
  induction log generalizing d with
  | nil => exact Continues.refl d
  | cons a log ih =>
    have hstep := continues_extend h.1
    exact hstep.trans (ih h.2)

/-- The numbers of the calls that append below a node. -/
def additionsTo (log : List Addition) (p : Nat) : List Nat :=
  (List.range log.length).filter fun i => log[i]?.map (·.parent) == some p

/-- **The children of a node**: behind those that were there stand those of the log, in its
order. -/
theorem Continues.children_eq (h : d.Continues log d') (p : Nat) :
    d'.children p = d.children p ++ (additionsTo log p).map (d.size + ·) := by
  have hslots : d'.slots.size = d.slots.size + log.length := h.size_eq
  have hold : (List.range d.slots.size).filter (fun c => parentIn d'.slots c == some p) =
      d.children p := by
    unfold children
    rw [d.isTree.children_eq p]
    refine List.filter_congr fun c hc => ?_
    have hparent : parentIn d'.slots c = parentIn d.slots c := (h.old (List.mem_range.1 hc)).1
    rw [hparent]
  have hnew : ((List.range log.length).map (d.slots.size + ·)).filter
      (fun c => parentIn d'.slots c == some p) = (additionsTo log p).map (d.size + ·) := by
    rw [List.filter_map]
    refine congrArg (List.map _) (List.filter_congr fun i hi => ?_)
    have hlt : i < log.length := List.mem_range.1 hi
    have ha : log[i]? = some log[i] := List.getElem?_eq_getElem hlt
    have hparent : parentIn d'.slots (d.slots.size + i) = some log[i].parent := (h.new ha).1
    rw [Function.comp_apply, hparent, ha]
    rfl
  unfold children at hold ⊢
  rw [d'.isTree.children_eq p, hslots, List.range_add, List.filter_append, hold, hnew]

/-! ## The grown document -/

/-- A node that has a parent is a child of this one only, and once. -/
theorem count_children (h : d.Parent p id) (q : Nat) :
    (d.children q).count id = if q = p then 1 else 0 := by
  by_cases hq : q = p
  · subst hq
    rw [if_pos rfl]
    exact List.count_eq_one_of_mem (d.children_nodup q) (mem_children.2 h)
  · rw [if_neg hq, List.count_eq_zero]
    intro hmem
    exact hq ((mem_children.1 hmem).unique h)

/-- **A document is a tree however it has grown**, and it is walked through in document order. -/
theorem extendAll_ordered (o : Origin) (log : List Addition) (h : o.document.Accepts log) :
    let d := o.document.extendAll log
    -- the nodes are those of the start and those of the log, in its order
    o.document.Continues log d ∧
    -- each but the root is a child of one node, an earlier one, and in no other place
    d.parent? rootId = none ∧
    (∀ id, id ≠ rootId → id < d.size → ∃ p < id, d.Parent p id ∧
      ∀ q, (d.children q).count id = if q = p then 1 else 0) ∧
    (∀ p, (d.children p).Pairwise (· < ·) ∧ d.children p =
      o.document.children p ++ (additionsTo log p).map (o.document.size + ·)) ∧
    -- the way up from a node ends at the root
    (∀ id < d.size, (id :: d.ancestors id).IsChain (fun c p => d.Parent p c) ∧
      (id :: d.ancestors id).getLast? = some rootId ∧ (id :: d.ancestors id).Nodup) ∧
    -- the walk from a node ends, with the nodes below it, each once and in document order
    ∀ id, (∀ out, d.Walk (d.children id) out ↔ out = d.descendants id) ∧
      (∀ m, m ∈ d.descendants id ↔ d.Over id m) ∧ (d.descendants id).Nodup ∧
      ∀ a ∈ d.descendants id, ∀ b ∈ d.descendants id,
        ((d.descendants id).idxOf a < (d.descendants id).idxOf b ↔ d.Precedes a b) := by
  intro d
  have hd : o.document.Continues log d := continues_extendAll h
  refine ⟨hd, d.parent?_root, ?_, fun p => ⟨d.children_sorted p, hd.children_eq p⟩,
    fun _ => climb, ?_⟩
  · intro id hroot hlt
    obtain ⟨p, hp⟩ := exists_parent hroot hlt
    exact ⟨p, hp.lt, hp, count_children hp⟩
  · intro id
    refine ⟨fun _ => d.walk_iff id, fun _ => mem_descendants_iff, d.descendants_nodup id, ?_⟩
    intro a ha b hb
    exact idxOf_descendants_lt_iff ha hb

/-- Additions below two nodes in turn: what is added last below the first child comes before the
second child. -/
theorem extendAll_ordered_in_turn :
    let o := Origin.root "html" []
    let log := [.element 0 "p" [], .text 0 "b".toList, .text 1 "a".toList, .comment 1 "c".toList]
    let d := o.document.extendAll log
    o.document.Accepts log ∧ d.Walk (d.children 0) [1, 3, 4, 2] ∧ d.Precedes 4 2 := by
  intro o log d
  have hlog : o.document.Accepts log := ⟨by decide, by decide, by decide, by decide, trivial⟩
  have hlist : d.descendants 0 = [1, 3, 4, 2] := by decide
  obtain ⟨-, -, -, -, -, hwalk⟩ := extendAll_ordered o log hlog
  obtain ⟨hends, -, -, horder⟩ := hwalk 0
  have hbefore : d.Precedes 4 2 := (horder 4 (by decide) 2 (by decide)).1 (by decide)
  exact ⟨hlog, (hends _).2 hlist.symm, hbefore⟩

end Document

end HtmlMarkdown
