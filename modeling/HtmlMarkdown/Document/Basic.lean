import HtmlMarkdown.Document.Attributes

/-!
# Documents

A document is a tree of elements, texts and comments that only grows: its nodes are numbered in
the order in which they were appended, the root being node 0. A node knows its parent and, in
the order of appending, its children.

* `Document.append`: a new node below an existing one.
* `IsTree`: every node but the root has an earlier parent, and the children of a node are
  exactly the nodes that name it as their parent. Each document carries the proof.
* `Document.remember`: keep the text of an element as it is now.
-/

namespace HtmlMarkdown

/-! ## Nodes -/

/-- What a node holds. -/
inductive NodeData where
  /-- An element with its tag in lower case. -/
  | element (tag : String) (attributes : Attributes)
  | text (value : Text)
  | comment (value : Text)
  deriving DecidableEq, Repr

/-- An element; its tag and its attribute names become lower case. -/
def NodeData.ofTag (tag : String) (attributes : List (String × Text)) : NodeData :=
  .element (Text.lowerName tag) (Attributes.ofPairs attributes)

/-- A node in its place. -/
structure Slot where
  data : NodeData
  parent : Option Nat := none
  children : Array Nat := #[]
  /-- The text of the element as it was when it was first asked for. -/
  snapshot : Option Text := none

/-- The parent of a node. -/
def parentIn (slots : Array Slot) (id : Nat) : Option Nat :=
  slots[id]?.bind (·.parent)

/-- The children of a node. -/
def childrenIn (slots : Array Slot) (id : Nat) : List Nat :=
  (slots[id]?.map (·.children.toList)).getD []

/-- The nodes form a tree whose root is node 0. -/
structure IsTree (slots : Array Slot) : Prop where
  /-- There is a root. -/
  nonempty : 0 < slots.size
  /-- A parent comes before its children. -/
  parent_lt : ∀ {id p : Nat}, parentIn slots id = some p → p < id
  /-- Every other node has a parent. -/
  parent_isSome : ∀ {id : Nat}, 0 < id → id < slots.size → (parentIn slots id).isSome
  /-- The children of a node are the nodes that name it, in order. -/
  children_eq : ∀ id : Nat,
    childrenIn slots id = (List.range slots.size).filter fun c => parentIn slots c == some id

theorem parentIn_eq_none_of_le {slots : Array Slot} {id : Nat} (h : slots.size ≤ id) :
    parentIn slots id = none := by
  simp [parentIn, Array.getElem?_eq_none h]

/-- A tree of a single node. -/
theorem isTree_singleton (data : NodeData) : IsTree #[{ data := data }] where
  nonempty := by simp
  parent_lt := by
    intro id p h
    cases id <;> simp [parentIn] at h
  parent_isSome := by
    intro id h0 h1
    simp at h1
    omega
  children_eq := by
    intro id
    cases id <;> simp [childrenIn, parentIn]

/-- The nodes with a new one below `parent`. -/
def attach (slots : Array Slot) (parent : Nat) (data : NodeData) : Array Slot :=
  (slots.modify parent fun s => { s with children := s.children.push slots.size }).push
    { data := data, parent := some parent }

theorem size_attach (slots : Array Slot) (parent : Nat) (data : NodeData) :
    (attach slots parent data).size = slots.size + 1 := by
  simp [attach]

theorem parentIn_attach (slots : Array Slot) (parent : Nat) (data : NodeData) (id : Nat) :
    parentIn (attach slots parent data) id =
      if id = slots.size then some parent else parentIn slots id := by
  unfold parentIn attach
  rw [Array.getElem?_push]
  simp only [Array.size_modify]
  split
  · rfl
  · rw [Array.getElem?_modify]
    split
    · cases slots[id]? <;> rfl
    · rfl

theorem childrenIn_attach (slots : Array Slot) {parent : Nat} (h : parent < slots.size)
    (data : NodeData) (id : Nat) :
    childrenIn (attach slots parent data) id =
      if id = parent then childrenIn slots id ++ [slots.size] else childrenIn slots id := by
  unfold childrenIn attach
  rw [Array.getElem?_push]
  simp only [Array.size_modify]
  split
  · have : id ≠ parent := by omega
    subst_vars
    simp [this]
  · rw [Array.getElem?_modify]
    by_cases hp : parent = id
    · subst hp
      simp [Array.getElem?_eq_getElem h]
    · have : id ≠ parent := fun e => hp e.symm
      simp [hp, this]

/-- **Appending keeps the tree.** -/
theorem IsTree.attach {slots : Array Slot} (ht : IsTree slots) {parent : Nat}
    (h : parent < slots.size) (data : NodeData) : IsTree (attach slots parent data) where
  nonempty := by simp [size_attach]
  parent_lt := by
    intro id p hp
    rw [parentIn_attach] at hp
    split at hp
    · cases hp
      omega
    · exact ht.parent_lt hp
  parent_isSome := by
    intro id h0 h1
    rw [parentIn_attach]
    rw [size_attach] at h1
    split
    · rfl
    · exact ht.parent_isSome h0 (by omega)
  children_eq := by
    intro id
    rw [childrenIn_attach slots h, size_attach, List.range_succ, List.filter_append]
    have hold : ((List.range slots.size).filter
        fun c => parentIn (HtmlMarkdown.attach slots parent data) c == some id) =
        childrenIn slots id := by
      rw [ht.children_eq id]
      apply List.filter_congr
      intro c hc
      have : c ≠ slots.size := by
        have := List.mem_range.1 hc
        omega
      rw [parentIn_attach, if_neg this]
    rw [hold]
    by_cases hid : id = parent
    · subst hid
      simp [parentIn_attach]
    · have : parent ≠ id := fun e => hid e.symm
      simp [parentIn_attach, hid, this]

/-- Keep a text for a node that has none yet. -/
def keepText (slots : Array Slot) (id : Nat) (text : Text) : Array Slot :=
  slots.modify id fun s => { s with snapshot := s.snapshot.or (some text) }

theorem parentIn_keepText (slots : Array Slot) (id : Nat) (text : Text) (n : Nat) :
    parentIn (keepText slots id text) n = parentIn slots n := by
  unfold parentIn keepText
  rw [Array.getElem?_modify]
  split <;> cases slots[n]? <;> rfl

theorem childrenIn_keepText (slots : Array Slot) (id : Nat) (text : Text) (n : Nat) :
    childrenIn (keepText slots id text) n = childrenIn slots n := by
  unfold childrenIn keepText
  rw [Array.getElem?_modify]
  split <;> cases slots[n]? <;> rfl

/-- Keeping a text leaves the tree alone. -/
theorem IsTree.keepText {slots : Array Slot} (ht : IsTree slots) (id : Nat) (text : Text) :
    IsTree (keepText slots id text) where
  nonempty := by simpa [HtmlMarkdown.keepText] using ht.nonempty
  parent_lt := by
    intro n p h
    rw [parentIn_keepText] at h
    exact ht.parent_lt h
  parent_isSome := by
    intro n h0 h1
    rw [parentIn_keepText]
    exact ht.parent_isSome h0 (by simpa [HtmlMarkdown.keepText] using h1)
  children_eq := by
    intro n
    rw [childrenIn_keepText, ht.children_eq n]
    simp only [parentIn_keepText]
    simp [HtmlMarkdown.keepText]

/-! ## Documents -/

/-- A document. -/
structure Document where
  slots : Array Slot
  /-- The document stands for plain text: it has no elements to be found. -/
  degraded : Bool := false
  isTree : IsTree slots

namespace Document

/-- The number of nodes. -/
def size (d : Document) : Nat := d.slots.size

/-- The root of every document. -/
def rootId : Nat := 0

/-- A document with only a root element. -/
def new (tag : String) (attributes : List (String × Text)) : Document where
  slots := #[{ data := .ofTag tag attributes }]
  isTree := isTree_singleton _

/-- **Append a node below another.** The new node is the last child of `parent` and takes the
next number; below a node that does not exist nothing is appended. -/
def append (d : Document) (parent : Nat) (data : NodeData) : Document :=
  if h : parent < d.slots.size then
    { slots := attach d.slots parent data, degraded := d.degraded,
      isTree := d.isTree.attach h data }
  else d

/-- Append an element. -/
def appendElement (d : Document) (parent : Nat) (tag : String)
    (attributes : List (String × Text)) : Document :=
  d.append parent (.ofTag tag attributes)

/-- Append a text. -/
def appendText (d : Document) (parent : Nat) (value : Text) : Document :=
  d.append parent (.text value)

/-- Append a comment. -/
def appendComment (d : Document) (parent : Nat) (value : Text) : Document :=
  d.append parent (.comment value)

/-- The document that stands for a plain text: a single text in a body. No element of it is
ever found. -/
def ofPlainText (t : Text) : Document :=
  { (((new "html" []).appendElement rootId "body" []).appendText 1 t) with degraded := true }

/-- What a node holds; an empty text if there is no such node. -/
def data (d : Document) (id : Nat) : NodeData := (d.slots[id]?.map (·.data)).getD (.text [])

/-- The parent of a node. -/
def parent? (d : Document) (id : Nat) : Option Nat := parentIn d.slots id

/-- The children of a node, in the order in which they were appended. -/
def children (d : Document) (id : Nat) : List Nat := childrenIn d.slots id

/-- The nodes above a node, nearest first; `fuel` bounds their number. -/
def ancestorsFrom (d : Document) : (fuel : Nat) → Nat → List Nat
  | 0, _ => []
  | fuel + 1, id =>
    match d.parent? id with
    | none => []
    | some p => p :: ancestorsFrom d fuel p

/-- The nodes above a node, from its parent to the root. -/
def ancestors (d : Document) (id : Nat) : List Nat := d.ancestorsFrom id id

/-- Put a node and the nodes below it, in document order, before a list of nodes; `levels`
bounds the depth. -/
def subtreeOnto (d : Document) : (levels : Nat) → Nat → List Nat → List Nat
  | 0, id, rest => id :: rest
  | levels + 1, id, rest =>
    id :: (d.children id).foldr (fun c rest => subtreeOnto d levels c rest) rest

/-- **The nodes below a node in document order**: each before the nodes below it, and all below
an earlier sibling before a later one. -/
def descendants (d : Document) (id : Nat) : List Nat :=
  (d.children id).foldr (fun c rest => d.subtreeOnto d.size c rest) []

/-! ### Text -/

/-- The characters that a node holds itself. -/
def ownText (d : Document) (id : Nat) : Text :=
  match d.data id with
  | .text t => t
  | _ => []

/-- The texts below a node, one after the other. -/
def currentText (d : Document) (id : Nat) : Text := (d.descendants id).flatMap d.ownText

/-- **The text of a node**: its own characters, or for an element those of all texts below it.
An element that was asked before answers with what it remembers. -/
def text (d : Document) (id : Nat) : Text :=
  match d.data id with
  | .text t => t
  | .comment _ => []
  | .element .. => (d.slots[id]?.bind (·.snapshot)).getD (d.currentText id)

/-- Keep the text of an element as it is now, for every later question. -/
def remember (d : Document) (id : Nat) : Document :=
  match d.data id with
  | .element .. =>
    { slots := keepText d.slots id (d.currentText id), degraded := d.degraded,
      isTree := d.isTree.keepText id _ }
  | _ => d

end Document

end HtmlMarkdown
