import HtmlMarkdown.Proofs.Document.Growth

/-!
# What a document remembers of its texts

An element that is asked for its text remembers the answer and gives it again. A run mixes calls
that append a node with questions: for the text of a node, or for the title, which asks one `title`
element after the other. Every run comes to steps that add a node or ask one node.

* `remembered?_take_of_some`, `remembered?_take_of_not_asks`: what a step leaves of what is
  remembered.
* `text_takeAll`: **an element answers with its text at the first question.**
* `SameFor`: two documents that no question to a node tells apart. A step on both keeps it, and so
  does a question to another node on one of them.
* `text_of_calls`: **the answers of a run.**
-/

namespace HtmlMarkdown

namespace Document

variable {d d' : Document} {id m p : Nat} {t : Text}

/-! ## Questions -/

/-- The text that a node remembers. -/
def remembered? (d : Document) (id : Nat) : Option Text := d.slots[id]?.bind (·.snapshot)

theorem isElement_node :
    (d.node id).isElement = true ↔ ∃ tag attributes, d.data id = .element tag attributes := by
  unfold Node.isElement Node.data node
  cases d.data id <;> simp

theorem lt_size_of_isElement (h : (d.node id).isElement = true) : id < d.size := by
  by_contra hid
  have hslots : d.slots.size ≤ id := Nat.le_of_not_lt hid
  obtain ⟨tag, attributes, hdata⟩ := isElement_node.1 h
  unfold data at hdata
  rw [Array.getElem?_eq_none hslots] at hdata
  cases hdata

theorem text_of_element (h : (d.node id).isElement = true) :
    d.text id = (d.remembered? id).getD (d.currentText id) := by
  obtain ⟨tag, attributes, hdata⟩ := isElement_node.1 h
  unfold text
  rw [hdata]
  rfl

/-- Other nodes have their own characters only. -/
theorem text_of_not_element (h : (d.node id).isElement = false) : d.text id = d.ownText id := by
  unfold text ownText
  cases hdata : d.data id with
  | element tag attributes => rw [isElement_node.2 ⟨tag, attributes, hdata⟩] at h; cases h
  | text t => rfl
  | comment t => rfl

theorem ownText_of_element (h : (d.node id).isElement = true) : d.ownText id = [] := by
  obtain ⟨tag, attributes, hdata⟩ := isElement_node.1 h
  rw [ownText, hdata]

/-- Below a node stand the texts of its children, each with what is below it. -/
theorem currentText_eq (d : Document) (id : Nat) :
    d.currentText id = (d.children id).flatMap fun c => d.ownText c ++ d.currentText c := by
  unfold currentText
  rw [descendants_eq, List.flatMap_assoc]
  simp only [List.flatMap_cons]

/-- A new node remembers nothing, and the others what they did. -/
theorem remembered?_append (d : Document) (p : Nat) (data : NodeData) (id : Nat) :
    (d.append p data).remembered? id = d.remembered? id := by
  unfold remembered?
  by_cases hp : p < d.size
  · rw [append_of_lt hp, attach, Array.getElem?_push, Array.size_modify]
    split
    · rename_i hid
      rw [hid, Array.getElem?_eq_none le_rfl]
      rfl
    · rw [Array.getElem?_modify]
      split <;> cases d.slots[id]? <;> rfl
  · have hnone : d.append p data = d := dif_neg hp
    rw [hnone]

/-- A question to an element makes it remember the answer. -/
theorem remembered?_remember (d : Document) (m id : Nat) :
    (d.remember m).remembered? id =
      if m = id ∧ (d.node id).isElement = true then some (d.text id) else d.remembered? id := by
  by_cases hm : (d.node m).isElement = true
  · obtain ⟨tag, attributes, hdata⟩ := isElement_node.1 hm
    have hslots : (d.remember m).slots = keepText d.slots m (d.currentText m) := by
      unfold remember
      rw [hdata]
    have hlt : m < d.slots.size := lt_size_of_isElement hm
    unfold remembered?
    rw [hslots, keepText, Array.getElem?_modify]
    by_cases hid : m = id
    · subst hid
      rw [if_pos rfl, if_pos ⟨rfl, hm⟩, text_of_element hm, remembered?,
        Array.getElem?_eq_getElem hlt]
      cases hsnapshot : (d.slots[m]).snapshot <;> simp [hsnapshot]
    · rw [if_neg hid, if_neg fun h => hid h.1]
  · -- the other nodes remember nothing
    have hsame : d.remember m = d := by
      unfold remember
      cases hdata : d.data m with
      | element tag attributes => exact absurd (isElement_node.2 ⟨tag, attributes, hdata⟩) hm
      | text t => rfl
      | comment t => rfl
    have hnot : ¬ (m = id ∧ (d.node id).isElement = true) := by
      rintro ⟨rfl, h⟩
      exact hm h
    rw [hsame, if_neg hnot]

/-! ## Documents with the same tree -/

/-- The same nodes in the same places. -/
structure SameTree (d d' : Document) : Prop where
  size_eq : d'.size = d.size
  parent?_eq : ∀ id, d'.parent? id = d.parent? id
  data_eq : ∀ id, d'.data id = d.data id

namespace SameTree

theorem refl (d : Document) : SameTree d d := ⟨rfl, fun _ => rfl, fun _ => rfl⟩

theorem symm (h : SameTree d d') : SameTree d' d where
  size_eq := h.size_eq.symm
  parent?_eq := fun id => (h.parent?_eq id).symm
  data_eq := fun id => (h.data_eq id).symm

theorem trans {d'' : Document} (h : SameTree d d') (h' : SameTree d' d'') : SameTree d d'' where
  size_eq := h'.size_eq.trans h.size_eq
  parent?_eq := fun id => (h'.parent?_eq id).trans (h.parent?_eq id)
  data_eq := fun id => (h'.data_eq id).trans (h.data_eq id)

theorem children_eq (h : SameTree d d') (id : Nat) : d'.children id = d.children id := by
  have hsize : d'.slots.size = d.slots.size := h.size_eq
  have hparent : ∀ c, parentIn d'.slots c = parentIn d.slots c := h.parent?_eq
  unfold children
  rw [d'.isTree.children_eq id, d.isTree.children_eq id, hsize]
  simp only [hparent]

theorem descendants_eq (h : SameTree d d') : ∀ id, d'.descendants id = d.descendants id := by
  refine d.tree_induction fun id ih => ?_
  rw [d'.descendants_eq id, d.descendants_eq id, h.children_eq id]
  exact List.flatMap_congr fun c hc => by rw [ih c hc]

theorem ownText_eq (h : SameTree d d') (id : Nat) : d'.ownText id = d.ownText id := by
  unfold ownText
  rw [h.data_eq id]

theorem currentText_eq (h : SameTree d d') (id : Nat) : d'.currentText id = d.currentText id := by
  unfold currentText
  rw [h.descendants_eq id]
  exact List.flatMap_congr fun m _ => h.ownText_eq m

theorem isElement_eq (h : SameTree d d') (id : Nat) :
    (d'.node id).isElement = (d.node id).isElement := by
  have hdata : (d'.node id).data = (d.node id).data := h.data_eq id
  unfold Node.isElement
  rw [hdata]

/-- The same call on both. -/
theorem extend (h : SameTree d d') (a : Addition) : SameTree (d.extend a) (d'.extend a) := by
  rw [extend_eq, extend_eq]
  by_cases hp : a.parent < d.size
  · have hp' : a.parent < d'.size := by rw [h.size_eq]; exact hp
    refine ⟨?_, fun id => ?_, fun id => ?_⟩
    · have hsize : d'.slots.size = d.slots.size := h.size_eq
      unfold Document.size
      rw [append_of_lt hp, append_of_lt hp', size_attach, size_attach, hsize]
    · rw [parent?_append hp', parent?_append hp, h.size_eq, h.parent?_eq id]
    · rw [data_append hp', data_append hp, h.size_eq, h.data_eq id]
  · -- neither document has the node
    have hp' : ¬ a.parent < d'.size := by rw [h.size_eq]; exact hp
    have hnone : d.append a.parent a.data = d := dif_neg hp
    have hnone' : d'.append a.parent a.data = d' := dif_neg hp'
    rw [hnone, hnone']
    exact h

end SameTree

/-- **A question leaves the tree alone.** -/
theorem sameTree_remember (d : Document) (m : Nat) : SameTree d (d.remember m) := by
  unfold remember
  split
  · refine ⟨?_, fun id => parentIn_keepText d.slots m _ id, fun id => ?_⟩
    · unfold size keepText
      exact Array.size_modify
    · unfold data keepText
      rw [Array.getElem?_modify]
      split <;> cases d.slots[id]? <;> rfl
  · exact SameTree.refl d

/-! ## Steps -/

/-- A step of a run. -/
inductive Step where
  | add (a : Addition)
  | ask (id : Nat)

/-- Is it a question to this node? -/
def Step.asks (id : Nat) : Step → Bool
  | .add _ => false
  | .ask m => m == id

/-- Is it no question to another node? -/
def Step.concerns (id : Nat) : Step → Bool
  | .add _ => true
  | .ask m => m == id

/-- The document after a step. -/
def take (d : Document) : Step → Document
  | .add a => d.extend a
  | .ask id => (d.askText id).2

/-- The document after some steps. -/
def takeAll (d : Document) (steps : List Step) : Document := steps.foldl take d

/-- The answers to the questions, each with the node that was asked. -/
def answers (d : Document) : List Step → List (Nat × Text)
  | [] => []
  | .add a :: steps => (d.extend a).answers steps
  | .ask id :: steps => (id, (d.askText id).1) :: (d.askText id).2.answers steps

/-- Every question names a node that exists when it is asked. -/
def AsksNodes (d : Document) : List Step → Prop
  | [] => True
  | s :: steps => (∀ id, s.asks id = true → id < d.size) ∧ (d.take s).AsksNodes steps

variable {s : Step} {steps steps' : List Step}

theorem asks_iff : s.asks id = true ↔ s = .ask id := by
  cases s <;> simp [Step.asks]

theorem takeAll_append (d : Document) (steps steps' : List Step) :
    d.takeAll (steps ++ steps') = (d.takeAll steps).takeAll steps' := List.foldl_append

theorem asksNodes_append :
    d.AsksNodes (steps ++ steps') ↔ d.AsksNodes steps ∧ (d.takeAll steps).AsksNodes steps' := by
  induction steps generalizing d with
  | nil => simp [AsksNodes, takeAll]
  | cons s steps ih =>
    rw [List.cons_append, AsksNodes, AsksNodes, ih, and_assoc]
    rfl

/-- A node that exists keeps what it holds. -/
theorem data_take (h : id < d.size) (s : Step) :
    id < (d.take s).size ∧ (d.take s).data id = d.data id := by
  cases s with
  | ask m =>
    have hsame := sameTree_remember d m
    exact ⟨lt_of_lt_of_eq h hsame.size_eq.symm, hsame.data_eq id⟩
  | add a =>
    by_cases hp : a.parent < d.size
    · have hadded := continues_extend hp
      have hsize : (d.extend a).size = d.size + 1 := hadded.size_eq
      refine ⟨?_, (hadded.old h).2⟩
      change id < (d.extend a).size
      omega
    · have hnone : d.extend a = d := by
        rw [extend_eq]
        exact dif_neg hp
      change id < (d.extend a).size ∧ (d.extend a).data id = d.data id
      rw [hnone]
      exact ⟨h, rfl⟩

theorem data_takeAll (h : id < d.size) (steps : List Step) :
    (d.takeAll steps).data id = d.data id := by
  induction steps generalizing d with
  | nil => rfl
  | cons s steps ih =>
    obtain ⟨hlt, hdata⟩ := data_take h s
    exact (ih hlt).trans hdata

/-- Questions only: the tree stays. -/
theorem sameTree_takeAll (h : ∀ a, .add a ∉ steps) : SameTree d (d.takeAll steps) := by
  induction steps generalizing d with
  | nil => exact SameTree.refl d
  | cons s steps ih =>
    have hrest : ∀ a, .add a ∉ steps := fun a ha => h a (List.mem_cons_of_mem s ha)
    cases s with
    | add a => exact absurd List.mem_cons_self (h a)
    | ask m => exact (sameTree_remember d m).trans (ih hrest)

/-! ## The first question -/

/-- What is remembered stays, -/
theorem remembered?_take_of_some (h : d.remembered? id = some t) (s : Step) :
    (d.take s).remembered? id = some t := by
  cases s with
  | add a =>
    change (d.extend a).remembered? id = some t
    rw [extend_eq, remembered?_append, h]
  | ask m =>
    change (d.remember m).remembered? id = some t
    rw [remembered?_remember, h]
    split
    · rename_i hasked
      rw [text_of_element hasked.2, h]
      rfl
    · rfl

/-- and nothing else is remembered before the node is asked. -/
theorem remembered?_take_of_not_asks (h : s.asks id = false) :
    (d.take s).remembered? id = d.remembered? id := by
  cases s with
  | add a =>
    change (d.extend a).remembered? id = d.remembered? id
    rw [extend_eq, remembered?_append]
  | ask m =>
    have hm : ¬ (m = id ∧ (d.node id).isElement = true) := by
      rintro ⟨rfl, -⟩
      simp [Step.asks] at h
    change (d.remember m).remembered? id = d.remembered? id
    rw [remembered?_remember, if_neg hm]

theorem remembered?_takeAll_of_some (h : d.remembered? id = some t) (steps : List Step) :
    (d.takeAll steps).remembered? id = some t := by
  induction steps generalizing d with
  | nil => exact h
  | cons s steps ih => exact ih (remembered?_take_of_some h s)

/-- The steps before the first question to a node. -/
def beforeAsked (id : Nat) (steps : List Step) : List Step := steps.takeWhile (!·.asks id)

/-- The steps from the first question to a node on. -/
def sinceAsked (id : Nat) (steps : List Step) : List Step := steps.dropWhile (!·.asks id)

theorem beforeAsked_append {before after : List Step} :
    beforeAsked id (before ++ .ask id :: after) = beforeAsked id before := by
  unfold beforeAsked
  rw [List.takeWhile_append]
  split
  · rename_i hlength
    rw [(List.takeWhile_prefix _).eq_of_length hlength]
    simp [Step.asks]
  · rfl

/-- **Every answer of an element is its text at the first question.** -/
theorem text_takeAll (hnone : d.remembered? id = none) (hasks : d.AsksNodes steps)
    (helement : ((d.takeAll steps).node id).isElement = true) :
    (d.takeAll steps).text id = (d.takeAll (beforeAsked id steps)).currentText id := by
  unfold beforeAsked
  induction steps generalizing d with
  | nil =>
    rw [text_of_element helement]
    change (d.remembered? id).getD _ = _
    rw [hnone]
    rfl
  | cons s steps ih =>
    rw [List.takeWhile_cons]
    cases hs : s.asks id with
    | false =>
      have hnone' : (d.take s).remembered? id = none := by
        rw [remembered?_take_of_not_asks hs, hnone]
      exact ih hnone' hasks.2 helement
    | true =>
      -- the node is an element at the end, so it is one when it is asked
      have hlt : id < d.size := hasks.1 id hs
      have hnow : (d.node id).isElement = true := by
        rw [isElement_node] at helement ⊢
        rwa [data_takeAll hlt] at helement
      have hkept : (d.take s).remembered? id = some (d.currentText id) := by
        rw [asks_iff.1 hs]
        change (d.remember id).remembered? id = _
        rw [remembered?_remember, if_pos ⟨rfl, hnow⟩, text_of_element hnow, hnone]
        rfl
      have hend : (d.takeAll (s :: steps)).remembered? id = some (d.currentText id) :=
        remembered?_takeAll_of_some hkept steps
      rw [text_of_element helement, hend]
      rfl

/-- If nothing is appended in between, that is the text it has now. -/
theorem currentText_beforeAsked (h : ∀ a, .add a ∉ sinceAsked id steps) :
    (d.takeAll (beforeAsked id steps)).currentText id = (d.takeAll steps).currentText id := by
  have hsplit : beforeAsked id steps ++ sinceAsked id steps = steps :=
    List.takeWhile_append_dropWhile
  have hsame : SameTree (d.takeAll (beforeAsked id steps))
      ((d.takeAll (beforeAsked id steps)).takeAll (sinceAsked id steps)) := sameTree_takeAll h
  rw [← takeAll_append, hsplit] at hsame
  exact (hsame.currentText_eq id).symm

/-! ## Questions to other nodes -/

/-- No question to the node tells the documents apart, now or later. -/
structure SameFor (id : Nat) (d d' : Document) : Prop where
  tree : SameTree d d'
  remembered?_eq : d'.remembered? id = d.remembered? id

namespace SameFor

theorem refl (d : Document) : SameFor id d d := ⟨SameTree.refl d, rfl⟩

theorem text_eq (h : SameFor id d d') : d'.text id = d.text id := by
  cases helement : (d.node id).isElement with
  | true =>
    have helement' : (d'.node id).isElement = true := by rw [h.tree.isElement_eq, helement]
    rw [text_of_element helement, text_of_element helement', h.remembered?_eq,
      h.tree.currentText_eq]
  | false =>
    have helement' : (d'.node id).isElement = false := by rw [h.tree.isElement_eq, helement]
    rw [text_of_not_element helement, text_of_not_element helement', h.tree.ownText_eq]

/-- The same step on both. -/
theorem take (h : SameFor id d d') (s : Step) : SameFor id (d.take s) (d'.take s) := by
  cases s with
  | add a =>
    refine ⟨h.tree.extend a, ?_⟩
    change (d'.extend a).remembered? id = (d.extend a).remembered? id
    rw [extend_eq, extend_eq, remembered?_append, remembered?_append, h.remembered?_eq]
  | ask m =>
    have hback : SameTree (d.remember m) d := (sameTree_remember d m).symm
    refine ⟨(hback.trans h.tree).trans (sameTree_remember d' m), ?_⟩
    change (d'.remember m).remembered? id = (d.remember m).remembered? id
    rw [remembered?_remember, remembered?_remember, h.tree.isElement_eq, h.text_eq,
      h.remembered?_eq]

/-- A question to another node, on one of them. -/
theorem ask (h : SameFor id d d') (hm : m ≠ id) : SameFor id d (d'.remember m) := by
  have hnot : ¬ (m = id ∧ (d'.node id).isElement = true) := fun hasked => hm hasked.1
  refine ⟨h.tree.trans (sameTree_remember d' m), ?_⟩
  rw [remembered?_remember, if_neg hnot, h.remembered?_eq]

end SameFor

/-- The answers of one node. -/
def answersOf (d : Document) (id : Nat) (steps : List Step) : List (Nat × Text) :=
  (d.answers steps).filter (·.1 == id)

theorem answersOf_ask (d : Document) (id m : Nat) (steps : List Step) :
    d.answersOf id (.ask m :: steps) =
      if m = id then (id, d.text id) :: (d.remember m).answersOf id steps
      else (d.remember m).answersOf id steps := by
  unfold answersOf
  rw [answers, List.filter_cons]
  simp only [beq_iff_eq]
  split
  · rename_i hm
    rw [hm]
    rfl
  · rfl

/-- **A node answers the same whatever other nodes are asked.** -/
theorem answersOf_filter (h : SameFor id d d') (steps : List Step) :
    d'.answersOf id steps = d.answersOf id (steps.filter (·.concerns id)) := by
  induction steps generalizing d d' with
  | nil => rfl
  | cons s steps ih =>
    cases s with
    | add a =>
      have hrest := ih (h.take (.add a))
      rw [List.filter_cons_of_pos rfl]
      exact hrest
    | ask m =>
      by_cases hm : m = id
      · subst hm
        have hself : (Step.ask m).concerns m = true := beq_self_eq_true m
        have hrest := ih (h.take (.ask m))
        rw [List.filter_cons_of_pos hself, answersOf_ask, answersOf_ask,
          if_pos rfl, if_pos rfl, h.text_eq]
        exact congrArg _ hrest
      · have hother : ¬ (Step.ask m).concerns id = true := by simpa [Step.concerns] using hm
        rw [List.filter_cons_of_neg hother, answersOf_ask, if_neg hm]
        exact ih (h.ask hm)

/-! ## Runs -/

/-- A call that appends a node, or asks for the text of a node or for the title. -/
inductive Call where
  | add (a : Addition)
  | text (id : Nat)
  | title

/-- The node that a call names. -/
def Call.node? : Call → Option Nat
  | .add a => some a.parent
  | .text id => some id
  | .title => none

/-- The document after a call. -/
def call (d : Document) : Call → Document
  | .add a => d.extend a
  | .text id => (d.askText id).2
  | .title => d.askTitle.2

/-- The document after some calls. -/
def callAll (d : Document) (calls : List Call) : Document := calls.foldl call d

/-- Every call names a node that exists when the call is made. -/
def Admits (d : Document) : List Call → Prop
  | [] => True
  | c :: calls => (∀ id ∈ c.node?, id < d.size) ∧ (d.call c).Admits calls

/-- The `title` elements that a question for the title asks: those up to the first that is not
blank. -/
def titlesAsked (d : Document) : List Node :=
  let titles := d.elementsByTag "title"
  titles.take ((titles.takeWhile fun n => (Text.trim n.text).isEmpty).length + 1)

/-- The steps of a call. -/
def stepsOf (d : Document) : Call → List Step
  | .add a => [.add a]
  | .text id => [.ask id]
  | .title => (d.titlesAsked.map (·.id)).map .ask

/-- The steps of a run. -/
def stepsOfAll (d : Document) : List Call → List Step
  | [] => []
  | c :: calls => d.stepsOf c ++ (d.call c).stepsOfAll calls

variable {c : Call} {calls : List Call}

/-- The calls do what their steps do. -/
theorem call_eq (d : Document) (c : Call) : d.call c = d.takeAll (d.stepsOf c) := by
  cases c with
  | add a => rfl
  | text id => rfl
  | title =>
    unfold takeAll stepsOf
    rw [List.foldl_map]
    rfl

theorem callAll_eq (d : Document) (calls : List Call) :
    d.callAll calls = d.takeAll (d.stepsOfAll calls) := by
  induction calls generalizing d with
  | nil => rfl
  | cons c calls ih =>
    rw [stepsOfAll, takeAll_append, ← call_eq]
    exact ih (d.call c)

/-! ### The title -/

/-- A node gives an answer once more. -/
theorem text_remember (d : Document) (m id : Nat) : (d.remember m).text id = d.text id := by
  by_cases hm : m = id
  · subst hm
    have hsame := sameTree_remember d m
    cases helement : (d.node m).isElement with
    | true =>
      have helement' : ((d.remember m).node m).isElement = true := by
        rw [hsame.isElement_eq, helement]
      rw [text_of_element helement', remembered?_remember, if_pos ⟨rfl, helement⟩]
      rfl
    | false =>
      have helement' : ((d.remember m).node m).isElement = false := by
        rw [hsame.isElement_eq, helement]
      rw [text_of_not_element helement', text_of_not_element helement, hsame.ownText_eq]
  · exact ((SameFor.refl d).ask hm).text_eq

/-- Questions in a row are answered from the document as it is. -/
theorem answers_asks (d : Document) (ids : List Nat) :
    d.answers (ids.map .ask) = ids.map fun id => (id, d.text id) := by
  induction ids generalizing d with
  | nil => rfl
  | cons id ids ih =>
    rw [List.map_cons, answers, List.map_cons]
    change (id, d.text id) :: (d.remember id).answers _ = _
    rw [ih]
    simp only [text_remember]

/-- One more than what does not have the property is enough to find the first that has it. -/
theorem find?_take_takeWhile {α : Type} (p : α → Bool) (l : List α) :
    (l.take ((l.takeWhile p).length + 1)).find? (!p ·) = l.find? (!p ·) := by
  induction l with
  | nil => rfl
  | cons a l ih =>
    rw [List.takeWhile_cons]
    cases ha : p a with
    | true => simpa [ha] using ih
    | false => simp [ha]

theorem mem_elements {n : Node} (h : n ∈ d.elements) : n.doc = d ∧ n.isElement = true := by
  unfold elements at h
  split at h
  · cases h
  · obtain ⟨hmem, helement⟩ := List.mem_filter.1 h
    refine ⟨?_, helement⟩
    rcases List.mem_cons.1 hmem with rfl | hbelow
    · rfl
    · obtain ⟨m, -, rfl⟩ := List.mem_map.1 hbelow
      rfl

theorem mem_titlesAsked {n : Node} (h : n ∈ d.titlesAsked) : n.doc = d ∧ n.id < d.size := by
  have hn : n ∈ d.elements := List.mem_of_mem_filter (List.mem_of_mem_take h)
  obtain ⟨rfl, helement⟩ := mem_elements hn
  exact ⟨rfl, lt_size_of_isElement helement⟩

/-- **The title** is the first answer to its questions that is not blank. -/
theorem askTitle_eq (d : Document) :
    d.askTitle.1 =
      ((d.answers (d.stepsOf .title)).map fun a => Text.trim a.2).find? (!·.isEmpty) := by
  have hanswers : (d.answers (d.stepsOf .title)).map (fun a => Text.trim a.2) =
      d.titlesAsked.map fun n => Text.trim n.text := by
    rw [stepsOf, answers_asks, List.map_map, List.map_map]
    refine List.map_congr_left fun n hn => ?_
    unfold Node.text
    rw [(mem_titlesAsked hn).1]
    rfl
  have hfirst := find?_take_takeWhile (fun n => (Text.trim n.text).isEmpty)
    (d.elementsByTag "title")
  rw [hanswers, List.find?_map]
  change d.title? = _
  unfold title?
  rw [List.find?_map]
  exact congrArg _ hfirst.symm

/-! ### The answers -/

theorem asksNodes_asks {ids : List Nat} (h : ∀ id ∈ ids, id < d.size) :
    d.AsksNodes (ids.map .ask) := by
  induction ids generalizing d with
  | nil => trivial
  | cons id ids ih =>
    refine ⟨fun m hm => ?_, ih fun m hm => ?_⟩
    · obtain rfl : id = m := by simpa [Step.asks] using hm
      exact h id List.mem_cons_self
    · exact (data_take (h m (List.mem_cons_of_mem id hm)) _).1

theorem asksNodes_stepsOf (h : ∀ id ∈ c.node?, id < d.size) : d.AsksNodes (d.stepsOf c) := by
  cases c with
  | add a => exact ⟨fun m hm => by simp [Step.asks] at hm, trivial⟩
  | text id =>
    have hids : ∀ m ∈ [id], m < d.size := by simpa [Call.node?] using h
    exact asksNodes_asks hids
  | title =>
    refine asksNodes_asks fun id hid => ?_
    obtain ⟨n, hn, rfl⟩ := List.mem_map.1 hid
    exact (mem_titlesAsked hn).2

theorem asksNodes_stepsOfAll (h : d.Admits calls) : d.AsksNodes (d.stepsOfAll calls) := by
  induction calls generalizing d with
  | nil => trivial
  | cons c calls ih =>
    refine asksNodes_append.2 ⟨asksNodes_stepsOf h.1, ?_⟩
    rw [← call_eq]
    exact ih h.2

/-- Nothing is remembered at the start. -/
theorem remembered?_document (o : Origin) (id : Nat) : o.document.remembered? id = none := by
  have hnew : ∀ tag attributes, (Document.new tag attributes).remembered? id = none := by
    intro tag attributes
    unfold remembered? new
    cases id <;> rfl
  cases o with
  | root tag attributes => exact hnew tag attributes
  | plainText value =>
    let body : Document := (new "html" []).append rootId (.ofTag "body" [])
    change (body.append 1 (.text value)).remembered? id = none
    rw [remembered?_append, remembered?_append]
    exact hnew "html" []

theorem stepsOfAll_append (d : Document) (calls calls' : List Call) :
    d.stepsOfAll (calls ++ calls') = d.stepsOfAll calls ++ (d.callAll calls).stepsOfAll calls' := by
  induction calls generalizing d with
  | nil => rfl
  | cons c calls ih =>
    rw [List.cons_append, stepsOfAll, stepsOfAll, ih, List.append_assoc]
    rfl

/-- **The answers of a run.** The text of an element is, at every question, the one that it had at
the first question to it, also where the title was asked for. What other nodes are asked makes no
difference to a node; a question for the title counts as the questions to `title` elements that it
comes to. -/
theorem text_of_calls (o : Origin) (calls : List Call) (h : o.document.Admits calls) :
    let d := o.document
    let steps := d.stepsOfAll calls
    -- the run is that of its steps, and a title is found among the answers to its questions
    d.callAll calls = d.takeAll steps ∧
    (∀ before after, calls = before ++ .title :: after →
      let e := d.callAll before
      e.askTitle.1 =
        ((e.answers (e.stepsOf .title)).map fun a => Text.trim a.2).find? (!·.isEmpty)) ∧
    -- a question to an element is answered with the text at the first question to it; where
    -- nothing was appended since then, this is the text that the element has
    (∀ before id after, steps = before ++ .ask id :: after →
      let e := d.takeAll before
      ((e.node id).isElement = true →
        e.text id = (d.takeAll (beforeAsked id steps)).currentText id ∧
        ((∀ a, .add a ∉ sinceAsked id before) → e.text id = e.currentText id)) ∧
      ((e.node id).isElement = false → e.text id = e.ownText id)) ∧
    -- a node gives the same answers in every run with the same additions and questions to it
    ∀ calls' id,
      (d.stepsOfAll calls').filter (·.concerns id) = steps.filter (·.concerns id) →
      d.answersOf id (d.stepsOfAll calls') = d.answersOf id steps := by
  intro d steps
  refine ⟨callAll_eq d calls, fun before _ _ => askTitle_eq _, ?_, ?_⟩
  · intro before id after hsplit e
    refine ⟨fun helement => ?_, text_of_not_element⟩
    have hasks : d.AsksNodes before := by
      have hall : d.AsksNodes steps := asksNodes_stepsOfAll h
      rw [hsplit] at hall
      exact (asksNodes_append.1 hall).1
    have hfirst : e.text id = (d.takeAll (beforeAsked id before)).currentText id :=
      text_takeAll (remembered?_document o id) hasks helement
    rw [hsplit, beforeAsked_append]
    exact ⟨hfirst, fun hnone => hfirst.trans (currentText_beforeAsked hnone)⟩
  · intro calls' id hsame
    rw [answersOf_filter (SameFor.refl d), answersOf_filter (SameFor.refl d) steps, hsame]

/-- The title is asked for before a second text is put below it. -/
theorem text_of_calls_title :
    let o := Origin.root "html" []
    let added := [.add (.element 0 "title" []), .add (.text 1 "a".toList), .title,
      .add (.text 1 "b".toList)]
    let e := o.document.callAll added
    o.document.Admits (added ++ [.text 1]) ∧ e.text 1 = "a".toList ∧
      e.currentText 1 = "ab".toList := by
  intro o added e
  have hcalls : o.document.Admits (added ++ [.text 1]) :=
    ⟨by decide, by decide, by decide, by decide +kernel, by decide +kernel, trivial⟩
  -- the title comes to one question
  have htitle : (o.document.callAll (added.take 2)).stepsOf .title = [.ask 1] := by
    have hids : (o.document.callAll (added.take 2)).titlesAsked.map (·.id) = [1] := by
      decide +kernel
    rw [stepsOf, hids]
    rfl
  have hadded : o.document.stepsOfAll added = [.add (.element 0 "title" []),
      .add (.text 1 "a".toList), .ask 1, .add (.text 1 "b".toList)] := by
    change _ ++ (_ ++ ((o.document.callAll (added.take 2)).stepsOf .title ++ _)) = _
    rw [htitle]
    rfl
  have hsplit := stepsOfAll_append o.document added [.text 1]
  obtain ⟨-, -, hanswers, -⟩ := text_of_calls o (added ++ [.text 1]) hcalls
  have hanswer := ((hanswers _ 1 _ hsplit).1 (by rw [hadded]; decide)).1
  refine ⟨hcalls, ?_, by decide +kernel⟩
  rw [hsplit, ← callAll_eq, hadded] at hanswer
  rw [hanswer]
  decide

end Document

end HtmlMarkdown
