import HtmlMarkdown.Proofs.Convert.PlainLayout
import HtmlMarkdown.Proofs.Document.Relatives
import HtmlMarkdown.Proofs.Markdown.Escaped
import HtmlMarkdown.Proofs.Markdown.Gaps

/-!
# The lines of nested lists

Each level of a list indents what is rendered already, so the lines of an item move to the right
with every item above it. In a tree of lists (`IsList`, `IsItem`) nothing else happens to them: an
item has one line of its own, and behind it come those of the lists in it.

* `readNat?_eq_some_iff`, `StartsAt`: the number that a list starts at.
* `Marked`: the marker of an item, by its place among the items of its list.
* `item_lines`, `list_lines`: an item or a list in terms of the items and the lists in it.
* `convert_list_lines`: **the filled lines of a tree of lists are its items**, one line for each.
-/

namespace HtmlMarkdown

namespace Text

/-- The text writes the number: in ASCII digits, with a plus sign before them or not. -/
def Numeral (t : Text) (n : Nat) : Prop :=
  ∃ digits : Text, (t = digits ∨ t = '+' :: digits) ∧ digits ≠ [] ∧
    (∀ c ∈ digits, c.isDigit = true) ∧ digitsValue digits = n

/-- **The numbers that are read** are the ones that are written, below the bound. -/
theorem readNat?_eq_some_iff {bound n : Nat} {t : Text} :
    readNat? bound t = some n ↔ Numeral t n ∧ n < bound := by
  have hdigits : ∀ digits : Text,
      (if digits.isEmpty || !digits.all Char.isDigit then none
        else if digitsValue digits < bound then some (digitsValue digits) else none) = some n ↔
        digits ≠ [] ∧ (∀ c ∈ digits, c.isDigit = true) ∧ digitsValue digits = n ∧ n < bound := by
    intro digits
    split
    · rename_i h
      rw [Bool.or_eq_true, Bool.not_eq_true', List.isEmpty_iff] at h
      refine iff_of_false (fun e => by cases e) ?_
      rintro ⟨hne, hall, -, -⟩
      rcases h with h | h
      · exact hne h
      · rw [List.all_eq_true.2 hall] at h
        cases h
    · rename_i h
      rw [Bool.or_eq_true, Bool.not_eq_true', List.isEmpty_iff, not_or, Bool.not_eq_false,
        List.all_eq_true] at h
      constructor
      · intro he
        split at he
        · rename_i hlt
          cases he
          exact ⟨h.1, h.2, rfl, hlt⟩
        · cases he
      · rintro ⟨-, -, rfl, hlt⟩
        rw [if_pos hlt]
  have hplus : ('+' : Char).isDigit = false := by decide
  unfold readNat?
  split
  · rename_i rest
    simp only
    rw [hdigits]
    constructor
    · rintro ⟨hne, hall, hvalue, hlt⟩
      exact ⟨⟨rest, Or.inr rfl, hne, hall, hvalue⟩, hlt⟩
    · rintro ⟨⟨digits, h | h, hne, hall, hvalue⟩, hlt⟩
      · -- a plus sign is no digit
        rw [← h] at hall
        have hsign := hall '+' List.mem_cons_self
        rw [hplus] at hsign
        cases hsign
      · cases h
        exact ⟨hne, hall, hvalue, hlt⟩
  · rename_i hno
    simp only
    rw [hdigits]
    constructor
    · rintro ⟨hne, hall, hvalue, hlt⟩
      exact ⟨⟨t, Or.inl rfl, hne, hall, hvalue⟩, hlt⟩
    · rintro ⟨⟨digits, h | h, hne, hall, hvalue⟩, hlt⟩
      · rw [h]
        exact ⟨hne, hall, hvalue, hlt⟩
      · exact absurd h (hno digits)

end Text

namespace Convert

open Markdown Text

/-! ## Trees of lists -/

mutual

/-- A list of items. -/
inductive IsList : Node → Prop where
  | mk {n : Node} : n.tag ∈ ["ul", "ol"] → (∀ item ∈ n.children, IsItem item) → IsList n

/-- An item: a text that is not blank, and lists behind it. -/
inductive IsItem : Node → Prop where
  | mk {n leaf : Node} {lists : List Node} {t : Text} : n.tag = "li" →
    n.children = leaf :: lists → leaf.data = .text t → isBlankText t = false →
    leaf.children = [] → (∀ list ∈ lists, IsList list) → IsItem n

end

/-- The items below the node, in document order. -/
def items (n : Node) : List Node := n.descendants.filter (·.tag == "li")

/-- **The number that a list starts at**: the one that its start attribute writes, if it fits into a
word of 64 bits, and 1 otherwise. -/
def StartsAt (list : Node) (start : Nat) : Prop :=
  (∃ v, list.attr? "start" = some v ∧ Numeral (trim v) start ∧ start < UInt64.size) ∨
    (start = 1 ∧ ∀ v, list.attr? "start" = some v → ∀ k, Numeral (trim v) k → UInt64.size ≤ k)

/-- **The marker of an item**: a bullet, or in an ordered list the number of its place, counted from
the start of the list up to the largest word. -/
inductive Marked : Node → Text → Prop where
  | bullet {list item : Node} : item ∈ list.children → list.tag = "ul" → Marked item ['-']
  | number {list item : Node} {before after : List Node} {start : Nat} :
    list.children = before ++ item :: after → list.tag = "ol" → StartsAt list start →
    Marked item (ofNat (min (start + before.length) (UInt64.size - 1)) ++ ['.'])

/-- **The line of an item**: indented, with its marker and its text on one line, escaped. -/
def ItemLine (indentation : Nat) (item : Node) (line : Text) : Prop :=
  ∃ marker leaf lists t, Marked item marker ∧ item.children = leaf :: lists ∧
    leaf.data = .text t ∧
    line = List.replicate indentation ' ' ++ marker ++ ' ' :: escape (trim (collapse t))

/-- The lines of some items, each indented by the items that are above it but not above a place. -/
def Shown (base : Nat) (nodes : List Node) (lines : List Text) : Prop :=
  List.Forall₂ (fun item line => ∃ k, item.depthIn "li" = base + k ∧ ItemLine (4 * k) item line)
    nodes lines

variable {n p c item list : Node} {t r : Text} {rs : List Text} {levels base : Nat}

/-! ### One level at a time -/

theorem IsList.isOpen (h : IsList n) : n.IsOpen := by
  cases h with
  | mk htag _ =>
    simp only [List.mem_cons, List.not_mem_nil, or_false] at htag
    rcases htag with htag | htag
    · exact ⟨Node.isElement_of_tag htag (by decide), by rw [htag]; decide⟩
    · exact ⟨Node.isElement_of_tag htag (by decide), by rw [htag]; decide⟩

theorem IsItem.tag (h : IsItem n) : n.tag = "li" := by
  cases h with
  | mk htag => exact htag

theorem IsItem.isOpen (h : IsItem n) : n.IsOpen :=
  ⟨Node.isElement_of_tag h.tag (by decide), by rw [h.tag]; decide⟩

theorem IsList.depthIn_child (h : IsList n) (hc : c ∈ n.children) :
    c.depthIn "li" = n.depthIn "li" := by
  cases h with
  | mk htag _ =>
    have hne : n.tag ≠ "li" := by
      intro e
      rw [e] at htag
      revert htag
      decide
    rw [Node.depthIn_child hc, if_neg hne, Nat.add_zero]

/-- **The items below a list**: each of its own, and behind it the ones below that. -/
theorem IsList.items_eq (h : IsList n) :
    items n = n.children.flatMap fun item => item :: items item := by
  cases h with
  | mk _ hitems =>
    unfold items
    rw [Node.descendants_eq, List.filter_flatMap]
    apply List.flatMap_congr
    intro item hmem
    rw [List.filter_cons_of_pos (by rw [(hitems item hmem).tag]; rfl)]

/-- **The items below an item** are those of the lists in it. -/
theorem items_of_lists {leaf : Node} {lists : List Node} (hchildren : n.children = leaf :: lists)
    (hleaf : leaf.data = .text t) (hnone : leaf.children = []) (hlists : ∀ l ∈ lists, IsList l) :
    items n = lists.flatMap items := by
  have hempty : leaf.descendants = [] := by
    rw [Node.descendants_eq, hnone, List.flatMap_nil]
  have htag : leaf.tag = "" := by rw [Node.tag, hleaf]
  have hlist : ∀ l ∈ lists, (l :: l.descendants).filter (·.tag == "li") = items l := by
    intro l hl
    cases hlists l hl with
    | mk htags _ =>
      rw [List.filter_cons_of_neg]
      · rfl
      · intro e
        rw [eq_of_beq e] at htags
        revert htags
        decide
  unfold items
  rw [Node.descendants_eq, hchildren, List.flatMap_cons, hempty, List.filter_append,
    List.filter_cons_of_neg (by rw [htag]; decide), List.filter_nil, List.nil_append,
    List.filter_flatMap]
  exact List.flatMap_congr hlist

/-! ## Markers -/

theorem exists_startsAt (list : Node) :
    ∃ start, StartsAt list start ∧ start =
      ((list.attr? "start").bind fun s => readNat? UInt64.size (trim s)).getD 1 := by
  cases hv : (list.attr? "start").bind fun s => readNat? UInt64.size (trim s) with
  | some start =>
    obtain ⟨v, hattr, hread⟩ := Option.bind_eq_some_iff.1 hv
    rw [readNat?_eq_some_iff] at hread
    exact ⟨start, Or.inl ⟨v, hattr, hread.1, hread.2⟩, rfl⟩
  | none =>
    refine ⟨1, Or.inr ⟨rfl, fun v hattr k hk => ?_⟩, rfl⟩
    by_contra hlt
    rw [hattr, Option.bind_some, (readNat?_eq_some_iff (n := k)).2 ⟨hk, by omega⟩] at hv
    cases hv

/-- **The marker that is written is the marker of the item.** -/
theorem marked_itemMarker (hlist : IsList list) (hitem : item ∈ list.children) :
    Marked item (Rule.General.itemMarker item {}) := by
  have hmax : Rule.General.maxNumber = UInt64.size - 1 := rfl
  have hparent := Node.parent?_child hitem
  cases hlist with
  | mk htag hitems =>
    unfold Rule.General.itemMarker
    rw [hparent]
    by_cases hol : list.tag = "ol"
    · obtain ⟨before, after, hsplit⟩ := List.append_of_mem hitem
      obtain ⟨start, hstart, hread⟩ := exists_startsAt list
      -- all of the children are elements, so the place among these is the place in the list
      have hall : before.filter Node.isElement = before := by
        refine List.filter_eq_self.2 fun c hc => ?_
        exact (hitems c (by rw [hsplit]; simp [hc])).isOpen.1
      have hindex := Node.elementIndex_eq hsplit (hitems item hitem).isOpen.1
      rw [hall] at hindex
      have hnumber := Marked.number hsplit hol hstart
      rw [← hmax, hread] at hnumber
      simpa [Option.filter, hol, hindex] using hnumber
    · have hul : list.tag = "ul" := by
        simp only [List.mem_cons, List.not_mem_nil, or_false] at htag
        exact htag.resolve_right hol
      have hbullet := Marked.bullet hitem hul
      simpa [Option.filter, hol] using hbullet

theorem digit_visible {c : Char} (h : c.isDigit = true) : isBlank c = false ∧ c ≠ '\n' := by
  have hfeed : c ≠ '\n' := by
    rintro rfl
    cases h
  have hrange : 48 ≤ c.toNat ∧ c.toNat ≤ 57 := by
    simpa [Char.isDigit, UInt32.le_iff_toNat_le] using h
  refine ⟨?_, hfeed⟩
  unfold isBlank
  simp
  omega

/-- A marker starts visibly and is a part of a line. -/
theorem Marked.edges {marker : Text} (h : Marked n marker) :
    startsVisible marker = true ∧ '\n' ∉ marker := by
  have hdigits : ∀ k : Nat,
      startsVisible (ofNat k ++ ['.']) = true ∧ '\n' ∉ ofNat k ++ ['.'] := by
    intro k
    have hdigit : ∀ c ∈ ofNat k, isBlank c = false ∧ c ≠ '\n' :=
      fun c hc => digit_visible (Nat.isDigit_of_mem_toDigits (by decide) (by decide) hc)
    refine ⟨?_, fun hmem => ?_⟩
    · cases hk : ofNat k with
      | nil => exact absurd hk Nat.toDigits_ne_nil
      | cons d ds => simp [(hdigit d (by rw [hk]; exact List.mem_cons_self)).1]
    · rcases List.mem_append.1 hmem with hmem | hmem
      · exact (hdigit _ hmem).2 rfl
      · cases List.mem_singleton.1 hmem
  cases h with
  | bullet => exact ⟨by decide, by decide⟩
  | number => exact hdigits _

/-! ## Lines -/

/-- What an item leaves behind: lines of its own, the first of them with its marker. -/
structure ItemOut (n : Node) (r : Text) : Prop where
  lines : Shown (n.depthIn "li") (n :: items n) (filled r)
  starts : ∀ l, (filled r).head? = some l → startsVisible l = true
  visible : ∀ l ∈ filled r, endsVisible l = true
  last : Ends r

/-- What a list leaves behind: the lines of its items, if it has any. -/
structure ListOut (n : Node) (r : Text) : Prop where
  lines : Shown (n.depthIn "li") (items n) (filled r)
  visible : ∀ l ∈ filled r, endsVisible l = true
  opens : Opens r
  last : Ends r

theorem filled_flatten (h : ∀ r ∈ rs, Ends r) : filled rs.flatten = rs.flatMap filled := by
  induction rs with
  | nil => rfl
  | cons r rs ih =>
    rw [List.flatten_cons, filled_append_of_ends (h r List.mem_cons_self), List.flatMap_cons,
      ih fun r' hr' => h r' (List.mem_cons_of_mem _ hr')]

/-- The lines of a row are those of its nodes, one behind the other. -/
theorem shown_flatMap {nodes : List Node} {f : Node → List Node}
    (h : List.Forall₂ (fun c r => Shown base (f c) (filled r)) nodes rs) :
    Shown base (nodes.flatMap f) (rs.flatMap filled) := by
  induction h with
  | nil => exact List.Forall₂.nil
  | cons hc _ ih => exact List.rel_append hc ih

/-- **Indenting the lines brings them below a further item.** -/
theorem shown_indent {nodes : List Node} {lines : List Text} (h : Shown (base + 1) nodes lines) :
    Shown base nodes (lines.map (indent ++ ·)) := by
  unfold Shown
  rw [List.forall₂_map_right_iff]
  refine h.imp ?_
  rintro item line ⟨k, hlevel, marker, leaf, lists, t, hmark, hchildren, hleaf, rfl⟩
  refine ⟨k + 1, by omega, marker, leaf, lists, t, hmark, hchildren, hleaf, ?_⟩
  have hindent : indent = List.replicate 4 ' ' := rfl
  rw [hindent, ← List.append_assoc, ← List.append_assoc, ← List.replicate_add]
  congr 3
  omega

theorem opens_flatten (h : ∀ r ∈ rs, Opens r) : Opens rs.flatten := by
  induction rs with
  | nil => exact Or.inl rfl
  | cons r rs ih =>
    rw [List.flatten_cons]
    rcases h r List.mem_cons_self with rfl | ⟨u, rfl⟩
    · exact ih fun r' hr' => h r' (List.mem_cons_of_mem _ hr')
    · exact Or.inr ⟨u ++ rs.flatten, rfl⟩

/-- The line of an item stays behind its marker, and the lines of its lists are indented. -/
theorem filled_item {marker own : Text} (hmarker : startsVisible marker = true)
    (hfeed : '\n' ∉ marker) (hline : '\n' ∉ own) (hs : startsVisible own = true)
    (hends : ∀ l ∈ own :: rs.flatMap filled, endsVisible l = true)
    (hopens : ∀ r ∈ rs, Opens r) (hlast : ∀ r ∈ rs, Ends r) :
    filled (marker ++ " " ++ itemBody (own ++ rs.flatten) ++ "\n") =
      (marker ++ " " ++ own) :: (rs.flatMap filled).map (indent ++ ·) := by
  have hcontent : filled (own ++ rs.flatten) = own :: rs.flatMap filled := by
    have hfilled : isBlankText own = false := isFilled_iff.1 (isFilled_of_starts hs)
    rw [filled_append_of_opens (opens_flatten hopens), filled_line hline, hfilled,
      filled_flatten hlast]
    rfl
  obtain ⟨ls, hlines, hrest⟩ := itemBody_lines hcontent hs hends
  have hfeed' : '\n' ∉ marker ++ " ".toList := by
    rw [List.mem_append, not_or]
    exact ⟨hfeed, by decide⟩
  have hfirst : isFilled (marker ++ " " ++ own) = true := by
    refine isFilled_of_starts ?_
    rw [List.append_assoc, startsVisible_append (ne_nil_of_starts hmarker), hmarker]
  refine (filled_concat_feed _).trans ?_
  change (linesOf _).filter isFilled = _
  rw [linesOf_append_line hfeed', hlines, List.modifyHead_cons, List.filter_cons_of_pos hfirst,
    hrest]

/-- **An item** has a line of its own, and behind it the lines of its lists, indented. -/
theorem itemOut_of_lists {marker : Text} {leaf : Node} {lists : List Node}
    (hmark : Marked n marker) (hchildren : n.children = leaf :: lists)
    (hleaf : leaf.data = .text t) (hvisible : isBlankText t = false) (hnone : leaf.children = [])
    (hlists : ∀ l ∈ lists, IsList l)
    (hrs : List.Forall₂ (fun l r => Shown (n.depthIn "li" + 1) (items l) (filled r)) lists rs)
    (hends : ∀ r ∈ rs, ∀ l ∈ filled r, endsVisible l = true)
    (hopens : ∀ r ∈ rs, Opens r) (hlast : ∀ r ∈ rs, Ends r) :
    ItemOut n (marker ++ " " ++ itemBody (escape (trim (collapse t)) ++ rs.flatten) ++ "\n") := by
  obtain ⟨hmarker, hfeed⟩ := hmark.edges
  obtain ⟨hline, hs, he⟩ := escape_line hvisible
  have hall : ∀ l ∈ escape (trim (collapse t)) :: rs.flatMap filled, endsVisible l = true := by
    intro l hl
    rcases List.mem_cons.1 hl with rfl | hl
    · exact he
    · obtain ⟨r, hr, hl⟩ := List.mem_flatMap.1 hl
      exact hends r hr l hl
  have hout := filled_item hmarker hfeed hline hs hall hopens hlast
  refine ⟨?_, fun l hl => ?_, fun l hl => ?_, Or.inr ⟨_, rfl⟩⟩
  · rw [hout, items_of_lists hchildren hleaf hnone hlists]
    refine List.Forall₂.cons ⟨0, rfl, marker, leaf, lists, t, hmark, hchildren, hleaf, ?_⟩
      (shown_indent (shown_flatMap hrs))
    simp
  · rw [hout] at hl
    cases hl
    rw [List.append_assoc, startsVisible_append (ne_nil_of_starts hmarker), hmarker]
  · -- neither the marker nor the indentation is at the end of a line
    rw [hout] at hl
    rcases List.mem_cons.1 hl with rfl | hl
    · rw [endsVisible_append _ (ne_nil_of_ends he), he]
    · obtain ⟨l', hl', rfl⟩ := List.mem_map.1 hl
      have hend := hall l' (List.mem_cons_of_mem _ hl')
      rw [endsVisible_append _ (ne_nil_of_ends hend), hend]

/-- The first of the lines of some items is that of the first item. -/
theorem starts_of_items {nodes : List Node} (hrs : List.Forall₂ ItemOut nodes rs) :
    ∀ l, (rs.flatMap filled).head? = some l → startsVisible l = true := by
  cases hrs with
  | nil => intro l hl; cases hl
  | @cons c r cs rs hc _ =>
    intro l hl
    have hne : filled r ≠ [] := by
      intro hnil
      have hlines := hc.lines
      rw [hnil] at hlines
      cases hlines
    rw [List.flatMap_cons, List.head?_append_of_ne_nil _ hne] at hl
    exact hc.starts l hl

/-- **A list** has the lines of its items. -/
theorem listOut_of_items (hn : IsList n) (hrs : List.Forall₂ ItemOut n.children rs) :
    ListOut n (separated rs.flatten) := by
  have hfilled : filled rs.flatten = rs.flatMap filled :=
    filled_flatten (forall₂_right (fun _ _ hc => hc.last) hrs)
  have hlines : Shown (n.depthIn "li") (items n) (rs.flatMap filled) := by
    rw [hn.items_eq]
    refine shown_flatMap (forall₂_imp_mem (fun c hc r hr => ?_) hrs)
    rw [← hn.depthIn_child hc]
    exact hr.lines
  have hvisible : ∀ l ∈ rs.flatMap filled, endsVisible l = true := by
    intro l hl
    obtain ⟨r, hr, hl⟩ := List.mem_flatMap.1 hl
    exact forall₂_right (fun _ _ hc => hc.visible) hrs r hr l hl
  have hstarts := starts_of_items hrs
  have hsame : filled (separated rs.flatten) = rs.flatMap filled := by
    rw [filled_separated, hfilled]
    · rwa [hfilled]
    · rwa [hfilled]
  exact ⟨by rwa [hsame], by rwa [hsame], opens_separated _, ends_separated _⟩

/-! ## Trees -/

theorem finish_list {tag : String} (h : tag ∈ ["ul", "ol"]) (n : Node) (content : Text) :
    Setup.plain.finish (Setup.plain.ruleFor tag) n content = separated content := by
  rw [Setup.ruleFor_plain, Rule.General.find?_list tag h]
  rfl

theorem finish_item (n : Node) (content : Text) :
    Setup.plain.finish (Setup.plain.ruleFor "li") n content =
      Rule.General.itemMarker n {} ++ " " ++ itemBody content ++ "\n" := by
  rw [Setup.ruleFor_plain, Rule.General.find?_listItem]
  rfl

/-- No list and no item is inline. -/
theorem isInline_of_list (h : n.tag ∈ ["ul", "ol", "li"]) : isInline n = false := by
  have hall : ∀ tag ∈ ["ul", "ol", "li"], Tag.isInline tag = false := by decide
  unfold isInline
  rw [hall _ h, Bool.and_false]

theorem IsList.tag (h : IsList n) : n.tag ∈ ["ul", "ol"] := by
  cases h with
  | mk htag _ => exact htag

/-- The text of an item fills the start of it, up to the first list. -/
theorem text_of_item {leaf : Node} {lists : List Node} (htag : n.tag = "li")
    (hchildren : n.children = leaf :: lists) (hlists : ∀ l ∈ lists, IsList l) (t : Text) :
    text leaf t Setup.plain.options = escape (trim (collapse t)) := by
  have hblock : ∀ tag ∈ ["ul", "ol"], Tag.isBlock tag = true := by decide
  have hmem : leaf ∈ n.children := by
    rw [hchildren]
    exact List.mem_cons_self
  have hsplit : n.children = [] ++ leaf :: lists := hchildren
  have hprev : leaf.prev? = none := Node.prev?_eq hsplit
  have hnext : leaf.next? = lists.head? := Node.next?_eq hsplit
  refine text_of_edges rfl (Node.parent?_child hmem) (by rw [htag]; decide)
    (by rw [hprev]; rfl) ?_ t
  rw [hnext]
  cases lists with
  | nil => rfl
  | cons l ls => exact hblock _ (hlists l List.mem_cons_self).tag

/-- **Every list and every item of a tree of lists** leaves its lines behind. -/
theorem lists_out : ∀ (levels : Nat) (n : Node) (out : Text),
    render Setup.plain levels n = .ok out →
    (IsList n → ListOut n out) ∧
      (∀ p, IsList p → n ∈ p.children → IsItem n → ItemOut n out) := by
  -- a list asks its items for their lines and an item its lists, so both go in one induction
  apply render_induction
  · intro levels n out hopen _
    exact ⟨fun h => absurd h.isOpen hopen, fun _ _ _ h => absurd h.isOpen hopen⟩
  · intro levels n j hopen ih hrow
    refine ⟨fun hn => ?_, fun p hp hmem hn => ?_⟩
    · have hitems : ∀ c ∈ n.children, IsItem c := by
        cases hn with
        | mk _ hitems => exact hitems
      obtain ⟨rs, hrs, hout⟩ := renderOnto_blocks
        (fun c hc => isInline_of_list (by rw [(hitems c hc).tag]; decide)) hrow
      rw [finish_list hn.tag, hout]
      exact listOut_of_items hn
        (forall₂_imp_mem (fun c hc r hr => (ih c hc r hr).2 n hn hc (hitems c hc)) hrs)
    · have hmark := marked_itemMarker hp hmem
      have htag := hn.tag
      cases hn with
      | @mk _ leaf lists t _ hchildren hleaf hvisible hnone hlists =>
        have htext := text_of_item htag hchildren hlists t
        have hinline : ∀ c ∈ leaf :: lists, isInline c = false := by
          intro c hc
          rcases List.mem_cons.1 hc with rfl | hc
          · rw [isInline, Node.isElement, hleaf, Bool.false_and]
          · exact isInline_of_list (List.mem_append_left ["li"] (hlists c hc).tag)
        rw [hchildren] at hrow ih
        obtain ⟨rs, hrs, hout⟩ := renderOnto_blocks hinline hrow
        cases hrs with
        | @cons _ r _ rs hr hrs =>
          rw [render_text hleaf, htext] at hr
          cases hr
          have hlistsOut : List.Forall₂ ListOut lists rs := forall₂_imp_mem
            (fun c hc r hr => (ih c (List.mem_cons_of_mem _ hc) r hr).1 (hlists c hc)) hrs
          rw [htag, finish_item, hout]
          refine itemOut_of_lists hmark hchildren hleaf hvisible hnone hlists ?_
            (forall₂_right (fun _ _ h => h.visible) hlistsOut)
            (forall₂_right (fun _ _ h => h.opens) hlistsOut)
            (forall₂_right (fun _ _ h => h.last) hlistsOut)
          refine forall₂_imp_mem (fun c hc r hr => ?_) hlistsOut
          have hmem : c ∈ n.children := by
            rw [hchildren]
            exact List.mem_cons_of_mem _ hc
          have hlevel : c.depthIn "li" = _ := Node.depthIn_child hmem
          rw [if_pos htag] at hlevel
          rw [← hlevel]
          exact hr.lines

/-- **The lines of nested lists.** Of a tree of lists that no item is above, with default options
and outside of mail, the filled lines of the output are the items in document order, one line for
each: four spaces for every item above it, its marker, and its text. -/
theorem convert_list_lines (hn : IsList n) (htop : n.hasAncestor "li" = false) {out : Text}
    (hout : Setup.plain.convert n = .ok out) :
    List.Forall₂ (fun item line => ItemLine (4 * item.depthIn "li") item line)
      (n.descendants.filter (·.tag == "li")) ((linesOf out).filter fun l => !isBlankText l) := by
  rw [convert_eq_render] at hout
  have hlevel : n.depthIn "li" = 0 := Node.depthIn_eq_zero_iff.2 htop
  refine ((lists_out maxLevels n out hout).1 hn).lines.imp ?_
  rintro item line ⟨k, hk, hline⟩
  rw [hlevel, Nat.zero_add] at hk
  rwa [hk]

/-- An ordered list of two items, the first of them with a list of its own. -/
def numbered : Document :=
  Document.ofRoot "ol" [("start", " +7 ")]
    [.element "li" [] [.text " a*b ", .element "ul" [] [.element "li" [] [.text "c"]]],
      .element "li" [] [.text "d"]]

theorem convert_numbered :
    Setup.plain.convert numbered.root = .ok "\n7. a\\*b\n    - c\n8. d\n\n" := by
  have htag : numbered.root.tag = "ol" := rfl
  have htag₁ : (numbered.node 1).tag = "li" := rfl
  have htag₃ : (numbered.node 3).tag = "ul" := rfl
  have htag₄ : (numbered.node 4).tag = "li" := rfl
  have htag₆ : (numbered.node 6).tag = "li" := rfl
  have hinner : render Setup.plain 509 (numbered.node 4) = .ok "- c\n" := by
    rw [render_only (c := numbered.node 5) ⟨rfl, by rw [htag₄]; decide⟩ rfl (render_text rfl),
      htag₄, finish_item]
    rfl
  have hlist : render Setup.plain 510 (numbered.node 3) = .ok "\n- c\n\n" := by
    rw [render_only ⟨rfl, by rw [htag₃]; decide⟩ rfl hinner, htag₃, finish_list (by decide)]
    rfl
  have hfirst : render Setup.plain 511 (numbered.node 1) = .ok "7. a\\*b\n    - c\n" := by
    have hchildren : (numbered.node 1).children = [numbered.node 2, numbered.node 3] := rfl
    rw [render_element ⟨rfl, by rw [htag₁]; decide⟩, hchildren,
      renderOnto_cons_ok (render_text rfl), renderOnto_cons_ok hlist, renderOnto_nil, htag₁,
      Except.map, finish_item]
    rfl
  have hsecond : render Setup.plain 511 (numbered.node 6) = .ok "8. d\n" := by
    rw [render_only (c := numbered.node 7) ⟨rfl, by rw [htag₆]; decide⟩ rfl (render_text rfl),
      htag₆, finish_item]
    rfl
  have hchildren : numbered.root.children = [numbered.node 1, numbered.node 6] := rfl
  rw [convert_eq_render, maxLevels, render_element ⟨rfl, by rw [htag]; decide⟩, hchildren,
    renderOnto_cons_ok hfirst, renderOnto_cons_ok hsecond, renderOnto_nil, htag, Except.map,
    finish_list (by decide)]
  rfl

theorem convert_list_lines_numbered :
    IsList numbered.root ∧ numbered.root.hasAncestor "li" = false ∧
      List.Forall₂ (fun item line => ItemLine (4 * item.depthIn "li") item line)
        [numbered.node 1, numbered.node 4, numbered.node 6]
        ["7. a\\*b".toList, "    - c".toList, "8. d".toList] := by
  have hitem : ∀ id leaf t, (numbered.node id).tag = "li" →
      (numbered.node id).children = [numbered.node leaf] → (numbered.node leaf).data = .text t →
      isBlankText t = false → (numbered.node leaf).children = [] → IsItem (numbered.node id) :=
    fun id leaf t htag hc hd hb hnone =>
      IsItem.mk htag hc hd hb hnone fun list hl => absurd hl List.not_mem_nil
  have hlist : IsList (numbered.node 3) := by
    refine IsList.mk (by decide) fun item hi => ?_
    cases List.mem_singleton.1 (show item ∈ [numbered.node 4] from hi)
    exact hitem 4 5 "c" rfl rfl rfl (by decide) rfl
  have hfirst : IsItem (numbered.node 1) := by
    have hchildren : (numbered.node 1).children = numbered.node 2 :: [numbered.node 3] := rfl
    have hleaf : (numbered.node 2).data = .text " a*b " := rfl
    refine IsItem.mk rfl hchildren hleaf (by decide) rfl fun list hl => ?_
    rwa [List.mem_singleton.1 hl]
  have hroot : IsList numbered.root := by
    refine IsList.mk (by decide) fun item hi => ?_
    have hi' : item ∈ [numbered.node 1, numbered.node 6] := hi
    simp only [List.mem_cons, List.not_mem_nil, or_false] at hi'
    rcases hi' with rfl | rfl
    · exact hfirst
    · exact hitem 6 7 "d" rfl rfl rfl (by decide) rfl
  exact ⟨hroot, rfl, convert_list_lines hroot rfl convert_numbered⟩

end Convert

end HtmlMarkdown
