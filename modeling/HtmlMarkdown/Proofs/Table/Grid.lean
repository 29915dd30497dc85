import HtmlMarkdown.Document.Tree
import HtmlMarkdown.Proofs.Document.Relatives
import HtmlMarkdown.Proofs.Table.CellText

/-!
# The grid of a pipe table

A pipe table can be read back. A pipe in a cell has a backslash right before it, so the bare pipes
of a line are those that the table has put there; between them stand the contents of the cells.

* `Shows`: a line shows some contents, cell by cell: what its pieces between the bare pipes read as.
* `cellText_eq_pipeEscaped`: the content of a cell is its text on one line, with a backslash before
  every pipe.
* `shows_line`: **a line shows the contents that it was made of**, whatever characters they have.
* `mem_rows`: the rows of a table are the ones whose nearest table above is the table.
* `Lines.iff_agree`: what is read in a line is told by the line.
* `render_shows_grid_iff`: **a table shows all of its rows that have cells**, in order, and **when it
  shows the texts of them**.
-/

namespace HtmlMarkdown.Table

open Text

variable {before : Option Char} {c : Char} {t u line : Text} {contents ls : List Text} {o : Options}
  {table row : Node} {rs : List Node} {text text' : Node → Text}

/-! ## Reading a line -/

/-- Is the character a pipe without a backslash right before it? -/
def isBare (before : Option Char) (c : Char) : Bool := c == '|' && before != some '\\'

/-- The number of bare pipes in a text behind a character. -/
def barePipesFrom : Option Char → Text → Nat
  | _, [] => 0
  | before, c :: cs => (isBare before c).toNat + barePipesFrom (some c) cs

/-- The pieces between the bare pipes of a text behind a character. -/
def piecesFrom : Option Char → Text → List Text
  | _, [] => [[]]
  | before, c :: cs =>
    if isBare before c then [] :: piecesFrom (some c) cs
    else (piecesFrom (some c) cs).modifyHead (c :: ·)

/-- The number of bare pipes in a line. -/
def barePipes (line : Text) : Nat := barePipesFrom none line

/-- The pieces of a line between its bare pipes. -/
def pieces (line : Text) : List Text := piecesFrom none line

/-- Take off the backslash before each pipe. -/
def unpipe : Text → Text
  | [] => []
  | [c] => [c]
  | c :: d :: rest =>
    if c = '\\' && d = '|' then '|' :: unpipe rest else c :: unpipe (d :: rest)

/-- **The line shows the contents**: it has a bare pipe around and between them, and its pieces,
trimmed and without the backslashes before pipes, are the contents. Nothing stands outside. -/
structure Shows (contents : List Text) (line : Text) : Prop where
  isLine : '\n' ∉ line
  barePipes_eq : barePipes line = contents.length + 1
  pieces_eq : (pieces line).map (fun p => unpipe (trim p)) = [] :: (contents ++ [[]])

/-! ## Texts without a bare pipe -/

theorem barePipesFrom_append : ∀ (before : Option Char) (t u : Text),
    barePipesFrom before (t ++ u) =
      barePipesFrom before t + barePipesFrom (t.getLast?.or before) u := by
  intro before t
  induction t generalizing before with
  | nil => intro u; simp [barePipesFrom]
  | cons c cs ih =>
    intro u
    have hlast : cs.getLast?.or (some c) = (c :: cs).getLast?.or before := by
      rw [List.getLast?_cons]
      cases cs.getLast? <;> rfl
    rw [List.cons_append, barePipesFrom, barePipesFrom, ih, hlast]
    omega

/-- A text without a bare pipe stays in one piece. -/
theorem piecesFrom_append (h : barePipesFrom before t = 0) (u : Text) :
    piecesFrom before (t ++ u) =
      (piecesFrom (t.getLast?.or before) u).modifyHead (t ++ ·) := by
  induction t generalizing before with
  | nil =>
    simp only [List.nil_append, List.getLast?_nil, Option.none_or]
    cases piecesFrom before u <;> rfl
  | cons c cs ih =>
    rw [barePipesFrom] at h
    have hlast : cs.getLast?.or (some c) = (c :: cs).getLast?.or before := by
      rw [List.getLast?_cons]
      cases cs.getLast? <;> rfl
    have hbare : isBare before c = false := by
      cases hb : isBare before c with
      | false => rfl
      | true =>
        rw [hb, Bool.toNat_true] at h
        omega
    rw [List.cons_append, piecesFrom, hbare, if_neg Bool.false_ne_true, ih (by omega), hlast,
      List.modifyHead_modifyHead]
    rfl

/-! ## Escaped pipes -/

/-- A text with a backslash before every pipe. -/
def pipeEscaped (t : Text) : Text := replaceChar '|' ['\\', '|'] t

theorem pipeEscaped_cons (c : Char) (cs : Text) :
    pipeEscaped (c :: cs) = (if c = '|' then ['\\', '|'] else [c]) ++ pipeEscaped cs := rfl

theorem barePipesFrom_pipeEscaped (t : Text) :
    ∀ before, barePipesFrom before (pipeEscaped t) = 0 := by
  induction t with
  | nil => intro before; rfl
  | cons c cs ih =>
    intro before
    rw [pipeEscaped_cons]
    by_cases hc : c = '|'
    · simp [hc, barePipesFrom, isBare, ih]
    · simp [hc, barePipesFrom, isBare, ih]

theorem head?_pipeEscaped (t : Text) : (pipeEscaped t).head? ≠ some '|' := by
  cases t with
  | nil => simp [pipeEscaped, replaceChar]
  | cons c cs =>
    rw [pipeEscaped_cons]
    by_cases hc : c = '|' <;> simp [hc]

/-- A character stays if no backslash before a pipe starts with it. -/
theorem unpipe_cons (h : ¬ (c = '\\' ∧ t.head? = some '|')) : unpipe (c :: t) = c :: unpipe t := by
  cases t with
  | nil => rfl
  | cons d ds =>
    rw [unpipe]
    simp only [List.head?_cons, Option.some.injEq] at h
    simp [h]

/-- **The pipes are read back**, also behind a backslash of the text's own. -/
theorem unpipe_pipeEscaped (t : Text) : unpipe (pipeEscaped t) = t := by
  induction t with
  | nil => rfl
  | cons c cs ih =>
    rw [pipeEscaped_cons]
    by_cases hc : c = '|'
    · simp [hc, unpipe, ih]
    · rw [if_neg hc, List.singleton_append, unpipe_cons fun h => head?_pipeEscaped cs h.2, ih]

theorem keepsBlank_pipeEscaped :
    KeepsBlank fun c => if c = '|' then ['\\', '|'] else [c] where
  blank c hc := by
    refine if_neg ?_
    rintro rfl
    cases hc
  ne_nil c _ := by split <;> exact List.cons_ne_nil _ _
  visible c hc d hd := by
    split at hd
    · rcases List.mem_pair.1 hd with rfl | rfl <;> decide
    · rw [List.mem_singleton.1 hd]
      exact hc

/-- **The content of a cell** is its text on one line, with its pipes escaped. -/
theorem cellContent_eq (t : Text) : cellContent t = pipeEscaped (trim (collapse t)) := by
  have hspace : isBlank '\n' = true ∧ isBlank '\r' = true ∧ isBlank ' ' = true := by decide
  have hbreak : ∀ c : Char, c = '\n' ∨ c = '\r' → isBlank c = true := by
    rintro c (rfl | rfl)
    · exact hspace.1
    · exact hspace.2.1
  have hlines : ∀ u : Text,
      collapse (u.map fun c => if c == '\n' || c == '\r' then ' ' else c) = collapse u := by
    refine collapse_map (fun c => ?_) (fun c hc => ?_)
    · by_cases h : c = '\n' ∨ c = '\r'
      · rw [hbreak c h]
        simp [h, hspace.2.2]
      · simp [h]
    · have h : ¬ (c = '\n' ∨ c = '\r') := fun h => by rw [hbreak c h] at hc; cases hc
      simp [h]
  unfold cellContent
  simp only
  rw [hlines]
  unfold replaceChar
  rw [keepsBlank_pipeEscaped.collapse, keepsBlank_pipeEscaped.trim]
  rfl

theorem cellText_eq_pipeEscaped (o : Options) (cell : Node) :
    cellText o cell = pipeEscaped (plainText o cell) := by
  rw [cellText, cellContent_eq, childText_eq_given, plainText]

/-! ## A line -/

/-- A line is a pipe before each of its contents, and a last one. -/
theorem line_eq (h : contents ≠ []) :
    Table.line contents = contents.flatMap (fun t => '|' :: ' ' :: (t ++ [' '])) ++ ['|'] := by
  have key : ∀ (t : Text) (ts : List Text),
      (" | ".toList).intercalate (t :: ts) ++ [' ', '|'] =
        t ++ ' ' :: (ts.flatMap (fun t => '|' :: ' ' :: (t ++ [' '])) ++ ['|']) := by
    intro t ts
    induction ts generalizing t with
    | nil => simp
    | cons v vs ih =>
      have hcons : (" | ".toList).intercalate (t :: v :: vs) =
          t ++ (' ' :: '|' :: ' ' :: (" | ".toList).intercalate (v :: vs)) := by simp
      rw [hcons, List.append_assoc]
      simp only [List.cons_append, ih v]
      simp
  cases contents with
  | nil => exact absurd rfl h
  | cons t ts =>
    have hline : Table.line (t :: ts) =
        '|' :: ' ' :: ((" | ".toList).intercalate (t :: ts) ++ [' ', '|']) := by
      unfold Table.line
      simp
    rw [hline, key]
    simp

/-- A content with a space on either side has no bare pipe. -/
theorem barePipesFrom_spaced (h : ∀ before, barePipesFrom before t = 0) :
    barePipesFrom (some '|') (' ' :: (t ++ [' '])) = 0 := by
  rw [barePipesFrom, barePipesFrom_append, h]
  rfl

/-- **The bare pipes of a line** are the ones around and between its contents. -/
theorem barePipesFrom_line (h : ∀ t ∈ contents, ∀ before, barePipesFrom before t = 0)
    (hbefore : before ≠ some '\\') :
    barePipesFrom before (contents.flatMap (fun t => '|' :: ' ' :: (t ++ [' '])) ++ ['|']) =
      contents.length + 1 := by
  have hpipe : ∀ {b : Option Char}, b ≠ some '\\' → isBare b '|' = true := by
    intro b hb
    simp [isBare, hb]
  induction contents generalizing before with
  | nil => simp [barePipesFrom, hpipe hbefore]
  | cons t ts ih =>
    have hlast : ((' ' :: (t ++ [' '])).getLast?.or (some '|')) = some ' ' := by
      rw [← List.cons_append, List.getLast?_concat]
      rfl
    rw [List.flatMap_cons, List.append_assoc, List.cons_append, barePipesFrom, hpipe hbefore,
      barePipesFrom_append, barePipesFrom_spaced (h t List.mem_cons_self), hlast,
      ih (fun t' ht' => h t' (List.mem_cons_of_mem _ ht')) (by decide), List.length_cons,
      Bool.toNat_true]
    omega

/-- **The pieces of a line** are its contents, each with a space on either side. -/
theorem piecesFrom_line (h : ∀ t ∈ contents, ∀ before, barePipesFrom before t = 0)
    (hbefore : before ≠ some '\\') :
    piecesFrom before (contents.flatMap (fun t => '|' :: ' ' :: (t ++ [' '])) ++ ['|']) =
      [] :: (contents.map (fun t => ' ' :: (t ++ [' '])) ++ [[]]) := by
  have hpipe : ∀ {b : Option Char}, b ≠ some '\\' → isBare b '|' = true := by
    intro b hb
    simp [isBare, hb]
  induction contents generalizing before with
  | nil => simp [piecesFrom, hpipe hbefore]
  | cons t ts ih =>
    have hlast : ((' ' :: (t ++ [' '])).getLast?.or (some '|')) = some ' ' := by
      rw [← List.cons_append, List.getLast?_concat]
      rfl
    rw [List.flatMap_cons, List.append_assoc, List.cons_append, piecesFrom, hpipe hbefore,
      if_pos rfl, piecesFrom_append (barePipesFrom_spaced (h t List.mem_cons_self)), hlast,
      ih (fun t' ht' => h t' (List.mem_cons_of_mem _ ht')) (by decide)]
    simp

/-- **A line shows the contents that it was made of.** -/
theorem shows_line {texts : List Text} (hne : contents ≠ [])
    (hbare : ∀ t ∈ contents, ∀ before, barePipesFrom before t = 0)
    (hfeed : ∀ t ∈ contents, '\n' ∉ t)
    (hread : contents.map (fun t => unpipe (trim t)) = texts) :
    Shows texts (Table.line contents) where
  isLine := by
    intro h
    rw [line_eq hne, List.mem_append, List.mem_flatMap] at h
    rcases h with ⟨t, ht, hmem⟩ | h
    · simp only [List.mem_cons, List.mem_append, List.not_mem_nil, or_false] at hmem
      rcases hmem with h | h | h | h
      · cases h
      · cases h
      · exact hfeed t ht h
      · cases h
    · simp at h
  barePipes_eq := by
    rw [barePipes, line_eq hne, barePipesFrom_line hbare (by decide), ← hread, List.length_map]
  pieces_eq := by
    have hspaced : ∀ t : Text, trim (' ' :: (t ++ [' '])) = trim t := trim_between_spaces
    rw [pieces, line_eq hne, piecesFrom_line hbare (by decide), ← hread]
    simp only [List.map_cons, List.map_append, List.map_map, Function.comp_def, hspaced]
    rfl

/-- A line shows one thing. -/
theorem Shows.unique {contents' : List Text} (h : Shows contents line)
    (h' : Shows contents' line) : contents = contents' := by
  have heq := h.pieces_eq.symm.trans h'.pieces_eq
  exact List.append_cancel_right (List.cons.inj heq).2

/-- The line of some cells; an empty one is written as a space. -/
def cellLine (o : Options) (cells : List Node) : Text :=
  Table.line ((cells.map (cellText o)).map fun t => if t.isEmpty then [' '] else t)

/-- A row shows the texts of its cells. -/
theorem shows_row (o : Options) {cells : List Node} (h : cells ≠ []) :
    Shows (cells.map (plainText o)) (cellLine o cells) := by
  have hcell : ∀ t ∈ (cells.map (cellText o)).map fun t => if t.isEmpty then [' '] else t,
      t = [' '] ∨ ∃ cell, t = pipeEscaped (plainText o cell) := by
    intro t ht
    rw [List.map_map] at ht
    obtain ⟨cell, -, rfl⟩ := List.mem_map.1 ht
    simp only [Function.comp_apply]
    split
    · exact Or.inl rfl
    · exact Or.inr ⟨cell, cellText_eq_pipeEscaped o cell⟩
  refine shows_line (by simpa using h) (fun t ht => ?_) (fun t ht => ?_) ?_
  · rcases hcell t ht with rfl | ⟨cell, rfl⟩
    · intro before
      rfl
    · exact barePipesFrom_pipeEscaped _
  · rcases hcell t ht with rfl | ⟨cell, rfl⟩
    · decide
    · intro hmem
      obtain ⟨c, hc, hin⟩ := List.mem_flatMap.1 hmem
      have hfeed : '\n' ∉ plainText o cell := feed_not_mem_trim_collapse _
      split at hin
      · simp at hin
      · rw [← List.mem_singleton.1 hin] at hc
        exact hfeed hc
  · rw [List.map_map, List.map_map]
    apply List.map_congr_left
    intro cell _
    -- a content is trimmed already, and the space that stands for an empty one reads as nothing
    have htrim : trim (cellText o cell) = cellText o cell := trim_trim _
    have hread : unpipe (trim (cellText o cell)) = plainText o cell := by
      rw [htrim, cellText_eq_pipeEscaped, unpipe_pipeEscaped]
    simp only [Function.comp_apply]
    split
    · rename_i hempty
      rw [← hread, List.isEmpty_iff.1 hempty]
      rfl
    · exact hread

/-- A pipe of the text, and a cell with nothing in it. -/
example : Shows ["a|b".toList, []] "| a\\|b |   |".toList := ⟨by decide, by decide, by decide⟩

/-- The separator of a number of columns: three dashes for each. -/
def separator (columns : Nat) : Text := (List.replicate columns "| --- ".toList).flatten ++ ['|']

theorem line_dashes {columns : Nat} (h : 0 < columns) :
    Table.line (List.replicate columns "---".toList) = separator columns := by
  have hne : List.replicate columns "---".toList ≠ [] := by
    rw [Ne, List.replicate_eq_nil_iff]
    omega
  rw [line_eq hne, List.flatMap_def, List.map_replicate]
  rfl

/-- A separator has dashes for each of its columns. -/
theorem shows_separator {columns : Nat} (h : 0 < columns) :
    Shows (List.replicate columns "---".toList) (separator columns) := by
  rw [← line_dashes h]
  refine shows_line ?_ (fun t ht before => ?_) (fun t ht => ?_) ?_
  · rw [Ne, List.replicate_eq_nil_iff]
    omega
  · rw [List.eq_of_mem_replicate ht]
    rfl
  · rw [List.eq_of_mem_replicate ht]
    decide
  · rw [List.map_replicate]
    rfl

/-! ## The rows of a table -/

/-- The row belongs to the table: of the tables above it, the nearest one is that table. -/
def Owns (table row : Node) : Prop :=
  row.tag = "tr" ∧ table.tag = "table" ∧
    ∃ below above, row.ancestors = below ++ table :: above ∧ ∀ a ∈ below, a.tag ≠ "table"

/-- **The rows of a table** are the rows below it that belong to it. -/
theorem mem_rows : row ∈ rows table ↔ row ∈ table.descendants ∧ Owns table row := by
  unfold rows Owns
  rw [List.mem_filter]
  refine and_congr_right fun hrow => ?_
  rw [Bool.and_eq_true, beq_iff_eq]
  refine and_congr_right fun _ => ?_
  rw [Option.any_eq_true_iff_get]
  constructor
  · rintro ⟨hsome, hid⟩
    obtain ⟨a, ha⟩ := Option.isSome_iff_exists.1 hsome
    obtain ⟨htag, below, above, hsplit, hbelow⟩ := List.find?_eq_some_iff_append.1 ha
    -- a node above the row lies in the same document, so its number decides which one it is
    have hdoc : a.doc = table.doc := by
      obtain ⟨id, -, rfl⟩ := List.mem_map.1 hrow
      have hmem : a ∈ (table.at' id).ancestors := by rw [hsplit]; simp
      obtain ⟨aid, -, rfl⟩ := List.mem_map.1 hmem
      rfl
    obtain rfl : a = table := by
      simp only [ha, Option.get_some, beq_iff_eq] at hid
      cases a
      cases table
      simp_all
    exact ⟨eq_of_beq htag, below, above, hsplit, fun b hb => by simpa using hbelow b hb⟩
  · rintro ⟨htag, below, above, hsplit, hbelow⟩
    have hfind : row.ancestors.find? (·.tag == "table") = some table :=
      List.find?_eq_some_iff_append.2
        ⟨beq_iff_eq.2 htag, below, above, hsplit, fun b hb => by simpa using hbelow b hb⟩
    exact ⟨by rw [hfind]; rfl, by simp [hfind]⟩

/-- Has the row a cell? -/
def hasCells (row : Node) : Bool := !(cells row).isEmpty

/-- The lines of some rows, where each cell reads as `text`: one for each row that has cells, in
order. -/
def RowLines (text : Node → Text) (rows : List Node) (lines : List Text) : Prop :=
  List.Forall₂ Shows ((rows.filter hasCells).map fun row => (cells row).map text) lines

/-- **The lines of a table**, where each cell reads as `text`: those of its rows, and at most one
separator. It stands behind the line of the first row and has as many columns. -/
inductive Lines (text : Node → Text) : List Node → List Text → Prop where
  | body {rows : List Node} {lines : List Text} : RowLines text rows lines → Lines text rows lines
  | headed {first : Node} {rest : List Node} {line separator : Text} {lines : List Text} :
    hasCells first = true → Shows ((cells first).map text) line →
    Shows (List.replicate (cells first).length "---".toList) separator →
    RowLines text rest lines → Lines text (first :: rest) (line :: separator :: lines)

theorem hasCells_eq_true_iff : hasCells row = true ↔ cells row ≠ [] := by
  simp [hasCells]

/-- A row without cells has no line. -/
theorem rowLines_of_no_cells (isFirst : Bool) (h : cells row = []) :
    rowLines o isFirst row = [] := by
  unfold rowLines
  rw [h]

/-- The lines of a row that has cells: its own, and at the top perhaps the separator. -/
theorem rowLines_of_cells (isFirst : Bool) (h : cells row ≠ []) :
    rowLines o isFirst row = cellLine o (cells row) ::
      if isFirst && isHeader (cells row) ((cells row).map (cellText o)) then
        [separator (cells row).length]
      else [] := by
  have hdashes := line_dashes (List.length_pos_iff.2 h)
  rw [← List.map_const'] at hdashes
  rw [← hdashes]
  unfold rowLines
  cases hcells : cells row with
  | nil => exact absurd hcells h
  | cons cell cs => rfl

/-- The rows below the first one have a line each, if they have cells. -/
theorem rowLines_below (rows : List Node) :
    rows.flatMap (rowLines o false) = (rows.filter hasCells).map fun row => cellLine o (cells row) := by
  induction rows with
  | nil => rfl
  | cons row rest ih =>
    rw [List.flatMap_cons, List.filter_cons, ih]
    by_cases h : cells row = []
    · rw [rowLines_of_no_cells false h]
      simp [hasCells, h]
    · rw [rowLines_of_cells false h, if_pos (hasCells_eq_true_iff.2 h)]
      rfl

theorem rowLines_shows (rows : List Node) :
    RowLines (plainText o) rows ((rows.filter hasCells).map fun row => cellLine o (cells row)) := by
  unfold RowLines
  rw [List.forall₂_map_left_iff, List.forall₂_map_right_iff, List.forall₂_same]
  intro row hrow
  exact shows_row o (hasCells_eq_true_iff.1 (List.mem_filter.1 hrow).2)

/-- The lines that a table is made of. -/
def lines (o : Options) (table : Node) : List Text :=
  match rows table with
  | [] => []
  | first :: rest => rowLines o true first ++ rest.flatMap (rowLines o false)

theorem lines_of_rows (o : Options) (table : Node) :
    Lines (plainText o) (rows table) (lines o table) := by
  unfold lines
  cases rows table with
  | nil => exact Lines.body List.Forall₂.nil
  | cons first rest =>
    have hrest := rowLines_shows (o := o) rest
    have hall := rowLines_shows (o := o) (first :: rest)
    simp only [rowLines_below]
    by_cases h : cells first = []
    · rw [List.filter_cons_of_neg (by simp [hasCells, h])] at hall
      rw [rowLines_of_no_cells true h]
      exact Lines.body hall
    · have hcells := hasCells_eq_true_iff.2 h
      rw [List.filter_cons_of_pos hcells] at hall
      rw [rowLines_of_cells true h]
      split
      · exact Lines.headed hcells (shows_row o h) (shows_separator (List.length_pos_iff.2 h)) hrest
      · exact Lines.body hall

/-- No lines are written exactly where no row has a cell. -/
theorem lines_eq_nil_iff : lines o table = [] ↔ ∀ row ∈ rows table, cells row = [] := by
  -- a separator never stands alone
  have hrow : ∀ (isFirst : Bool) (row : Node), rowLines o isFirst row = [] ↔ cells row = [] := by
    intro isFirst row
    refine ⟨fun h => ?_, rowLines_of_no_cells isFirst⟩
    by_contra hne
    rw [rowLines_of_cells isFirst hne] at h
    cases h
  unfold lines
  cases rows table with
  | nil => simp
  | cons first rest => simp [hrow]

theorem render_eq_lines (o : Options) (table : Node) :
    render o table =
      if (lines o table).isEmpty then [] else '\n' :: (joinLines (lines o table) ++ ['\n', '\n']) :=
  rfl

/-! ## What is read -/

theorem RowLines.length_eq (h : RowLines text rs ls) :
    ls.length = (rs.filter hasCells).length := by
  rw [← List.Forall₂.length_eq h, List.length_map]

/-- Cells that are read the same, row by row. -/
theorem agree_iff : (∀ row ∈ rs, ∀ cell ∈ cells row, text cell = text' cell) ↔
    ((rs.filter hasCells).map fun row => (cells row).map text) =
      (rs.filter hasCells).map fun row => (cells row).map text' := by
  simp only [List.map_inj_left, List.mem_filter, and_imp]
  refine forall₂_congr fun row _ => ⟨fun h _ => h, fun h cell hcell => ?_⟩
  exact h (hasCells_eq_true_iff.2 (List.ne_nil_of_mem hcell)) cell hcell

theorem RowLines.iff_agree (h : RowLines text rs ls) : RowLines text' rs ls ↔
    ∀ row ∈ rs, ∀ cell ∈ cells row, text cell = text' cell := by
  rw [agree_iff]
  constructor
  · intro h'
    have hunique : Relator.LeftUnique Shows := fun _ _ _ => Shows.unique
    exact List.left_unique_forall₂' hunique h h'
  · intro heq
    unfold RowLines at h ⊢
    rwa [← heq]

/-- A separator is one line more than there are rows. -/
theorem RowLines.not_headed {first : Node} {separator : Text} (hcells : hasCells first = true)
    (hrest : RowLines text rs ls) : ¬ RowLines text' (first :: rs) (line :: separator :: ls) := by
  intro h
  have hcount := h.length_eq
  rw [List.filter_cons_of_pos hcells, List.length_cons, List.length_cons, List.length_cons,
    hrest.length_eq] at hcount
  omega

/-- **What is read in the lines of a table** is told by the lines: they can be read in another way
if and only if that is the same on every cell. -/
theorem Lines.iff_agree (h : Lines text rs ls) : Lines text' rs ls ↔
    ∀ row ∈ rs, ∀ cell ∈ cells row, text cell = text' cell := by
  cases h with
  | body hrows =>
    rw [← hrows.iff_agree]
    refine ⟨fun h' => ?_, Lines.body⟩
    cases h' with
    | body hrows' => exact hrows'
    | headed hcells _ _ hrest => exact absurd hrows (hrest.not_headed hcells)
  | headed hcells hline hseparator hrest =>
    rw [List.forall_mem_cons, ← hrest.iff_agree, ← List.map_inj_left]
    constructor
    · intro h'
      cases h' with
      | body hrows' => exact absurd hrows' (hrest.not_headed hcells)
      | headed _ hline' _ hrest' => exact ⟨hline.unique hline', hrest'⟩
    · rintro ⟨heq, hrest'⟩
      rw [heq] at hline
      exact Lines.headed hcells hline hseparator hrest'

/-- **A table shows its grid.** It is empty exactly where none of its rows has a cell. Otherwise its
lines stand one below the other, and they are the lines of its rows. Of every cell they show what can
be seen, and they show the texts of the cells if and only if none of them runs on. -/
theorem render_shows_grid_iff (o : Options) (table : Node) :
    (rows table).Sublist table.descendants ∧
    (∀ row, row ∈ rows table ↔ row ∈ table.descendants ∧ Owns table row) ∧
    (render o table = [] ↔ ∀ row ∈ table.descendants, Owns table row → cells row = []) ∧
    (render o table = [] ∨ ∃ lines, render o table = '\n' :: (joinLines lines ++ ['\n', '\n']) ∧
      Lines (plainText o) (rows table) lines ∧
      (Lines (fullText o) (rows table) lines ↔
        ∀ row ∈ rows table, ∀ cell ∈ cells row, ¬ RunsOn o cell)) ∧
    ∀ cell, visible (plainText o cell) = visible (fullText o cell) ∧
      (plainText o cell = fullText o cell ↔ ¬ RunsOn o cell) := by
  have hnil : render o table = [] ↔ lines o table = [] := by
    rw [render_eq_lines]
    cases lines o table <;> simp
  have hlines := lines_of_rows o table
  refine ⟨List.filter_sublist, fun row => mem_rows, ?_, ?_,
    fun cell => ⟨visible_plainText o cell, plainText_eq_fullText_iff o cell⟩⟩
  · rw [hnil, lines_eq_nil_iff]
    simp only [mem_rows, and_imp]
  · by_cases h : lines o table = []
    · exact Or.inl (hnil.2 h)
    · refine Or.inr ⟨lines o table, ?_, hlines, ?_⟩
      · rw [render_eq_lines, if_neg (by simpa using h)]
      · rw [hlines.iff_agree]
        simp only [plainText_eq_fullText_iff]

/-- A table with pipes and backslashes, a line break, bold text, spans and an empty cell. -/
def signs : Document :=
  Document.ofRoot "table" []
    [.element "tr" [] [.element "th" [] [.text "a|b\\"], .element "th" [] [.text "\\|"]],
      .element "tr" []
        [.element "td" []
          [.text "one\ntwo ", .element "b" [] [.text " c "], .element "span" [] [.text " "],
            .element "span" [] [.text "d "]],
          .element "td" [] []]]

theorem render_shows_grid_iff_signs :
    render {} signs.root =
        "\n| a\\|b\\ | \\\\| |\n| --- | --- |\n| one two **c** d |   |\n\n" ∧
      (rows signs.root).map (fun row => (cells row).map (fullText {})) =
        ([["a|b\\", "\\|"], ["one two **c** d", ""]] : List (List Text)) ∧
      (∀ row ∈ rows signs.root, ∀ cell ∈ cells row, ¬ RunsOn {} cell) ∧
      ∃ lines, render {} signs.root = '\n' :: (joinLines lines ++ ['\n', '\n']) ∧
        Lines (fullText {}) (rows signs.root) lines := by
  have hrender : render {} signs.root =
      "\n| a\\|b\\ | \\\\| |\n| --- | --- |\n| one two **c** d |   |\n\n" := rfl
  have htexts : ∀ row ∈ rows signs.root, ∀ cell ∈ cells row,
      plainText {} cell = fullText {} cell := by
    rw [agree_iff]
    rfl
  obtain ⟨-, -, -, hlines, hcells⟩ := render_shows_grid_iff {} signs.root
  have hnone : ∀ row ∈ rows signs.root, ∀ cell ∈ cells row, ¬ RunsOn {} cell :=
    fun row hrow cell hcell => (hcells cell).2.1 (htexts row hrow cell hcell)
  refine ⟨hrender, rfl, hnone, ?_⟩
  rcases hlines with hnil | ⟨lines, hjoin, -, hfull⟩
  · rw [hrender] at hnil
    cases hnil
  · exact ⟨lines, hjoin, hfull.2 hnone⟩

/-- A table with a space at the edge of a span. -/
def narrow : Document :=
  Document.ofRoot "table" []
    [.element "tr" [] [.element "th" [] [.text "a", .element "span" [] [.text " b"]]],
      .element "tr" [] [.element "td" [] [.text "1"]]]

/-- The space is trimmed with the span, and the line shows one word in place of two. -/
theorem render_runs_on :
    rows narrow.root = [narrow.node 1, narrow.node 6] ∧
      cells (narrow.node 1) = [narrow.node 2] ∧
      render {} narrow.root = "\n| ab |\n| --- |\n| 1 |\n\n" ∧
      fullText {} (narrow.node 2) = "a b" ∧ RunsOn {} (narrow.node 2) ∧
      ¬ Shows ((cells (narrow.node 1)).map (fullText {})) "| ab |" := by
  have hfull : fullText {} (narrow.node 2) = "a b" := rfl
  have hplain : plainText {} (narrow.node 2) = "ab" := rfl
  refine ⟨rfl, rfl, rfl, hfull, ?_, fun h => ?_⟩
  · by_contra hno
    rw [← plainText_eq_fullText_iff, hplain, hfull] at hno
    revert hno
    decide
  · have hpieces := h.pieces_eq
    revert hpieces
    decide

end HtmlMarkdown.Table
