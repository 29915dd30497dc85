import HtmlMarkdown.Proofs.Markdown.Lines
import HtmlMarkdown.Proofs.Table.Grid

/-!
# The separator below a header

A table has a separator below its first row, if that row is a header. Rows without cells have no
line, but they are counted: behind one of them no row is the first one (`lines_behind`), and the
first line of the table is followed by the one of the next row. That one can still look like the
separator, if all of its cells are dashes (`cellLine_eq_separator_iff`).

* `linesOf_render`: the lines of the text are those of the table, between empty ones.
* `below_iff`: when the separator stands below the first line.
* `header_separated_iff`: **when a header has its separator.**
-/

namespace HtmlMarkdown.Table

open Text Markdown

variable {o : Options} {table row : Node} {skipped rest rs : List Node} {ls : List Text}
  {text : Node → Text} {columns : Nat}

/-! ## Dashes -/

/-- **A row looks like the separator** exactly if its cells are dashes, one for each column. -/
theorem cellLine_eq_separator_iff (h : cells row ≠ []) (hcolumns : 0 < columns) :
    cellLine o (cells row) = separator columns ↔
      (cells row).map (plainText o) = List.replicate columns "---".toList := by
  constructor
  · intro heq
    have hrow := shows_row o h
    rw [heq] at hrow
    exact hrow.unique (shows_separator hcolumns)
  · intro heq
    -- dashes have no pipe to escape
    have htexts : (cells row).map (cellText o) = List.replicate columns "---".toList := by
      have hescape : pipeEscaped "---".toList = "---".toList := by decide
      calc (cells row).map (cellText o)
          = ((cells row).map (plainText o)).map pipeEscaped := by
            rw [List.map_map]
            exact List.map_congr_left fun cell _ => cellText_eq_pipeEscaped o cell
        _ = List.replicate columns "---".toList := by rw [heq, List.map_replicate, hescape]
    rw [cellLine, htexts, List.map_replicate]
    exact line_dashes hcolumns

theorem separator_ne_nil (columns : Nat) : separator columns ≠ [] := by
  simp [separator]

/-! ## The lines of the text -/

theorem RowLines.feed_not_mem (h : RowLines text rs ls) : ∀ l ∈ ls, '\n' ∉ l := by
  unfold RowLines at h
  generalize (rs.filter hasCells).map (fun row => (cells row).map text) = shown at h
  induction h with
  | nil => simp
  | cons hshows _ ih => exact List.forall_mem_cons.2 ⟨hshows.isLine, ih⟩

/-- Every line of a table is one line. -/
theorem Lines.feed_not_mem (h : Lines text rs ls) : ∀ l ∈ ls, '\n' ∉ l := by
  cases h with
  | body hrows => exact hrows.feed_not_mem
  | headed _ hshows hseparator hrest =>
    simp only [List.forall_mem_cons]
    exact ⟨hshows.isLine, hseparator.isLine, hrest.feed_not_mem⟩

/-- **The lines of the text** are those of the table, behind an empty line and before two. -/
theorem linesOf_render (h : lines o table ≠ []) :
    linesOf (render o table) = [] :: (lines o table ++ [[], []]) := by
  have hfeed := (lines_of_rows o table).feed_not_mem
  have hempty : linesOf ['\n'] = [[], []] := rfl
  rw [render_eq_lines, if_neg (by simpa using h), linesOf_feed, linesOf_append_feed,
    linesOf_joinLines h hfeed, hempty]

/-- **Behind rows without cells** the first row with cells is not the first of the table. -/
theorem lines_behind (hrows : rows table = skipped ++ row :: rest)
    (hskipped : ∀ r ∈ skipped, cells r = []) :
    lines o table = rowLines o skipped.isEmpty row ++
      (rest.filter hasCells).map fun row => cellLine o (cells row) := by
  unfold lines
  rw [hrows, ← rowLines_below]
  cases skipped with
  | nil => rfl
  | cons first more =>
    have hnone : more.flatMap (rowLines o false) = [] :=
      List.flatMap_eq_nil_iff.2 fun r hr =>
        rowLines_of_no_cells false (hskipped r (List.mem_cons_of_mem first hr))
    simp only [List.cons_append, rowLines_of_no_cells true (hskipped first List.mem_cons_self),
      List.flatMap_append, List.flatMap_cons, hnone, List.nil_append]
    rfl

/-- The rows behind a header start with its separator if they look like it. -/
theorem head?_rows_iff (hcolumns : 0 < columns) :
    (((rest.filter hasCells).map fun row => cellLine o (cells row)) ++ [[], []]).head? =
        some (separator columns) ↔
      ∃ next, rest.find? hasCells = some next ∧
        (cells next).map (plainText o) = List.replicate columns "---".toList := by
  rw [← List.head?_filter]
  cases hnext : rest.filter hasCells with
  | nil => simpa using (separator_ne_nil columns).symm
  | cons next more =>
    have hmem : next ∈ rest.filter hasCells := by
      rw [hnext]
      exact List.mem_cons_self
    have hcells := hasCells_eq_true_iff.1 (List.mem_filter.1 hmem).2
    simp [cellLine_eq_separator_iff hcells hcolumns]

/-- **The separator stands below the first line** if the row of that line is a header and the first
row of the table, or if the next line looks like it. -/
theorem below_iff (hrows : rows table = skipped ++ row :: rest)
    (hskipped : ∀ r ∈ skipped, cells r = []) (hcells : cells row ≠ []) :
    (linesOf (render o table))[1]? = some (cellLine o (cells row)) ∧
      ((linesOf (render o table))[2]? = some (separator (cells row).length) ↔
        (skipped = [] ∧ isHeader (cells row) ((cells row).map (cellText o)) = true) ∨
          ∃ next, rest.find? hasCells = some next ∧
            (cells next).map (plainText o) =
              List.replicate (cells row).length "---".toList) := by
  have hlines := lines_behind (o := o) hrows hskipped
  rw [rowLines_of_cells _ hcells, List.cons_append] at hlines
  have hne : lines o table ≠ [] := by
    rw [hlines]
    exact List.cons_ne_nil _ _
  rw [linesOf_render hne, hlines]
  refine ⟨rfl, ?_⟩
  -- below the first line stands the separator, or the line of the next row that has cells
  simp only [List.cons_append, List.getElem?_cons_succ]
  rw [← head?_rows_iff (List.length_pos_iff.2 hcells), ← List.head?_eq_getElem?, ← List.isEmpty_iff,
    ← Bool.and_eq_true]
  split
  · rename_i htop
    simp [htop]
  · rename_i htop
    simp [htop]

/-- **When a header has its separator.** Of the rows that belong to a table, let the first one with
cells have a header cell. The first line of the table shows it. The separator stands right below
if and only if no row without cells comes before it, or the next row is dashes. -/
theorem header_separated_iff (hrows : rows table = skipped ++ row :: rest)
    (hskipped : ∀ r ∈ skipped, cells r = [])
    (hheader : (cells row).any (·.tag == "th") = true) :
    (∃ first, (linesOf (render o table))[1]? = some first ∧
      Shows ((cells row).map (plainText o)) first) ∧
    ((linesOf (render o table))[2]? = some (separator (cells row).length) ↔
      skipped = [] ∨ ∃ next, rest.find? hasCells = some next ∧
        (cells next).map (plainText o) = List.replicate (cells row).length "---".toList) := by
  have hcells : cells row ≠ [] := by
    intro hnone
    rw [hnone] at hheader
    cases hheader
  have hbelow := below_iff (o := o) hrows hskipped hcells
  rw [isHeader, hheader, Bool.true_or, and_iff_left rfl] at hbelow
  exact ⟨⟨_, hbelow.1, shows_row o hcells⟩, hbelow.2⟩

/-- A table with a header and a row below it. -/
def scores : Document :=
  Document.ofRoot "table" []
    [.element "tr" [] [.element "th" [] [.text "Name"], .element "th" [] [.text "Score"]],
      .element "tr" [] [.element "td" [] [.text "Ann"], .element "td" [] [.text "3"]]]

theorem header_separated_iff_scores :
    rows scores.root = [] ++ scores.node 1 :: [scores.node 6] ∧
      (cells (scores.node 1)).any (·.tag == "th") = true ∧
      linesOf (render {} scores.root) =
        ["", "| Name | Score |", "| --- | --- |", "| Ann | 3 |", "", ""] ∧
      (linesOf (render {} scores.root))[2]? = some "| --- | --- |".toList := by
  have hrows : rows scores.root = [] ++ scores.node 1 :: [scores.node 6] := rfl
  have hheader : (cells (scores.node 1)).any (·.tag == "th") = true := rfl
  refine ⟨hrows, hheader, rfl, ?_⟩
  exact (header_separated_iff (o := {}) hrows (by simp) hheader).2.2 (Or.inl rfl)

/-- A table whose first row has no cells. -/
def emptyFirst : Document :=
  Document.ofRoot "table" []
    [.element "tr" [] [], .element "tr" [] [.element "th" [] [.text "A"]],
      .element "tr" [] [.element "td" [] [.text "1"]]]

/-- The first row that is written has a header cell, and no separator. -/
theorem header_unseparated :
    rows emptyFirst.root = [emptyFirst.node 1, emptyFirst.node 2, emptyFirst.node 5] ∧
      cells (emptyFirst.node 1) = [] ∧
      (cells (emptyFirst.node 2)).any (·.tag == "th") = true ∧
      render {} emptyFirst.root = "\n| A |\n| 1 |\n\n" ∧
      (linesOf (render {} emptyFirst.root))[2]? ≠
        some (separator (cells (emptyFirst.node 2)).length) := by
  have hrender : render {} emptyFirst.root = "\n| A |\n| 1 |\n\n" := rfl
  refine ⟨rfl, rfl, rfl, hrender, ?_⟩
  rw [hrender]
  decide

end HtmlMarkdown.Table
