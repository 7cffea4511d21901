/-
**Tables in colour.**

What is visible of a table is the table of what is visible of its headers and cells. The widths are
the same, since they count what is visible only; a cell that closes its escape sequences leaves the
scan outside, so that the blanks beside it and the cells behind it are visible in full; and there is
nothing else in a table. A sequence without an end would take the blanks and the cells behind it
along, up to the next `m`, wherever that is.

A text in colour is visible as the text is. So a table reads the same whichever of its cells are
painted, and the table of reports reads the same on every terminal.

* `Column.bare`: the column under what is visible of its header;
* `forall_mem_fieldsByLine`: what holds of all fields of a table;
* `visible_render`: a table without its escape sequences;
* `PaintedColumn`, `visible_render_of_painted`: tables with painted headers and cells;
* `visible_reportTable`: the table of reports.
-/
import AccessAudit.CheckRun
import AccessAudit.Proofs.TableWidths
import AccessAudit.Proofs.VisibleText

namespace AccessAudit.Text

/-! ### Closed texts in a row -/

theorem isClosed_join {parts : List String} (closed : ∀ part ∈ parts, IsClosed part) :
    IsClosed (String.join parts) := by
  induction parts with
  | nil => decide +kernel
  | cons part parts ih =>
    obtain ⟨first, others⟩ := List.forall_mem_cons.mp closed
    rw [String.join_cons]
    exact first.append (ih others)

theorem visible_join {parts : List String} (closed : ∀ part ∈ parts, IsClosed part) :
    visible (String.join parts) = String.join (parts.map visible) := by
  induction parts with
  | nil => decide +kernel
  | cons part parts ih =>
    obtain ⟨first, others⟩ := List.forall_mem_cons.mp closed
    rw [String.join_cons, visible_append first, ih others, List.map_cons, String.join_cons]

namespace Table

/-! ### Closed fields in a line -/

theorem plain_blanks (n : Nat) : escape ∉ (blanks n).toList := by
  unfold blanks
  rw [String.toList_ofList, List.mem_replicate]
  exact fun found => absurd found.2 (by decide)

theorem isClosed_blanks (n : Nat) : IsClosed (blanks n) :=
  isClosed_of_plain (plain_blanks n)

theorem visible_blanks (n : Nat) : visible (blanks n) = blanks n :=
  visible_of_plain (plain_blanks n)

theorem isClosed_pad {cell : String} (closed : IsClosed cell) (side : Side) (width : Nat) :
    IsClosed (pad side width cell) := by
  cases side with
  | left => exact closed.append (isClosed_blanks _)
  | right => exact (isClosed_blanks _).append closed

theorem cellWidth_visible (text : String) : cellWidth (visible text) = cellWidth text := by
  unfold cellWidth
  rw [visible_visible]

theorem headerWidth_visible (text : String) : headerWidth (visible text) = headerWidth text := by
  unfold headerWidth
  rw [visible_visible]

/-- What is visible of a field is the field of what is visible. -/
theorem visible_pad {cell : String} (closed : IsClosed cell) (side : Side) (width : Nat) :
    visible (pad side width cell) = pad side width (visible cell) := by
  unfold pad
  rw [cellWidth_visible]
  cases side with
  | left =>
    show visible (cell ++ blanks _) = visible cell ++ blanks _
    rw [visible_append closed, visible_blanks]
  | right =>
    show visible (blanks _ ++ cell) = blanks _ ++ visible cell
    rw [visible_append (isClosed_blanks _), visible_blanks]

theorem visible_dashes (width : Nat) : visible (dashes width) = dashes width :=
  visible_of_plain (notMem_dashes (by decide) width)

theorem map_visible_dashes (widths : List Nat) :
    (widths.map dashes).map visible = widths.map dashes := by
  rw [List.map_map]
  exact List.map_congr_left fun width _ => visible_dashes width

section Line

variable {fields : List String}

theorem isClosed_gap_append {field : String} (closed : IsClosed field) :
    IsClosed ("  " ++ field) :=
  (isClosed_of_plain (by decide)).append closed

theorem isClosed_fieldLine (closed : ∀ field ∈ fields, IsClosed field) :
    IsClosed (fieldLine fields) := by
  rw [fieldLine_eq_join]
  refine (isClosed_join fun part inside => ?_).append (isClosed_blanks _)
  obtain ⟨field, member, rfl⟩ := List.mem_map.mp inside
  exact isClosed_gap_append (closed field member)

/-- **What is visible of a line of closed fields is the line of what is visible of them.** -/
theorem visible_fieldLine (closed : ∀ field ∈ fields, IsClosed field) :
    visible (fieldLine fields) = fieldLine (fields.map visible) := by
  have parts : ∀ part ∈ fields.map ("  " ++ ·), IsClosed part := by
    intro part inside
    obtain ⟨field, member, rfl⟩ := List.mem_map.mp inside
    exact isClosed_gap_append (closed field member)
  have bare : (fields.map ("  " ++ ·)).map visible = (fields.map visible).map ("  " ++ ·) := by
    rw [List.map_map, List.map_map]
    exact List.map_congr_left fun field _ => visible_append (isClosed_of_plain (by decide)) field
  rw [fieldLine_eq_join, fieldLine_eq_join, visible_append (isClosed_join parts),
    visible_join parts, bare, visible_blanks]
  simp only [List.map_eq_nil_iff]

theorem isClosed_line (closed : ∀ field ∈ fields, IsClosed field) : IsClosed (line fields) := by
  rw [line_eq]
  exact (isClosed_fieldLine closed).append (isClosed_of_plain (by decide))

theorem visible_line (closed : ∀ field ∈ fields, IsClosed field) :
    visible (line fields) = line (fields.map visible) := by
  rw [line_eq, line_eq, visible_append (isClosed_fieldLine closed), visible_fieldLine closed]
  exact congrArg _ (visible_of_plain (by decide))

end Line

/-! ### The table of what is visible -/

/-- The column under what is visible of its header. -/
def Column.bare (column : Column) : Column :=
  { column with header := visible column.header }

theorem cellAt_map_visible (row : List String) (index : Nat) :
    cellAt (row.map visible) index = visible (cellAt row index) := by
  unfold cellAt
  rw [List.getD_eq_getElem?_getD, List.getD_eq_getElem?_getD, List.getElem?_map]
  cases row[index]? with
  | none => exact (visible_of_plain List.not_mem_nil).symm
  | some cell => rfl

theorem columnWidth_bare (rows : List (List String)) (index : Nat) (column : Column) :
    columnWidth (rows.map (List.map visible)) index column.bare =
      columnWidth rows index column := by
  unfold columnWidth Column.bare
  simp only [List.foldl_map, cellAt_map_visible, cellWidth_visible, headerWidth_visible]

theorem layout_bare (columns : List Column) (rows : List (List String)) :
    layout (columns.map Column.bare) (rows.map (List.map visible)) =
      (layout columns rows).map fun (column, width, index) => (column.bare, width, index) := by
  unfold layout
  rw [List.zipIdx_map, List.map_map, List.map_map]
  refine List.map_congr_left fun (column, index) _ => ?_
  exact congrArg (fun width => (column.bare, width, index)) (columnWidth_bare rows index column)

theorem mem_of_mem_layout {columns : List Column} {rows : List (List String)} {column : Column}
    {width index : Nat} (inside : (column, width, index) ∈ layout columns rows) :
    column ∈ columns := by
  rw [← layout_map_fst columns rows]
  exact List.mem_map_of_mem inside

theorem widths_bare (columns : List Column) (rows : List (List String)) :
    widths (columns.map Column.bare) (rows.map (List.map visible)) = widths columns rows := by
  unfold widths
  rw [layout_bare, List.map_map]
  rfl

/-- What holds of the empty text and of every cell holds of a cell that may be missing. -/
theorem cellAt_of_forall {holds : String → Prop} (empty : holds "") {row : List String}
    (each : ∀ cell ∈ row, holds cell) (index : Nat) : holds (cellAt row index) := by
  unfold cellAt
  rw [List.getD_eq_getElem?_getD]
  cases found : row[index]? with
  | none => exact empty
  | some cell => exact each cell (List.mem_of_getElem? found)

section Fields

variable {columns : List Column} {rows : List (List String)}

/-- What holds of headers and cells, and is kept when a field is filled up, holds of all fields. -/
theorem forall_mem_fieldsByLine {holds : String → Prop} (empty : holds "")
    (dashed : ∀ width, holds (dashes width))
    (padded : ∀ side width cell, holds cell → holds (pad side width cell))
    (headers : ∀ column ∈ columns, holds column.header)
    (cells : ∀ row ∈ rows, ∀ cell ∈ row, holds cell) :
    ∀ fields ∈ fieldsByLine columns rows, ∀ field ∈ fields, holds field := by
  have ofTexts : ∀ textAt : Column → Nat → String,
      (∀ column ∈ columns, ∀ index, holds (textAt column index)) →
      ∀ field ∈ fieldsOf columns rows textAt, holds field := by
    intro textAt texts field inside
    obtain ⟨⟨column, width, index⟩, placed, rfl⟩ := List.mem_map.mp inside
    exact padded _ _ _ (texts column (mem_of_mem_layout placed) index)
  intro fields inside
  rcases List.mem_cons.mp inside with rfl | inside
  · exact ofTexts _ fun column member _ => headers column member
  rcases List.mem_cons.mp inside with rfl | inside
  · intro field member
    obtain ⟨width, -, rfl⟩ := List.mem_map.mp member
    exact dashed width
  · obtain ⟨row, member, rfl⟩ := List.mem_map.mp inside
    exact ofTexts _ fun _ _ index => cellAt_of_forall empty (cells row member) index

theorem fieldsOf_bare {textAt bareAt : Column → Nat → String}
    (closed : ∀ column ∈ columns, ∀ index, IsClosed (textAt column index))
    (same : ∀ column index, bareAt column.bare index = visible (textAt column index)) :
    fieldsOf (columns.map Column.bare) (rows.map (List.map visible)) bareAt =
      (fieldsOf columns rows textAt).map visible := by
  unfold fieldsOf
  rw [layout_bare, List.map_map, List.map_map]
  refine List.map_congr_left fun (column, width, index) inside => ?_
  show pad column.side width (bareAt column.bare index) = visible (pad column.side width _)
  rw [same, visible_pad (closed column (mem_of_mem_layout inside) index)]

theorem isClosed_of_mem_fieldsByLine
    (headers : ∀ column ∈ columns, IsClosed column.header)
    (cells : ∀ row ∈ rows, ∀ cell ∈ row, IsClosed cell) :
    ∀ fields ∈ fieldsByLine columns rows, ∀ field ∈ fields, IsClosed field :=
  forall_mem_fieldsByLine (by decide)
    (fun width => isClosed_of_plain (notMem_dashes (by decide) width))
    (fun side width _ closed => isClosed_pad closed side width) headers cells

theorem fieldsByLine_bare
    (headers : ∀ column ∈ columns, IsClosed column.header)
    (cells : ∀ row ∈ rows, ∀ cell ∈ row, IsClosed cell) :
    fieldsByLine (columns.map Column.bare) (rows.map (List.map visible)) =
      (fieldsByLine columns rows).map (List.map visible) := by
  unfold fieldsByLine
  rw [List.map_cons, List.map_cons, widths_bare, map_visible_dashes, List.map_map, List.map_map]
  refine congrArg₂ _ ?_ (congrArg _ (List.map_congr_left fun row inside => ?_))
  · exact fieldsOf_bare (fun column member _ => headers column member) fun _ _ => rfl
  · show fieldsOf _ _ (fun _ index => cellAt (row.map visible) index) = List.map visible _
    exact fieldsOf_bare (fun _ _ index => cellAt_of_forall (by decide) (cells row inside) index)
      fun _ index => cellAt_map_visible row index

/-- **What is visible of a table whose headers and cells are closed is the table of what is visible
of them.** -/
theorem visible_render
    (headers : ∀ column ∈ columns, IsClosed column.header)
    (cells : ∀ row ∈ rows, ∀ cell ∈ row, IsClosed cell) :
    visible (render columns rows) =
      render (columns.map Column.bare) (rows.map (List.map visible)) := by
  have closed := isClosed_of_mem_fieldsByLine headers cells
  have closedLines : ∀ part ∈ (fieldsByLine columns rows).map line, IsClosed part := by
    intro part inside
    obtain ⟨fields, member, rfl⟩ := List.mem_map.mp inside
    exact isClosed_line (closed fields member)
  rw [render_eq_join, render_eq_join, fieldsByLine_bare headers cells, visible_join closedLines,
    List.map_map, List.map_map]
  exact congrArg String.join
    (List.map_congr_left fun fields member => visible_line (closed fields member))

end Fields

/-! ### Painted tables -/

/-- The column under its header as it is, or in some style. -/
def PaintedColumn (terminal : Terminal) (column painted : Column) : Prop :=
  painted.side = column.side ∧ Painted terminal column.header painted.header

section Painted

variable {terminal : Terminal}

theorem PaintedColumn.bare_eq {column painted : Column}
    (paint : PaintedColumn terminal column painted) : painted.bare = column.bare := by
  unfold Column.bare
  rw [paint.1, paint.2.visible_eq]

/-- Related lists look the same through functions that do not tell related items apart. -/
theorem map_eq_of_forall₂ {α β γ : Type} {related : α → β → Prop} {f : α → γ} {g : β → γ}
    (same : ∀ a b, related a b → g b = f a) {before : List α} {after : List β}
    (each : List.Forall₂ related before after) : after.map g = before.map f := by
  rw [← List.forall₂_eq_eq_eq, List.forall₂_map_left_iff, List.forall₂_map_right_iff]
  exact each.flip.imp fun b a paint => same a b paint

/-- What related items hand on is handed on by related lists. -/
theorem forall_mem_of_forall₂ {α β : Type} {related : α → β → Prop} (holds : α → Prop)
    (holds' : β → Prop) (kept : ∀ a b, related a b → holds a → holds' b) {before : List α}
    {after : List β} (each : List.Forall₂ related before after)
    (all : ∀ a ∈ before, holds a) : ∀ b ∈ after, holds' b := by
  induction each with
  | nil => exact fun _ inside => absurd inside List.not_mem_nil
  | cons first _ ih =>
    obtain ⟨head, tail⟩ := List.forall_mem_cons.mp all
    exact List.forall_mem_cons.mpr ⟨kept _ _ first head, ih tail⟩

/-- **A table reads the same, whichever of its headers and cells are painted.** -/
theorem visible_render_of_painted {columns columns' : List Column} {rows rows' : List (List String)}
    (headers : ∀ column ∈ columns, IsClosed column.header)
    (cells : ∀ row ∈ rows, ∀ cell ∈ row, IsClosed cell)
    (paintedHeaders : List.Forall₂ (PaintedColumn terminal) columns columns')
    (paintedCells : List.Forall₂ (List.Forall₂ (Painted terminal)) rows rows') :
    visible (render columns' rows') = visible (render columns rows) := by
  have headers' : ∀ column ∈ columns', IsClosed column.header :=
    forall_mem_of_forall₂ (IsClosed ∘ Column.header) _ (fun _ _ paint => paint.2.isClosed)
      paintedHeaders headers
  have kept : ∀ row row', List.Forall₂ (Painted terminal) row row' →
      (∀ cell ∈ row, IsClosed cell) → ∀ cell ∈ row', IsClosed cell :=
    fun _ _ each => forall_mem_of_forall₂ IsClosed IsClosed (fun _ _ => Painted.isClosed) each
  have cells' : ∀ row ∈ rows', ∀ cell ∈ row, IsClosed cell :=
    forall_mem_of_forall₂ _ _ kept paintedCells cells
  have sameHeaders : columns'.map Column.bare = columns.map Column.bare :=
    map_eq_of_forall₂ (fun _ _ paint => paint.bare_eq) paintedHeaders
  have sameCells : rows'.map (List.map visible) = rows.map (List.map visible) :=
    map_eq_of_forall₂ (fun _ _ each => map_eq_of_forall₂ (fun _ _ paint => paint.visible_eq) each)
      paintedCells
  rw [visible_render headers' cells', visible_render headers cells, sameHeaders, sameCells]

end Painted

/-! ### The table of reports -/

theorem isClosed_toString (n : Nat) : IsClosed (toString n) := by
  refine isClosed_of_plain fun escaped => ?_
  rw [Nat.toString_eq_repr, Nat.toList_repr] at escaped
  exact absurd (Nat.isDigit_of_mem_toDigits (by decide) (by decide) escaped) (by decide)

section Reports

variable {report : Report} (terminal : Terminal)

theorem isClosed_of_mem_row (name : IsClosed report.name) (scope : IsClosed report.scope) :
    ∀ cell ∈ report.row terminal, IsClosed cell := by
  have word : ∀ text : String, escape ∉ text.toList → ∀ style,
      IsClosed (terminal.paint style text) :=
    fun text plain style => (isClosed_of_plain plain).paint terminal style
  unfold Report.row
  simp only [List.forall_mem_cons, List.not_mem_nil, false_implies, implies_true, and_true]
  refine ⟨name, scope, ?_, isClosed_toString _⟩
  split
  · exact word "PASS" (by decide) .green
  · exact word "FAIL" (by decide) .red

/-- What is visible of the row of a report is the same on every terminal. -/
theorem map_visible_row (other : Terminal) :
    (report.row terminal).map visible = (report.row other).map visible := by
  unfold Report.row
  cases report.passed with
  | true => simp only [List.map_cons, if_true, visible_paint]
  | false => simp only [List.map_cons, Bool.false_eq_true, if_false, visible_paint]

theorem visible_reportTable {reports : List Report}
    (closed : ∀ report ∈ reports, IsClosed report.name ∧ IsClosed report.scope)
    (other : Terminal) :
    visible (reportTable terminal reports) = visible (reportTable other reports) := by
  have headers : ∀ column ∈ reportColumns, IsClosed column.header := by decide +kernel
  have cells : ∀ terminal : Terminal, ∀ row ∈ reports.map (Report.row terminal),
      ∀ cell ∈ row, IsClosed cell := by
    intro terminal row inside
    obtain ⟨report, member, rfl⟩ := List.mem_map.mp inside
    exact isClosed_of_mem_row terminal (closed report member).1 (closed report member).2
  unfold reportTable
  rw [visible_render headers (cells terminal), visible_render headers (cells other), List.map_map,
    List.map_map]
  exact congrArg _ (List.map_congr_left fun _ _ => map_visible_row terminal other)

end Reports

/-- **What is visible of a painted text is what is visible of the text, on every terminal and for
every text, also one with an escape sequence that has no end. No escape character is visible, and
nothing more is lost when the visible text is scanned again. What is visible of two texts is what is
visible of each, if the first one is closed. So a table of closed texts reads the same, whichever of
them are painted, and the table of reports reads the same on every terminal.** -/
theorem colour_changes_no_text :
    (∀ (terminal : Terminal) (style : Style) (text : String),
      visible (terminal.paint style text) = visible text) ∧
    (∀ text, escape ∉ (visible text).toList ∧ visible (visible text) = visible text) ∧
    (∀ front back, IsClosed front → visible (front ++ back) = visible front ++ visible back) ∧
    (∀ (terminal : Terminal) (columns columns' : List Column) (rows rows' : List (List String)),
      (∀ column ∈ columns, IsClosed column.header) →
      (∀ row ∈ rows, ∀ cell ∈ row, IsClosed cell) →
      List.Forall₂ (PaintedColumn terminal) columns columns' →
      List.Forall₂ (List.Forall₂ (Painted terminal)) rows rows' →
      visible (render columns' rows') = visible (render columns rows)) ∧
    ∀ (terminal other : Terminal) (reports : List Report),
      (∀ report ∈ reports, IsClosed report.name ∧ IsClosed report.scope) →
      visible (reportTable terminal reports) = visible (reportTable other reports) :=
  ⟨visible_paint, fun text => ⟨escape_notMem_visible text, visible_visible text⟩,
    fun _ back closed => visible_append closed back,
    fun _ _ _ _ _ => visible_render_of_painted,
    fun terminal other _ closed => visible_reportTable terminal closed other⟩

/-- On a terminal with colours: a text that breaks off in a sequence, a text in front of another
one, a table with a header and a cell in colour, and the table of a report. -/
theorem painted_texts_read_alike :
    let terminal : Terminal := { colour := true }
    let report : Report :=
      { name := "reader", scope := "/", passed := true, failures := [], checkedAt := "" }
    visible (terminal.paint .red "kv\x1b[3") = "kv" ∧
    IsClosed "\x1b[1mkv\x1b[0m" ∧ visible ("\x1b[1mkv\x1b[0m" ++ "-admin") = "kv-admin" ∧
    visible (render [{ header := "\x1b[1mCheck\x1b[0m" }]
        [["\x1b[31mkv-admin\x1b[0m"], ["reader"]]) =
      "  Check     \n  --------  \n  kv-admin  \n  reader    \n" ∧
    reportTable terminal [report] ≠ reportTable {} [report] ∧
    visible (reportTable terminal [report]) = visible (reportTable {} [report]) := by
  intro terminal report
  obtain ⟨paint, -, append, tables, reports⟩ := colour_changes_no_text
  have closed : IsClosed "\x1b[1mkv\x1b[0m" := by decide +kernel
  have painted := tables terminal [{ header := "Check" }] [{ header := "\x1b[1mCheck\x1b[0m" }]
    [["kv-admin"], ["reader"]] [["\x1b[31mkv-admin\x1b[0m"], ["reader"]] (by decide +kernel)
    (by decide +kernel) (.cons ⟨rfl, .inr ⟨.bold, by decide +kernel⟩⟩ .nil)
    (.cons (.cons (.inr ⟨.red, by decide +kernel⟩) .nil) (.cons (.cons (.inl rfl) .nil) .nil))
  refine ⟨?_, closed, ?_, ?_, ?_, ?_⟩
  · rw [paint]
    decide +kernel
  · rw [append _ "-admin" closed]
    decide +kernel
  · rw [painted]
    decide +kernel
  · decide +kernel
  · exact reports terminal {} [report] (by decide +kernel)

end Table

end AccessAudit.Text
