/-
**Tables as they are read.**

A table whose headers and cells stay on their lines, and close their escape sequences, is read as a
rectangle. Every line has the same length, and each column begins at the same place in every line,
which the widths of the columns in front of it tell. There the whole of a text is found, with blanks
behind it or in front of it up to the width of the column, and beside the fields there is nothing in
a line but two blanks in front of each of them and two at the end.

* `lines_render`: the lines of a table;
* `fieldAt`: the part of a line that belongs to a column, and `fieldAt_fieldLine`;
* `Holds`: a field with the whole of a text in it;
* `Shows`, `shows_fieldLine`: a line that holds a text for each column;
* `StaysInCell`: a text that neither breaks its line nor leaves a sequence open;
* `lines_visible_render`: the lines of what is visible of a table.
-/
import AccessAudit.Proofs.PaintedTables

namespace AccessAudit.Text.Table

/-! ### The lines of a table and their fields -/

section Lines

variable {columns : List Column} {rows : List (List String)}

theorem lines_join_line {fieldLists : List (List String)}
    (unbroken : ∀ fields ∈ fieldLists, ∀ field ∈ fields, '\n' ∉ field.toList) :
    lines (String.join (fieldLists.map line)) = fieldLists.map fieldLine := by
  induction fieldLists with
  | nil => exact lines_empty
  | cons fields fieldLists ih =>
    obtain ⟨first, others⟩ := List.forall_mem_cons.mp unbroken
    have whole : '\n' ∉ (fieldLine fields).toList := by
      rw [mem_fieldLine_iff (by decide)]
      rintro ⟨field, member, broken⟩
      exact first field member broken
    rw [List.map_cons, String.join_cons, line_eq, lines_cons whole, ih others, List.map_cons]

/-- **The lines of a table without line breaks in it are those of its fields.** -/
theorem lines_render
    (headers : ∀ column ∈ columns, '\n' ∉ column.header.toList)
    (cells : ∀ row ∈ rows, ∀ cell ∈ row, '\n' ∉ cell.toList) :
    lines (render columns rows) = (fieldsByLine columns rows).map fieldLine := by
  have unbroken := forall_mem_fieldsByLine (by decide) (notMem_dashes (by decide))
    (fun side width cell whole => ?_) headers cells
  · rw [render_eq_join, lines_join_line unbroken]
  · rw [← List.count_eq_zero] at whole ⊢
    rw [count_pad (by decide), whole]

end Lines

/-! ### Where a field is -/

/-- Where a column begins in a line. -/
def columnStart (widths : List Nat) (index : Nat) : Nat :=
  ((widths.take index).map (2 + ·)).sum + 2

/-- The part of a line that belongs to a column. -/
def fieldAt (widths : List Nat) (index : Nat) (line : String) : String :=
  String.ofList ((line.toList.drop (columnStart widths index)).take (widths.getD index 0))

/-- The parts of a line that belong to the columns. -/
def fieldsAt (widths : List Nat) (line : String) : List String :=
  (List.range widths.length).map fun index => fieldAt widths index line

section Position

variable {fields : List String}

/-- How long a line is depends on the lengths of its fields. -/
theorem length_fieldLine (fields : List String) :
    (fieldLine fields).length = ((fields.map String.length).map (2 + ·)).sum +
      if fields.map String.length = [] then 4 else 2 := by
  simp only [List.map_eq_nil_iff]
  rw [fieldLine_eq_join, String.length_append, String.length_join, List.map_map, List.map_map,
    blanks, String.length_ofList, List.length_replicate]
  congr 2
  exact List.map_congr_left fun field _ => String.length_append _ _

theorem columnStart_cons (width : Nat) (widths : List Nat) (index : Nat) :
    columnStart (width :: widths) (index + 1) = 2 + width + columnStart widths index := by
  unfold columnStart
  rw [List.take_succ_cons, List.map_cons, List.sum_cons]
  omega

/-- Behind the fields in front of it and the gap comes the field, whatever follows. -/
theorem take_drop_columnStart (rest : List Char) {index : Nat} {field : String}
    (found : fields[index]? = some field) :
    (((fields.flatMap fun field => ' ' :: ' ' :: field.toList) ++ rest).drop
        (columnStart (fields.map String.length) index)).take field.length = field.toList := by
  induction fields generalizing index with
  | nil => cases found
  | cons first fields ih =>
    rw [List.flatMap_cons, List.append_assoc]
    cases index with
    | zero =>
      cases Option.some.inj found
      show (field.toList ++ _).take field.length = field.toList
      rw [← String.length_toList, List.take_left]
    | succ index =>
      have skipped : (' ' :: ' ' :: first.toList).length = 2 + first.length := by
        rw [List.length_cons, List.length_cons, String.length_toList]
        omega
      rw [List.map_cons, columnStart_cons, ← skipped, ← List.drop_drop, List.drop_left]
      exact ih found

/-- **The part of a line that belongs to a column is the field of the column.** -/
theorem fieldAt_fieldLine {index : Nat} {field : String} (found : fields[index]? = some field) :
    fieldAt (fields.map String.length) index (fieldLine fields) = field := by
  have wide : (fields.map String.length).getD index 0 = field.length := by
    rw [List.getD_eq_getElem?_getD, List.getElem?_map, found]
    rfl
  unfold fieldAt
  rw [wide, toList_fieldLine, take_drop_columnStart _ found, String.ofList_toList]

/-- A line has no other parts than its fields. -/
theorem fieldsAt_fieldLine (fields : List String) :
    fieldsAt (fields.map String.length) (fieldLine fields) = fields := by
  refine List.ext_getElem? fun index => ?_
  unfold fieldsAt
  rw [List.getElem?_map, List.length_map]
  by_cases inside : index < fields.length
  · rw [List.getElem?_range inside, List.getElem?_eq_getElem inside, Option.map_some,
      fieldAt_fieldLine (List.getElem?_eq_getElem inside)]
  · rw [List.getElem?_eq_none (by simpa using inside),
      List.getElem?_eq_none (by simpa using inside)]
    rfl

end Position

/-! ### What the fields hold -/

/-- The field is as wide as its column, and the whole text is in it, with blanks behind the text or
in front of it. -/
inductive Holds (width : Nat) (text : String) : Side → String → Prop
  | left (filling : Nat) (fills : text.length + filling = width) :
      Holds width text .left (text ++ blanks filling)
  | right (filling : Nat) (fills : text.length + filling = width) :
      Holds width text .right (blanks filling ++ text)

/-- The line holds the text of each column in the field of the column. -/
def Shows (columns : List Column) (widths : List Nat) (textAt : Column → Nat → String)
    (line : String) : Prop :=
  ∀ index column width, columns[index]? = some column → widths[index]? = some width →
    Holds width (textAt column index) column.side (fieldAt widths index line)

/-- A text that stays on its line and in its cell: it has no line break, and it closes its escape
sequences. -/
structure StaysInCell (text : String) : Prop where
  unbroken : '\n' ∉ text.toList
  closed : IsClosed text

instance : DecidablePred StaysInCell := fun text =>
  decidable_of_iff ('\n' ∉ text.toList ∧ IsClosed text)
    ⟨fun stays => ⟨stays.1, stays.2⟩, fun stays => ⟨stays.unbroken, stays.closed⟩⟩

theorem length_blanks (n : Nat) : (blanks n).length = n := by
  unfold blanks
  rw [String.length_ofList, List.length_replicate]

theorem Holds.length_eq {width : Nat} {text field : String} {side : Side}
    (held : Holds width text side field) : field.length = width := by
  cases held with
  | left filling fills => rw [String.length_append, length_blanks, fills]
  | right filling fills => rw [String.length_append, length_blanks, Nat.add_comm, fills]

theorem holds_pad {text : String} {width : Nat} (fits : cellWidth text ≤ width) (side : Side) :
    Holds width (visible text) side (pad side width (visible text)) := by
  have fills : (visible text).length + (width - cellWidth (visible text)) = width := by
    rw [cellWidth_visible]
    exact Nat.add_sub_cancel' fits
  cases side with
  | left => exact .left _ fills
  | right => exact .right _ fills

/-! ### The lines of what is visible -/

section Texts

variable {columns : List Column} {rows : List (List String)} {textAt : Column → Nat → String}
  (closed : ∀ column ∈ columns, ∀ index, IsClosed (textAt column index))
  (fits : ∀ column index, cellWidth (textAt column index) ≤ columnWidth rows index column)

include closed fits

/-- The fields of closed texts, without escape sequences, hold what is visible of the texts. -/
theorem holds_of_getElem? {index : Nat} {column : Column} (found : columns[index]? = some column) :
    ∃ field, ((fieldsOf columns rows textAt).map visible)[index]? = some field ∧
      Holds (columnWidth rows index column) (visible (textAt column index)) column.side field := by
  refine ⟨_, ?_, holds_pad (fits column index) column.side⟩
  rw [List.getElem?_map, fieldsOf_getElem?, found, Option.map_some, Option.map_some,
    visible_pad (closed column (List.mem_of_getElem? found) index)]

theorem length_visible_fields :
    ((fieldsOf columns rows textAt).map visible).map String.length = widths columns rows := by
  refine List.ext_getElem? fun index => ?_
  rw [List.getElem?_map, widths_getElem?]
  cases found : columns[index]? with
  | none =>
    rw [List.getElem?_map, fieldsOf_getElem?, found]
    rfl
  | some column =>
    obtain ⟨field, placed, held⟩ := holds_of_getElem? closed fits found
    rw [placed, Option.map_some, Option.map_some, held.length_eq]

theorem shows_fieldLine :
    Shows columns (widths columns rows) (fun column index => visible (textAt column index))
      (fieldLine ((fieldsOf columns rows textAt).map visible)) := by
  intro index column width found wide
  obtain ⟨field, placed, held⟩ := holds_of_getElem? closed fits found
  rw [widths_getElem?, found, Option.map_some, Option.some.injEq] at wide
  rw [← length_visible_fields closed fits, fieldAt_fieldLine placed, ← wide]
  exact held

end Texts

section Fits

variable {columns : List Column} {rows : List (List String)}

theorem header_fits (column : Column) (index : Nat) :
    cellWidth column.header ≤ columnWidth rows index column :=
  cellWidth_le_columnWidth List.mem_cons_self

theorem cellAt_fits {row : List String} (inside : row ∈ rows) (column : Column) (index : Nat) :
    cellWidth (cellAt row index) ≤ columnWidth rows index column := by
  cases found : row[index]? with
  | none =>
    rw [cellWidth_cellAt_of_none found]
    exact Nat.zero_le _
  | some cell =>
    rw [cellAt_of_getElem? found]
    exact cellWidth_le_columnWidth
      (List.mem_cons_of_mem _ (List.mem_filterMap.mpr ⟨row, inside, found⟩))

/-- The fields of every line, without escape sequences, are as wide as their columns. -/
theorem length_of_mem_fieldsByLine
    (headers : ∀ column ∈ columns, IsClosed column.header)
    (cells : ∀ row ∈ rows, ∀ cell ∈ row, IsClosed cell) :
    ∀ fields ∈ fieldsByLine columns rows,
      (fields.map visible).map String.length = widths columns rows := by
  intro fields inside
  rcases List.mem_cons.mp inside with rfl | inside
  · exact length_visible_fields (fun column member _ => headers column member) header_fits
  rcases List.mem_cons.mp inside with rfl | inside
  · rw [map_visible_dashes, List.map_map]
    refine List.map_id'' (fun width => ?_) _
    show (dashes width).length = width
    rw [dashes, String.length_ofList, List.length_replicate]
  · obtain ⟨row, member, rfl⟩ := List.mem_map.mp inside
    exact length_visible_fields
      (fun _ _ index => cellAt_of_forall (by decide) (cells row member) index)
      (cellAt_fits member)

end Fits

section Stays

variable {columns : List Column} {rows : List (List String)}
  (headers : ∀ column ∈ columns, StaysInCell column.header)
  (cells : ∀ row ∈ rows, ∀ cell ∈ row, StaysInCell cell)

include headers cells

/-- **What is visible of a table has the lines of what is visible of its fields.** -/
theorem lines_visible_render :
    lines (visible (render columns rows)) =
      (fieldsByLine columns rows).map fun fields => fieldLine (fields.map visible) := by
  have closed := fun column inside => (headers column inside).closed
  have closed' := fun row inside cell member => (cells row inside cell member).closed
  rw [visible_render closed closed', lines_render, fieldsByLine_bare closed closed', List.map_map]
  · rfl
  · intro column inside broken
    obtain ⟨column, member, rfl⟩ := List.mem_map.mp inside
    exact (headers column member).unbroken (mem_visible broken).1
  · intro row inside cell member broken
    obtain ⟨row, inside', rfl⟩ := List.mem_map.mp inside
    obtain ⟨cell, member', rfl⟩ := List.mem_map.mp member
    exact (cells row inside' cell member').unbroken (mem_visible broken).1

/-- The lines of what is visible are the lines of the table, without their escape sequences. -/
theorem lines_visible_render_eq_map :
    lines (visible (render columns rows)) = (lines (render columns rows)).map visible := by
  have closed := isClosed_of_mem_fieldsByLine (fun column inside => (headers column inside).closed)
    fun row inside cell member => (cells row inside cell member).closed
  rw [lines_visible_render headers cells, lines_render
    (fun column inside => (headers column inside).unbroken)
    fun row inside cell member => (cells row inside cell member).unbroken, List.map_map]
  exact List.map_congr_left fun fields inside => (visible_fieldLine (closed fields inside)).symm

/-- Every line of what is visible is one of fields as wide as their columns. -/
theorem exists_fields_of_mem_lines {line : String}
    (inside : line ∈ lines (visible (render columns rows))) :
    ∃ fields, fields.map String.length = widths columns rows ∧ line = fieldLine fields := by
  rw [lines_visible_render headers cells] at inside
  obtain ⟨fields, member, rfl⟩ := List.mem_map.mp inside
  exact ⟨fields.map visible, length_of_mem_fieldsByLine
    (fun column inside => (headers column inside).closed)
    (fun row inside cell member => (cells row inside cell member).closed) fields member, rfl⟩

end Stays

/-- **A table whose headers and cells stay in their cells has two lines more than it has rows. What
is visible of it has the same lines, without their escape sequences. These are all of the same
length, and nothing is in them but the fields of the columns, each of which begins at the same place
in every line, with two blanks before, between and behind them. The fields hold the headers in the
first line, dashes in the second one, and the cells of a row in each of the others, whole and filled
up with blanks to the width of the column; a cell that a row lacks is empty.** -/
theorem tables_are_rectangular {columns : List Column} {rows : List (List String)}
    (headers : ∀ column ∈ columns, StaysInCell column.header)
    (cells : ∀ row ∈ rows, ∀ cell ∈ row, StaysInCell cell) :
    let widths := widths columns rows
    let shown := lines (visible (render columns rows))
    (lines (render columns rows)).length = rows.length + 2 ∧
    shown = (lines (render columns rows)).map visible ∧
    widths.length = columns.length ∧
    (∃ length, ∀ line ∈ shown, line.length = length) ∧
    (∀ line ∈ shown, line = fieldLine (fieldsAt widths line)) ∧
    ∃ header body, shown = header :: fieldLine (widths.map dashes) :: body ∧
      Shows columns widths (fun column _ => visible column.header) header ∧
      List.Forall₂ (fun row line =>
        Shows columns widths (fun _ index => visible (cellAt row index)) line) rows body := by
  intro widths shown
  have bare : shown = (lines (render columns rows)).map visible :=
    lines_visible_render_eq_map headers cells
  have byFields : shown = (fieldsByLine columns rows).map fun fields =>
    fieldLine (fields.map visible) := lines_visible_render headers cells
  refine ⟨?_, bare, length_widths columns rows, ?_, ?_, ?_⟩
  · have count := congrArg List.length (bare.symm.trans byFields)
    rwa [List.length_map, List.length_map, length_fieldsByLine] at count
  · refine ⟨(widths.map (2 + ·)).sum + if widths = [] then 4 else 2, fun line inside => ?_⟩
    obtain ⟨fields, wide, rfl⟩ := exists_fields_of_mem_lines headers cells inside
    rw [length_fieldLine, wide]
  · intro line inside
    obtain ⟨fields, wide, rfl⟩ := exists_fields_of_mem_lines headers cells inside
    show _ = fieldLine (fieldsAt (Table.widths columns rows) _)
    rw [← wide, fieldsAt_fieldLine]
  · refine ⟨fieldLine ((fieldsOf columns rows fun column _ => column.header).map visible),
      rows.map fun row => fieldLine ((fieldsOf columns rows fun _ index => cellAt row index).map
        visible), ?_, ?_, ?_⟩
    · rw [byFields, fieldsByLine, List.map_cons, List.map_cons, map_visible_dashes, List.map_map]
      rfl
    · exact shows_fieldLine (fun column member _ => (headers column member).closed) header_fits
    · rw [List.forall₂_map_right_iff, List.forall₂_same]
      intro row inside
      exact shows_fieldLine (fun _ _ index => cellAt_of_forall (by decide)
        (fun cell member => (cells row inside cell member).closed) index) (cellAt_fits inside)

/-- The two columns of a table with a text in colour, a text in another script, a short row and a
long one. -/
theorem coloured_table_is_rectangular :
    let columns : List Column := [{ header := "Check" }, { header := "Failures", side := .right }]
    let rows := [["storage-reader", "0"], ["\x1b[31mkv-admin\x1b[0m", "12", "?"], ["übrig"]]
    (lines (render columns rows)).length = 5 ∧
    (∃ length, ∀ line ∈ lines (visible (render columns rows)), line.length = length) ∧
    (lines (visible (render columns rows)))[3]? = some "  kv-admin              12  " ∧
    Holds 14 "kv-admin" .left "kv-admin      " ∧ Holds 8 "12" .right "      12" := by
  intro columns rows
  have shown : lines (visible (render columns rows)) =
      ["  Check           Failures  ", "  --------------  --------  ",
        "  storage-reader         0  ", "  kv-admin              12  ",
        "  übrig                     "] := by
    rw [lines_visible_render (by decide +kernel) (by decide +kernel)]
    decide +kernel
  obtain ⟨count, -, -, same, -, header, body, split, -, held⟩ :=
    @tables_are_rectangular columns rows (by decide +kernel) (by decide +kernel)
  rw [shown] at split
  cases split
  have second := (List.forall₂_cons.mp (List.forall₂_cons.mp held).2).1
  refine ⟨count, same, by rw [shown]; rfl, ?_, ?_⟩
  · exact second 0 { header := "Check" } 14 rfl (by decide +kernel)
  · exact second 1 { header := "Failures", side := .right } 8 rfl (by decide +kernel)

end AccessAudit.Text.Table
