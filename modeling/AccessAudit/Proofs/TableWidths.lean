/-
**The widths of the columns of a table.**

A line of a table is made of fields, one for each column, with two blanks before, between and behind
them. First come the headers, then the dashes, then the rows, and after every line there is a line
break. The fields of the dashes tell how wide the columns are, and no header can hide them: behind
as many line breaks as the headers hold there is one more, and then the line of dashes.

A column is meant to be as wide as its widest text, and its cells are measured by their visible
characters. The header is measured by the bytes of its visible characters. A character takes a byte
at least, so no column is too narrow, but a header with characters of several bytes makes its column
wider than any text in it unless another text fills that width.

* `lines`: the lines of a text, and `lines_cons`: how to come by the first one;
* `fieldsByLine`, `render_eq_join`: a table by its lines and their fields;
* `fieldLine_eq_join`: a line by its fields and the blanks beside them;
* `lines_getElem?_render`: where the line of dashes is;
* `columnTexts`, `cellWidth_le_columnWidth`: the texts of a column, which are no wider than it is;
* `exists_columnWidth_eq_max`: the width of a column by its texts and the bytes of its header.
-/
import AccessAudit.Text.Table
import Mathlib

namespace AccessAudit.Text

/-! ### The lines of a text -/

/-- The parts of a text between its line breaks. -/
def pieces (text : String) : List String :=
  (text.toList.splitOn '\n').map String.ofList

/-- The lines of a text, each of which ends with a line break. What stands behind the last line
break is a line as well, unless it is empty. -/
def lines (text : String) : List String :=
  if (pieces text).getLast? = some "" then (pieces text).dropLast else pieces text

theorem pieces_ne_nil (text : String) : pieces text ≠ [] := by
  unfold pieces
  rw [ne_eq, List.map_eq_nil_iff]
  exact List.splitOn_ne_nil _ _

theorem pieces_append (front back : String) :
    pieces (front ++ "\n" ++ back) = pieces front ++ pieces back := by
  unfold pieces
  rw [← List.map_append, ← List.splitOn_append_cons_self]
  simp [String.toList_append]

theorem pieces_of_unbroken {text : String} (unbroken : '\n' ∉ text.toList) :
    pieces text = [text] := by
  unfold pieces
  rw [List.splitOn_eq_singleton unbroken, List.map_singleton, String.ofList_toList]

theorem length_pieces (text : String) : (pieces text).length = text.toList.count '\n' + 1 := by
  unfold pieces
  rw [List.length_map]
  induction text.toList with
  | nil => rfl
  | cons c cs ih =>
    rw [List.splitOn_cons_eq_if_modifyHead, List.count_cons]
    split_ifs with broken
    · rw [List.length_cons, ih]
    · rw [List.length_modifyHead, ih, Nat.add_zero]

theorem lines_empty : lines "" = [] := by decide +kernel

theorem lines_append (front back : String) :
    lines (front ++ "\n" ++ back) = pieces front ++ lines back := by
  unfold lines
  rw [pieces_append, List.getLast?_append_of_ne_nil _ (pieces_ne_nil back),
    List.dropLast_append_of_ne_nil (pieces_ne_nil back)]
  split_ifs <;> rfl

theorem lines_cons {line : String} (unbroken : '\n' ∉ line.toList) (rest : String) :
    lines (line ++ "\n" ++ rest) = line :: lines rest := by
  rw [lines_append, pieces_of_unbroken unbroken, List.singleton_append]

namespace Table

/-! ### The lines of a table -/

/-- A line of these fields, without its line break. -/
def fieldLine (fields : List String) : String :=
  "  " ++ "  ".intercalate fields ++ "  "

/-- A field of dashes. -/
def dashes (width : Nat) : String :=
  String.ofList (List.replicate width '-')

/-- The width of each column. -/
def widths (columns : List Column) (rows : List (List String)) : List Nat :=
  (layout columns rows).map fun (_, width, _) => width

/-- The fields of a line that shows a text in each column. -/
def fieldsOf (columns : List Column) (rows : List (List String))
    (textAt : Column → Nat → String) : List String :=
  (layout columns rows).map fun (column, width, index) =>
    pad column.side width (textAt column index)

/-- The fields of each line: of the headers, of the dashes, and of the rows. -/
def fieldsByLine (columns : List Column) (rows : List (List String)) : List (List String) :=
  fieldsOf columns rows (fun column _ => column.header) ::
    (widths columns rows).map dashes ::
    rows.map fun row => fieldsOf columns rows fun _ index => cellAt row index

theorem line_eq (fields : List String) : line fields = fieldLine fields ++ "\n" := by
  rw [String.ext_iff]
  simp [line, fieldLine, String.toList_append]

theorem length_fieldsByLine (columns : List Column) (rows : List (List String)) :
    (fieldsByLine columns rows).length = rows.length + 2 := by
  unfold fieldsByLine
  rw [List.length_cons, List.length_cons, List.length_map]

/-- A table is its lines, one after another. -/
theorem render_eq_join (columns : List Column) (rows : List (List String)) :
    render columns rows = String.join ((fieldsByLine columns rows).map line) := by
  unfold fieldsByLine
  rw [List.map_cons, List.map_cons, String.join_cons, String.join_cons, ← String.append_assoc,
    List.map_map]
  unfold render widths
  rw [List.map_map]
  rfl

/-- **A line is its fields with two blanks in front of each, and blanks at the end.** -/
theorem fieldLine_eq_join (fields : List String) :
    fieldLine fields =
      String.join (fields.map ("  " ++ ·)) ++ blanks (if fields = [] then 4 else 2) := by
  unfold fieldLine
  induction fields with
  | nil => decide +kernel
  | cons field fields ih =>
    rw [List.map_cons, String.join_cons, if_neg (List.cons_ne_nil _ _)]
    cases fields with
    | nil => simp [blanks]
    | cons next fields =>
      rw [if_neg (List.cons_ne_nil _ _)] at ih
      calc "  " ++ "  ".intercalate (field :: next :: fields) ++ "  "
          = "  " ++ field ++ ("  " ++ "  ".intercalate (next :: fields) ++ "  ") := by
            rw [String.intercalate_cons_cons]
            simp only [String.append_assoc]
        _ = "  " ++ field ++ String.join ((next :: fields).map ("  " ++ ·)) ++ blanks 2 := by
            rw [ih, ← String.append_assoc]

theorem toList_fieldLine (fields : List String) :
    (fieldLine fields).toList = fields.flatMap (fun field => ' ' :: ' ' :: field.toList) ++
      List.replicate (if fields = [] then 4 else 2) ' ' := by
  rw [fieldLine_eq_join, String.toList_append, String.toList_join, List.flatMap_map, blanks,
    String.toList_ofList]
  simp

/-- Characters other than blanks are in the fields alone. -/
theorem count_fieldLine {c : Char} (dark : c ≠ ' ') (fields : List String) :
    (fieldLine fields).toList.count c = (fields.map fun field => field.toList.count c).sum := by
  rw [toList_fieldLine, List.count_append, List.count_flatMap, List.count_replicate,
    if_neg (by simpa using dark.symm), Nat.add_zero]
  congr 1
  refine List.map_congr_left fun field _ => ?_
  simp [dark.symm]

theorem mem_fieldLine_iff {c : Char} (dark : c ≠ ' ') {fields : List String} :
    c ∈ (fieldLine fields).toList ↔ ∃ field ∈ fields, c ∈ field.toList := by
  rw [toList_fieldLine]
  simp [dark]

section Layout

variable (columns : List Column) (rows : List (List String))

theorem layout_getElem? (index : Nat) :
    (layout columns rows)[index]? =
      columns[index]?.map fun column => (column, columnWidth rows index column, index) := by
  unfold layout
  rw [List.getElem?_map, List.getElem?_zipIdx, Option.map_map, Nat.zero_add]
  rfl

theorem layout_map_fst : (layout columns rows).map Prod.fst = columns := by
  unfold layout
  rw [List.map_map]
  exact List.zipIdx_map_fst 0 columns

theorem widths_getElem? (index : Nat) :
    (widths columns rows)[index]? = columns[index]?.map (columnWidth rows index) := by
  unfold widths
  rw [List.getElem?_map, layout_getElem?, Option.map_map]
  rfl

theorem length_widths : (widths columns rows).length = columns.length := by
  unfold widths layout
  rw [List.length_map, List.length_map, List.length_zipIdx]

theorem fieldsOf_getElem? (textAt : Column → Nat → String) (index : Nat) :
    (fieldsOf columns rows textAt)[index]? = columns[index]?.map fun column =>
      pad column.side (columnWidth rows index column) (textAt column index) := by
  unfold fieldsOf
  rw [List.getElem?_map, layout_getElem?, Option.map_map]
  rfl

end Layout

/-! ### The line of dashes -/

theorem notMem_dashes {c : Char} (other : c ≠ '-') (width : Nat) : c ∉ (dashes width).toList := by
  unfold dashes
  rw [String.toList_ofList, List.mem_replicate]
  exact fun found => other found.2

theorem toList_pad (side : Side) (width : Nat) (cell : String) :
    ∃ before after, (pad side width cell).toList =
      List.replicate before ' ' ++ cell.toList ++ List.replicate after ' ' := by
  cases side with
  | left => exact ⟨0, width - cellWidth cell, by simp [pad, blanks]⟩
  | right => exact ⟨width - cellWidth cell, 0, by simp [pad, blanks]⟩

theorem count_pad {c : Char} (dark : c ≠ ' ') (side : Side) (width : Nat) (cell : String) :
    (pad side width cell).toList.count c = cell.toList.count c := by
  obtain ⟨before, after, padded⟩ := toList_pad side width cell
  rw [padded]
  simp [List.count_replicate, dark.symm]

theorem unbroken_dashLine (widths : List Nat) :
    '\n' ∉ (fieldLine (widths.map dashes)).toList := by
  rw [mem_fieldLine_iff (by decide)]
  rintro ⟨field, inside, broken⟩
  obtain ⟨width, -, rfl⟩ := List.mem_map.mp inside
  exact notMem_dashes (by decide) width broken

/-- The line of headers has the line breaks of the headers. -/
theorem count_headerLine (columns : List Column) (rows : List (List String)) :
    (fieldLine (fieldsOf columns rows fun column _ => column.header)).toList.count '\n' =
      (columns.map fun column => column.header.toList.count '\n').sum := by
  have counted := congrArg (List.map fun column : Column => column.header.toList.count '\n')
    (layout_map_fst columns rows)
  rw [count_fieldLine (by decide), ← counted, fieldsOf, List.map_map, List.map_map]
  exact congrArg List.sum (List.map_congr_left fun _ _ => count_pad (by decide) _ _ _)

/-- **The line of dashes comes behind the line of headers, and that one holds as many line breaks as
the headers.** -/
theorem lines_getElem?_render (columns : List Column) (rows : List (List String)) :
    (lines (render columns rows))[(columns.map fun column =>
        column.header.toList.count '\n').sum + 1]? =
      some (fieldLine ((widths columns rows).map dashes)) := by
  rw [render_eq_join, fieldsByLine, List.map_cons, String.join_cons, line_eq, lines_append,
    List.map_cons, String.join_cons, line_eq, lines_cons (unbroken_dashLine _)]
  rw [← count_headerLine columns rows, ← length_pieces, List.getElem?_append_right (Nat.le_refl _),
    Nat.sub_self]
  rfl

/-! ### The widest text of a column -/

/-- The texts of a column: its header, and its cell in each row that has one. -/
def columnTexts (rows : List (List String)) (index : Nat) (column : Column) : List String :=
  column.header :: rows.filterMap (·[index]?)

theorem cellWidth_empty : cellWidth "" = 0 := by decide +kernel

theorem cellAt_of_getElem? {row : List String} {index : Nat} {cell : String}
    (found : row[index]? = some cell) : cellAt row index = cell := by
  rw [cellAt, List.getD_eq_getElem?_getD, found, Option.getD_some]

/-- A row that is too short adds nothing to the width. -/
theorem cellWidth_cellAt_of_none {row : List String} {index : Nat} (missing : row[index]? = none) :
    cellWidth (cellAt row index) = 0 := by
  rw [cellAt, List.getD_eq_getElem?_getD, missing, Option.getD_none, cellWidth_empty]

/-- What the header takes in bytes can be set apart from what the texts take. -/
theorem foldl_max_cellWidth (rows : List (List String)) (index bytes width : Nat) :
    rows.foldl (fun width row => max width (cellWidth (cellAt row index))) (max bytes width) =
      max bytes (((rows.filterMap (·[index]?)).map cellWidth).foldl max width) := by
  induction rows generalizing width with
  | nil => rfl
  | cons row rows ih =>
    rw [List.foldl_cons, List.filterMap_cons]
    cases found : row[index]? with
    | none => rw [cellWidth_cellAt_of_none found, Nat.max_zero, ih]
    | some cell =>
      rw [cellAt_of_getElem? found, Nat.max_assoc, ih, List.map_cons, List.foldl_cons]

/-- A character takes a byte at least. -/
theorem cellWidth_le_headerWidth (text : String) : cellWidth text ≤ headerWidth text := by
  unfold cellWidth headerWidth
  rw [← String.length_toList, ← String.utf8Len_toList]
  induction (visible text).toList with
  | nil => exact Nat.le_refl _
  | cons c cs ih =>
    have filled := c.utf8Size_pos
    rw [List.length_cons, String.utf8Len_cons]
    omega

/-- A character of ASCII takes one byte. -/
theorem headerWidth_of_ascii {text : String}
    (ascii : ∀ c ∈ (visible text).toList, c.val ≤ 127) : headerWidth text = cellWidth text := by
  unfold cellWidth headerWidth
  rw [← String.length_toList, ← String.utf8Len_toList]
  generalize (visible text).toList = cs at ascii
  induction cs with
  | nil => rfl
  | cons c cs ih =>
    obtain ⟨first, others⟩ := List.forall_mem_cons.mp ascii
    rw [String.utf8Len_cons, List.length_cons, ih others, Char.utf8Size_eq_one_iff.mpr first]

/-- **A column is as wide as its widest text, or as the bytes of its header.** -/
theorem exists_columnWidth_eq_max (rows : List (List String)) (index : Nat) (column : Column) :
    ∃ widest, ((columnTexts rows index column).map cellWidth).max? = some widest ∧
      columnWidth rows index column = max (headerWidth column.header) widest := by
  refine ⟨_, List.max?_cons', ?_⟩
  -- The fold begins with the bytes of the header, which leave nothing to its characters.
  rw [← foldl_max_cellWidth, Nat.max_eq_left (cellWidth_le_headerWidth _)]
  rfl

/-- No text of a column is wider than the column. -/
theorem cellWidth_le_columnWidth {rows : List (List String)} {index : Nat} {column : Column}
    {text : String} (inside : text ∈ columnTexts rows index column) :
    cellWidth text ≤ columnWidth rows index column := by
  obtain ⟨widest, greatest, wide⟩ := exists_columnWidth_eq_max rows index column
  have below := (List.max?_eq_some_iff.mp greatest).2 _ (List.mem_map_of_mem inside)
  omega

/-- **In every table the line of dashes comes behind the line of headers, with a run of dashes for
each column. The run is as long as the widest text of the column, by the visible characters of its
header and of its cells, or as the bytes of what is visible of the header, whichever is more. So it
is as long as the widest text exactly when the header takes no more bytes than that, as it does when
it is in ASCII.** -/
theorem columns_are_as_wide_as_texts_or_header_bytes (columns : List Column)
    (rows : List (List String)) :
    (lines (render columns rows))[(columns.map fun column =>
        column.header.toList.count '\n').sum + 1]? =
      some (fieldLine ((widths columns rows).map dashes)) ∧
    (widths columns rows).length = columns.length ∧
    ∀ index column, columns[index]? = some column → ∃ width widest,
      (widths columns rows)[index]? = some width ∧
      ((columnTexts rows index column).map fun text => (visible text).length).max? = some widest ∧
      width = max (visible column.header).utf8ByteSize widest ∧
      (width = widest ↔ (visible column.header).utf8ByteSize ≤ widest) ∧
      ((∀ c ∈ (visible column.header).toList, c.val ≤ 127) → width = widest) := by
  refine ⟨lines_getElem?_render columns rows, length_widths columns rows, ?_⟩
  intro index column found
  obtain ⟨widest, greatest, wide⟩ := exists_columnWidth_eq_max rows index column
  have exactly : columnWidth rows index column = widest ↔ headerWidth column.header ≤ widest := by
    omega
  refine ⟨columnWidth rows index column, widest, ?_, greatest, wide, exactly, fun ascii => ?_⟩
  · rw [widths_getElem?, found, Option.map_some]
  · have header : column.header ∈ columnTexts rows index column := List.mem_cons_self
    have below := (List.max?_eq_some_iff.mp greatest).2 _ (List.mem_map_of_mem header)
    rw [exactly, headerWidth_of_ascii ascii]
    exact below

/-- A cell of nine characters leaves room for a header of five characters and seven bytes. -/
theorem longer_cell_sets_width :
    let columns : List Column := [{ header := "Größe" }]
    let rows := [["sehr groß"], [], ["\x1b[32mklein\x1b[0m", "?"]]
    (lines (render columns rows))[1]? = some "  ---------  " ∧
    ((columnTexts rows 0 { header := "Größe" }).map fun text => (visible text).length).max? =
      some 9 ∧
    (widths columns rows)[0]? = some 9 := by
  intro columns rows
  obtain ⟨dashed, -, wide⟩ := columns_are_as_wide_as_texts_or_header_bytes columns rows
  obtain ⟨width, widest, found, greatest, -, fits, -⟩ := wide 0 { header := "Größe" } rfl
  have nine : widest = 9 := by
    have counted : ((columnTexts rows 0 { header := "Größe" }).map fun text =>
      (visible text).length).max? = some 9 := by decide +kernel
    exact Option.some.inj (greatest.symm.trans counted)
  refine ⟨dashed.trans (by decide +kernel), nine ▸ greatest, ?_⟩
  rw [found, fits.mpr (by rw [nine]; decide +kernel), nine]

/-- A header of one character and two bytes has two dashes below it, with no text to fill them. -/
theorem header_of_two_bytes_has_two_dashes :
    (lines (render [{ header := "é" }] []))[1]? = some "  --  " ∧
    ((columnTexts [] 0 { header := "é" }).map fun text => (visible text).length).max? =
      some 1 := by
  decide +kernel

end Table

end AccessAudit.Text
