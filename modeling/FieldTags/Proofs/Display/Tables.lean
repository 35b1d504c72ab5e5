import FieldTags.Config.Assembly
import FieldTags.Display.Table
import FieldTags.Proofs.Display.BlankCells
import FieldTags.Proofs.Text.Splitting
import Mathlib.Data.List.Forall2

/-!
# Tables that are read again

A table is cut into lines at line feeds and each line into cells at tab characters. What comes out are
the captions and the cells of every row, in the order of the columns, as long as none of them has a
separator in its own text: captions and cells are written as they are, so that one of them with a tab
character shifts the cells behind it and one with a line feed the lines behind it. There is a table
unless a time is shifted out of the representable times.
-/

namespace FieldTags

/-! ## Lines and cells -/

namespace Text

/-- The cells of the lines of a text. -/
def cells (s : String) : List (List String) :=
  (split '\n' s).map (split '\t')

/-- A text without the separators of cells and of lines. -/
def IsCell (s : String) : Prop :=
  '\t' ∉ s.toList ∧ '\n' ∉ s.toList

/-- The text in which lines of cells are written one after the other. -/
def ofCells (lines : List (List String)) : String :=
  "\n".intercalate (lines.map "\t".intercalate)

theorem isCell_of_mem_cells {s cell : String} {line : List String} (hline : line ∈ cells s)
    (hcell : cell ∈ line) : IsCell cell := by
  obtain ⟨whole, hwhole, rfl⟩ := List.mem_map.mp hline
  constructor
  · exact fun htab ↦ (mem_of_mem_split hcell htab).2 rfl
  · exact fun hfeed ↦ (mem_of_mem_split hwhole (mem_of_mem_split hcell hfeed).1).2 rfl

/-- A line has the characters of its cells and the separators between them. -/
theorem mem_intercalate_tab {line : List String} {c : Char}
    (h : c ∈ ("\t".intercalate line).toList) : c = '\t' ∨ ∃ cell ∈ line, c ∈ cell.toList := by
  induction line with
  | nil => cases h
  | cons cell line ih =>
    cases line with
    | nil => exact .inr ⟨cell, List.mem_cons_self, by simpa using h⟩
    | cons next more =>
      rw [String.intercalate_cons_cons, String.toList_append, String.toList_append,
        List.mem_append, List.mem_append] at h
      rcases h with (hcell | htab) | hmore
      · exact .inr ⟨cell, List.mem_cons_self, hcell⟩
      · exact .inl (List.mem_singleton.mp htab)
      · rcases ih hmore with htab | ⟨other, hother, hc⟩
        · exact .inl htab
        · exact .inr ⟨other, List.mem_cons_of_mem cell hother, hc⟩

/-- The lines and cells of a text that is put together from lines of cells are these exactly if none
of the cells has a separator. -/
theorem cells_ofCells_eq_iff {lines : List (List String)} (hlines : lines ≠ [])
    (hcells : ∀ line ∈ lines, line ≠ []) :
    cells (ofCells lines) = lines ↔ ∀ line ∈ lines, ∀ cell ∈ line, IsCell cell := by
  constructor
  · intro h line hline cell hcell
    exact isCell_of_mem_cells (h.symm ▸ hline) hcell
  · intro h
    have hfeed : ∀ text ∈ lines.map "\t".intercalate, '\n' ∉ text.toList := by
      intro text htext hmem
      obtain ⟨line, hline, rfl⟩ := List.mem_map.mp htext
      rcases mem_intercalate_tab hmem with htab | ⟨cell, hcell, hc⟩
      · cases htab
      · exact (h line hline cell hcell).2 hc
    have htab : ∀ line ∈ lines, split '\t' ("\t".intercalate line) = line := fun line hline ↦
      split_intercalate (hcells line hline) fun cell hcell ↦ (h line hline cell hcell).1
    have hnil : lines.map "\t".intercalate ≠ [] := fun hmap ↦ hlines (List.map_eq_nil_iff.mp hmap)
    have hsplit : split '\n' (ofCells lines) = lines.map "\t".intercalate :=
      split_intercalate hnil hfeed
    rw [cells, hsplit, List.map_map]
    exact (List.map_congr_left htab).trans (List.map_id lines)

end Text

/-! ## Results for the items of a list -/

section Results

variable {ε α β : Type} {result : α → Except ε β} {xs : List α}

theorem mapM_eq_ok_iff {ys : List β} :
    xs.mapM result = .ok ys ↔ List.Forall₂ (fun x y ↦ result x = .ok y) xs ys := by
  constructor
  · intro h
    induction xs generalizing ys with
    | nil =>
      cases h
      exact .nil
    | cons x xs ih =>
      rw [List.mapM_cons] at h
      cases hx : result x with
      | error e =>
        rw [hx] at h
        cases h
      | ok y =>
        cases hxs : xs.mapM result with
        | error e =>
          rw [hx, hxs] at h
          cases h
        | ok more =>
          rw [hx, hxs] at h
          cases h
          exact .cons hx (ih hxs)
  · intro h
    induction h with
    | nil => rfl
    | cons hx _ ih =>
      rw [List.mapM_cons, hx, ih]
      rfl

theorem exists_mapM_eq_ok (h : ∀ x ∈ xs, ∃ y, result x = .ok y) :
    ∃ ys, xs.mapM result = .ok ys := by
  induction xs with
  | nil => exact ⟨[], rfl⟩
  | cons x xs ih =>
    obtain ⟨y, hy⟩ := h x List.mem_cons_self
    obtain ⟨ys, hys⟩ := ih fun other hother ↦ h other (List.mem_cons_of_mem x hother)
    refine ⟨y :: ys, ?_⟩
    rw [List.mapM_cons, hy, hys]
    rfl

/-- If all failures are the same, then one of them is the failure of the whole list. -/
theorem mapM_of_error {e : ε} (hall : ∀ x ∈ xs, result x = .error e ∨ ∃ y, result x = .ok y)
    (h : ∃ x ∈ xs, result x = .error e) : xs.mapM result = .error e := by
  induction xs with
  | nil =>
    obtain ⟨x, hx, -⟩ := h
    cases hx
  | cons x xs ih =>
    rw [List.mapM_cons]
    rcases hall x List.mem_cons_self with hx | ⟨y, hy⟩
    · rw [hx]
      rfl
    · obtain ⟨other, hother, herror⟩ := h
      have hlater : other ∈ xs := by
        rcases List.mem_cons.mp hother with rfl | hlater
        · cases hy.symm.trans herror
        · exact hlater
      rw [hy, ih (fun z hz ↦ hall z (List.mem_cons_of_mem x hz)) ⟨other, hlater, herror⟩]
      rfl

end Results

/-! ## Cells -/

namespace Formatter

variable {f : Formatter} {row : Json} {name : String} {field : FieldConfig} {model : String}

theorem not_showsItems_of_shiftsOut (h : f.ShiftsOut (row.member? name) (field .formatter)) :
    ¬ field.ShowsItems := by
  rintro ⟨hnone, -⟩
  obtain ⟨-, format, -, hformat, -⟩ := h
  cases hnone.symm.trans (hasFormatter_iff.mpr ⟨format, hformat⟩)

theorem cell_of_shiftsOut (h : f.ShiftsOut (row.member? name) (field .formatter)) :
    f.cell row name field model = .error .timeOutOfRange := by
  have hvalue : Json.isBlank (row.member? name) = false := by
    obtain ⟨data, -, hdata, -, -, hout⟩ := h
    exact hdata ▸ hout.isBlank
  rw [cell_of_not_showsItems model (not_showsItems_of_shiftsOut h), hvalue,
    if_neg Bool.false_ne_true, formatValue_of_shiftsOut h]

theorem exists_cell_of_not_shiftsOut (h : ¬ f.ShiftsOut (row.member? name) (field .formatter)) :
    ∃ shown, f.cell row name field model = .ok shown := by
  by_cases hroute : field.ShowsItems
  · rw [f.cell_of_isRelation name model hroute.1 hroute.2]
    exact ⟨_, rfl⟩
  · rw [cell_of_not_showsItems model hroute]
    split_ifs
    · exact ⟨_, rfl⟩
    · exact formatValue_of_not_shiftsOut h

end Formatter

/-! ## Tables -/

def ModelConfig.captions (config : ModelConfig) : List String :=
  config.tableColumns.map fun column ↦ column.2.caption column.1

namespace Formatter

variable (f : Formatter) (config : ModelConfig)

/-- A row has a time in one of the columns that the offset shifts out of the representable times. -/
def RowShiftsOut (row : Json) : Prop :=
  ∃ column ∈ config.tableColumns, f.ShiftsOut (row.member? column.1) (column.2 .formatter)

/-- A line has one cell for each column: the plain text of what the column shows of a row. -/
def IsLine (row : Json) (line : List String) : Prop :=
  List.Forall₂ (fun column cell ↦
      ∃ shown, f.cell row column.1 column.2 config.model = .ok shown ∧
        shown.toPlainText f.settings.flatSeparator = cell)
    config.tableColumns line

variable {f config} {row : Json} {rows : List Json}

/-- The line that a row is exported as. -/
theorem isLine_iff {line : List String} : f.IsLine config row line ↔
    f.exportRow row config.tableColumns config.model = .ok line := by
  rw [exportRow, mapM_eq_ok_iff, IsLine]
  have hcell (column : String × FieldConfig) (cell : String) :
      (∃ shown, f.cell row column.1 column.2 config.model = .ok shown ∧
          shown.toPlainText f.settings.flatSeparator = cell) ↔
        (f.cell row column.1 column.2 config.model).map
          (DisplayValue.toPlainText f.settings.flatSeparator) = .ok cell := by
    cases f.cell row column.1 column.2 config.model <;> simp [Except.map]
  simp only [hcell]

theorem IsLine.ne_nil {line : List String} (h : f.IsLine config row line)
    (hcolumns : config.tableColumns ≠ []) : line ≠ [] := by
  rintro rfl
  exact hcolumns (List.forall₂_nil_right_iff.mp h)

theorem exportRow_of_rowShiftsOut (h : f.RowShiftsOut config row) :
    f.exportRow row config.tableColumns config.model = .error .timeOutOfRange := by
  apply mapM_of_error
  · intro column _
    by_cases hout : f.ShiftsOut (row.member? column.1) (column.2 .formatter)
    · left
      rw [cell_of_shiftsOut hout]
      rfl
    · right
      have hcell : ∃ shown, f.cell row column.1 column.2 config.model = .ok shown :=
        exists_cell_of_not_shiftsOut hout
      obtain ⟨shown, hshown⟩ := hcell
      rw [hshown]
      exact ⟨_, rfl⟩
  · obtain ⟨column, hcolumn, hout⟩ := h
    refine ⟨column, hcolumn, ?_⟩
    rw [cell_of_shiftsOut hout]
    rfl

theorem exists_isLine (h : ¬ f.RowShiftsOut config row) : ∃ line, f.IsLine config row line := by
  simp only [isLine_iff]
  apply exists_mapM_eq_ok
  intro column hcolumn
  have hcolumn : ¬ f.ShiftsOut (row.member? column.1) (column.2 .formatter) :=
    fun hout ↦ h ⟨column, hcolumn, hout⟩
  have hcell : ∃ shown, f.cell row column.1 column.2 config.model = .ok shown :=
    exists_cell_of_not_shiftsOut hcolumn
  obtain ⟨shown, hshown⟩ := hcell
  rw [hshown]
  exact ⟨_, rfl⟩

theorem tableLine_of_isLine {line : List String} (h : f.IsLine config row line) :
    f.tableLine config row = .ok ("\t".intercalate line) := by
  rw [tableLine, isLine_iff.mp h]
  rfl

/-- The table of rows is put together from the captions and the lines of the rows. -/
theorem tableText_of_isLine {lines : List (List String)}
    (h : List.Forall₂ (f.IsLine config) rows lines) :
    f.tableText config rows = .ok (Text.ofCells (config.captions :: lines)) := by
  have hlines : rows.mapM (f.tableLine config) = .ok (lines.map "\t".intercalate) := by
    rw [mapM_eq_ok_iff, List.forall₂_map_right_iff]
    exact h.imp fun row line ↦ tableLine_of_isLine
  rw [tableText, hlines]
  rfl

theorem exists_lines (h : ∀ row ∈ rows, ¬ f.RowShiftsOut config row) :
    ∃ lines, List.Forall₂ (f.IsLine config) rows lines := by
  have hexported : ∃ lines, rows.mapM
      (fun row ↦ f.exportRow row config.tableColumns config.model) = .ok lines := by
    apply exists_mapM_eq_ok
    intro row hrow
    obtain ⟨line, hline⟩ := exists_isLine (h row hrow)
    exact ⟨line, isLine_iff.mp hline⟩
  obtain ⟨lines, hlines⟩ := hexported
  exact ⟨lines, (mapM_eq_ok_iff.mp hlines).imp fun row line ↦ isLine_iff.mpr⟩

theorem tableText_of_rowShiftsOut (h : ∃ row ∈ rows, f.RowShiftsOut config row) :
    f.tableText config rows = .error .timeOutOfRange := by
  have hfails {row : Json} (hout : f.RowShiftsOut config row) :
      f.tableLine config row = .error .timeOutOfRange := by
    rw [tableLine, exportRow_of_rowShiftsOut hout]
    rfl
  have hlines : rows.mapM (f.tableLine config) = .error .timeOutOfRange := by
    obtain ⟨row, hrow, hout⟩ := h
    refine mapM_of_error (fun other _ ↦ ?_) ⟨row, hrow, hfails hout⟩
    by_cases hother : f.RowShiftsOut config other
    · exact .inl (hfails hother)
    · obtain ⟨line, hline⟩ := exists_isLine hother
      exact .inr ⟨_, tableLine_of_isLine hline⟩
  rw [tableText, hlines]
  rfl

theorem forall_ne_nil_of_isLine {lines : List (List String)}
    (h : List.Forall₂ (f.IsLine config) rows lines) (hcolumns : config.tableColumns ≠ []) :
    ∀ line ∈ config.captions :: lines, line ≠ [] := by
  have hlines : ∀ line ∈ lines, line ≠ [] := by
    induction h with
    | nil => exact fun line hline ↦ absurd hline List.not_mem_nil
    | cons hfirst _ ih =>
      intro line hline
      rcases List.mem_cons.mp hline with rfl | hline
      · exact hfirst.ne_nil hcolumns
      · exact ih line hline
  intro line hline
  rcases List.mem_cons.mp hline with rfl | hline
  · exact fun hnil ↦ hcolumns (List.map_eq_nil_iff.mp hnil)
  · exact hlines line hline

/--
The table of rows is a text unless a time is shifted out. With at least one column, cutting this text
into lines and cells gives the captions and a line for each row, with a cell for each column, exactly
if neither a caption nor a cell has a separator.
-/
theorem tableText_cells_iff (f : Formatter) (config : ModelConfig) (rows : List Json)
    (hcolumns : config.tableColumns ≠ []) :
    ((∀ row ∈ rows, ¬ f.RowShiftsOut config row) →
      ∃ text lines, f.tableText config rows = .ok text ∧
        List.Forall₂ (f.IsLine config) rows lines ∧
          (Text.cells text = config.captions :: lines ↔
            ∀ line ∈ config.captions :: lines, ∀ cell ∈ line, Text.IsCell cell)) ∧
      ((∃ row ∈ rows, f.RowShiftsOut config row) →
        f.tableText config rows = .error .timeOutOfRange) := by
  refine ⟨fun h ↦ ?_, tableText_of_rowShiftsOut⟩
  obtain ⟨lines, hlines⟩ := exists_lines h
  exact ⟨_, lines, tableText_of_isLine hlines, hlines,
    Text.cells_ofCells_eq_iff (List.cons_ne_nil _ _) (forall_ne_nil_of_isLine hlines hcolumns)⟩

/-- Visible fields that are declared in the order of their weights are the columns. -/
theorem tableColumns_of_sorted
    (hvisible : ∀ entry ∈ config.fields.entries, entry.2.isVisible .table = true)
    (hsorted : config.fields.entries.Pairwise fun a b ↦
      a.2.weight.totalPosition ≤ b.2.weight.totalPosition) :
    config.tableColumns = config.fields.entries := by
  rw [ModelConfig.tableColumns, ModelConfig.fieldsFor, List.filter_eq_self.mpr hvisible]
  exact List.mergeSort_of_pairwise (hsorted.imp fun h ↦ decide_eq_true h)

theorem not_rowShiftsOut (h : ∀ column ∈ config.tableColumns, column.2 .formatter = none) :
    ¬ f.RowShiftsOut config row := by
  rintro ⟨column, hcolumn, data, format, -, hformat, -⟩
  rw [h column hcolumn] at hformat
  cases hformat

def staffTags : List TagRow :=
  [⟨"Name", "label:Name"⟩, ⟨"Depts", "label:Departments;path:Depts;path-item:name"⟩]

def staff : ModelConfig :=
  .assemble "User" staffTags

theorem tableColumns_staff : staff.tableColumns = staff.fields.entries :=
  tableColumns_of_sorted (by decide +kernel) (by decide +kernel)

theorem tableColumns_staff_ne_nil : staff.tableColumns ≠ [] := by
  rw [tableColumns_staff]
  exact fun hnil ↦ absurd (congrArg List.length hnil) (by decide +kernel)

theorem not_rowShiftsOut_staff (f : Formatter) (row : Json) : ¬ f.RowShiftsOut staff row := by
  apply not_rowShiftsOut
  rw [tableColumns_staff]
  decide +kernel

/-- A user in two departments, and one without a name who is in none. -/
def staffRows : List Json :=
  [.object [("Name", .string "Ann"), ("Depts", .array [.object [("name", .string "Tech")],
      .object [("name", .string "Ops")]])],
    .object [("Name", .string ""), ("Depts", .array [])]]

/-- The users are read from their table again. -/
theorem cells_tableText_staff : ∃ text, (ofSettings .default).tableText staff staffRows = .ok text ∧
    Text.cells text = [["Name", "Departments"], ["Ann", "Tech，Ops"], ["--", "--"]] := by
  obtain ⟨text, lines, htext, hlines, hiff⟩ :=
    (tableText_cells_iff (ofSettings .default) staff staffRows tableColumns_staff_ne_nil).1
      fun row _ ↦ not_rowShiftsOut_staff _ row
  have hexport : staffRows.mapM (fun row ↦
      (ofSettings .default).exportRow row staff.tableColumns staff.model) =
        .ok [["Ann", "Tech，Ops"], ["--", "--"]] := by
    rw [tableColumns_staff]
    decide +kernel
  have hcaptions : staff.captions = ["Name", "Departments"] := by
    rw [ModelConfig.captions, tableColumns_staff]
    decide +kernel
  rw [mapM_eq_ok_iff.mpr (hlines.imp fun row line ↦ isLine_iff.mp)] at hexport
  cases hexport
  rw [hcaptions] at hiff
  refine ⟨text, htext, hiff.mpr ?_⟩
  unfold Text.IsCell
  decide +kernel

/-- A user whose name has a tab character. -/
def tabbedRow : Json :=
  .object [("Name", .string "Ann\tLee"), ("Depts", .array [.object [("name", .string "Tech")]])]

/-- A tab character in a cell shifts the cell behind it. -/
theorem not_forall_cells_tableText :
    ¬ ∀ (f : Formatter) (model : String) (tagRows : List TagRow) (rows : List Json),
      (ModelConfig.assemble model tagRows).tableColumns ≠ [] →
      (∀ row ∈ rows, ¬ f.RowShiftsOut (.assemble model tagRows) row) →
      ∃ text lines, f.tableText (.assemble model tagRows) rows = .ok text ∧
        List.Forall₂ (f.IsLine (.assemble model tagRows)) rows lines ∧
          Text.cells text = (ModelConfig.assemble model tagRows).captions :: lines := by
  intro h
  obtain ⟨text, lines, -, hlines, hcells⟩ := h (ofSettings .default) "User" staffTags [tabbedRow]
    tableColumns_staff_ne_nil fun row _ ↦ not_rowShiftsOut_staff _ row
  have hexport : (ofSettings .default).exportRow tabbedRow staff.tableColumns staff.model =
      .ok ["Ann\tLee", "Tech"] := by
    rw [tableColumns_staff]
    decide +kernel
  obtain ⟨line, more, hline, -, rfl⟩ := List.forall₂_cons_left_iff.mp hlines
  cases hexport.symm.trans (isLine_iff.mp hline)
  -- What is read as a cell has no tab character.
  have hcell : Text.IsCell "Ann\tLee" := Text.isCell_of_mem_cells
    (hcells ▸ List.mem_cons_of_mem _ List.mem_cons_self) List.mem_cons_self
  exact hcell.1 (by decide)

end Formatter

end FieldTags
