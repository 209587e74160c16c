import FontSubset.Proofs.Report.Drawing
/-! Tables as they stand on a terminal. All lines take the same number of columns, since each line
of a cell is filled up to the width of its column, which is that of the widest line in it. -/
namespace FontSubset

namespace Text

@[simp] theorem width_nil : width [] = 0 := rfl

@[simp] theorem width_cons (c : Char) (rest : List Char) :
    width (c :: rest) = columns c + width rest := rfl

@[simp] theorem width_append (front back : List Char) :
    width (front ++ back) = width front + width back := by
  induction front with
  | nil => simp
  | cons c rest ih => simp [ih, Nat.add_assoc]

theorem width_replicate {c : Char} (single : columns c = 1) (count : Nat) :
    width (List.replicate count c) = count := by
  induction count with
  | zero => rfl
  | succ count ih => rw [List.replicate_succ, width_cons, single, ih, Nat.add_comm]

@[simp] theorem columns_blank : columns ' ' = 1 := by decide

@[simp] theorem columns_bar : columns '|' = 1 := by decide

@[simp] theorem columns_dash : columns '-' = 1 := by decide

@[simp] theorem columns_corner : columns '+' = 1 := by decide

end Text

theorem isGreatest_foldr_max {sizes : List Nat} (some : sizes ≠ []) :
    IsGreatest {size | size ∈ sizes} (sizes.foldr max 0) := by
  have maximum := List.maximum_eq_coe_iff.mp (List.foldr_max_of_ne_nil some).symm
  exact ⟨maximum.1, fun _ => maximum.2 _⟩

namespace Table

/-- A column is as wide as the widest line in it, with a blank on either side. -/
def IsColumnWidth (column : List (List Char)) (width : Nat) : Prop :=
  IsGreatest {w | ∃ cell ∈ column, ∃ line ∈ cell.splitOn '\n', w = Text.width line + 2} width

/-- One line of a cell as a column shows it. -/
def Fills (width : Nat) (line shown : List Char) : Prop :=
  ∃ blanks, shown = ' ' :: line ++ List.replicate blanks ' ' ∧ Text.width shown = width

/-- A row as a block that is as high as its highest cell. From the top, each line of the block
shows the lines of the cells, and nothing of a cell that has no more. -/
structure ShowsRow (widths : List Nat) (row : Row) (block : List (List Char)) : Prop where
  height : IsGreatest {h | ∃ cell ∈ row, h = (cell.splitOn '\n').length} block.length
  line : ∀ k (h : k < block.length), ∃ parts,
    block[k] = '|' :: parts.flatMap (· ++ ['|']) ∧
    List.Forall₂ (fun column part => Fills column.1 ((column.2.splitOn '\n')[k]?.getD []) part)
      (widths.zip row) parts

def rule (widths : List Nat) : List Char :=
  '+' :: widths.flatMap fun width => List.replicate width '-' ++ ['+']

def columnWidth (column : List (List Char)) : Nat :=
  (column.map fun cell => widest (cell.splitOn '\n')).foldr max 0

theorem isGreatest_widest (cell : List Char) :
    IsGreatest {w | ∃ line ∈ cell.splitOn '\n', w = Text.width line}
      (widest (cell.splitOn '\n')) := by
  have some : (cell.splitOn '\n').map Text.width ≠ [] := by simp
  simpa [widest, eq_comm] using isGreatest_foldr_max some

theorem isGreatest_height {row : Row} (some : row ≠ []) :
    IsGreatest {h | ∃ cell ∈ row, h = (cell.splitOn '\n').length} (height row) := by
  have lengths : row.map (fun cell => (cell.splitOn '\n').length) ≠ [] := by simpa using some
  simpa [height, eq_comm] using isGreatest_foldr_max lengths

theorem width_le_columnWidth {column : List (List Char)} {cell line : List Char}
    (member : cell ∈ column) (here : line ∈ cell.splitOn '\n') :
    Text.width line ≤ columnWidth column := by
  have widths : column.map (fun cell => widest (cell.splitOn '\n')) ≠ [] := by
    simpa using List.ne_nil_of_mem member
  have inCell := (isGreatest_widest cell).2 ⟨line, here, rfl⟩
  exact inCell.trans ((isGreatest_foldr_max widths).2 (List.mem_map.mpr ⟨cell, member, rfl⟩))

theorem isColumnWidth_columnWidth {column : List (List Char)} (some : column ≠ []) :
    IsColumnWidth column (columnWidth column + 2) := by
  have widths : column.map (fun cell => widest (cell.splitOn '\n')) ≠ [] := by simpa using some
  obtain ⟨attained, -⟩ := isGreatest_foldr_max widths
  obtain ⟨cell, member, greatest⟩ := List.mem_map.mp attained
  obtain ⟨line, here, width⟩ := (isGreatest_widest cell).1
  constructor
  · exact ⟨cell, member, line, here, by rw [← width, greatest]; rfl⟩
  · rintro _ ⟨cell, member, line, here, rfl⟩
    exact Nat.add_le_add_right (width_le_columnWidth member here) 2

theorem contentWidths_three {α : Type} (a b c : List Char) (items : List α)
    (f g h : α → List Char) :
    contentWidths [a, b, c] (items.map fun item => [f item, g item, h item]) =
      [columnWidth (a :: items.map f), columnWidth (b :: items.map g),
        columnWidth (c :: items.map h)] := by
  simp only [contentWidths, List.foldl_map, List.map_cons, List.map_nil, columnWidth,
    List.foldr_cons]
  generalize widest (a.splitOn '\n') = x
  generalize widest (b.splitOn '\n') = y
  generalize widest (c.splitOn '\n') = z
  induction items generalizing x y z with
  | nil => simp
  | cons item rest ih =>
    simp only [List.foldl_cons, List.zipWith_cons_cons, List.zipWith_nil_left, ih, List.map_cons,
      List.foldr_cons, max_assoc]

theorem fills_padded {width : Nat} {line : List Char} (fits : Text.width line ≤ width) :
    Fills (width + 2) line (padded width line) := by
  refine ⟨_, rfl, ?_⟩
  rw [padded, List.cons_append, Text.width_cons, Text.width_append,
    Text.width_replicate Text.columns_blank, Text.columns_blank]
  omega

theorem showsRow_rowLines {widths : List Nat} {row : Row} (some : row ≠ [])
    (fits : ∀ column ∈ widths.zip row, ∀ line ∈ column.2.splitOn '\n',
      Text.width line ≤ column.1) :
    ShowsRow (widths.map (· + 2)) row (rowLines widths row) where
  height := by
    have length : (rowLines widths row).length = Table.height row := by simp [rowLines]
    rw [length]
    exact isGreatest_height some
  line := by
    intro k h
    refine ⟨(widths.zip row).map fun column =>
      padded column.1 ((column.2.splitOn '\n')[k]?.getD []), ?_, ?_⟩
    · simp only [rowLines, List.getElem_map, List.getElem_range, rowLine, List.flatMap_map]
    · rw [List.zip_map_left, List.forall₂_map_left_iff, List.forall₂_map_right_iff,
        List.forall₂_same]
      rintro ⟨width, cell⟩ member
      change Fills (width + 2) ((cell.splitOn '\n')[k]?.getD []) _
      apply fills_padded
      cases here : (cell.splitOn '\n')[k]? with
      | none => exact Nat.zero_le _
      | some line => exact fits (width, cell) member line (List.mem_of_getElem? here)

/-! All lines are equally wide. -/

theorem width_rule (widths : List Nat) :
    Text.width (rule widths) = 1 + (widths.map (· + 1)).sum := by
  rw [rule, Text.width_cons, Text.columns_corner]
  congr 1
  induction widths with
  | nil => rfl
  | cons width rest ih =>
    rw [List.flatMap_cons, Text.width_append, ih, Text.width_append,
      Text.width_replicate Text.columns_dash, List.map_cons, List.sum_cons]
    rfl

theorem width_parts {columns : List (Nat × List Char)} {parts : List (List Char)} {k : Nat}
    (fills : List.Forall₂ (fun column part =>
      Fills column.1 ((column.2.splitOn '\n')[k]?.getD []) part) columns parts) :
    Text.width (parts.flatMap (· ++ ['|'])) = ((columns.map Prod.fst).map (· + 1)).sum := by
  induction fills with
  | nil => rfl
  | cons fills later ih =>
    obtain ⟨blanks, -, width⟩ := fills
    rw [List.flatMap_cons, Text.width_append, ih, Text.width_append, width, List.map_cons,
      List.map_cons, List.sum_cons]
    rfl

theorem ShowsRow.width_eq {widths : List Nat} {row : Row} {block : List (List Char)}
    (shows : ShowsRow widths row block) (fits : widths.length ≤ row.length) {line : List Char}
    (member : line ∈ block) : Text.width line = 1 + (widths.map (· + 1)).sum := by
  obtain ⟨k, h, rfl⟩ := List.mem_iff_getElem.mp member
  obtain ⟨parts, shown, fills⟩ := shows.line k h
  rw [shown, Text.width_cons, Text.columns_bar, width_parts fills, List.map_fst_zip fits]

theorem ShowsRow.rule_not_mem {widths : List Nat} {row : Row} {block : List (List Char)}
    (shows : ShowsRow widths row block) : rule widths ∉ block := by
  intro member
  obtain ⟨k, h, same⟩ := List.mem_iff_getElem.mp member
  obtain ⟨parts, shown, -⟩ := shows.line k h
  rw [shown, rule] at same
  simp at same

/-! A line of a table has no line end in it, so the lines can be told apart. -/

theorem Fills.unbroken {width k : Nat} {cell shown : List Char}
    (fills : Fills width ((cell.splitOn '\n')[k]?.getD []) shown) : '\n' ∉ shown := by
  obtain ⟨blanks, rfl, -⟩ := fills
  have line : '\n' ∉ (cell.splitOn '\n')[k]?.getD [] := by
    cases here : (cell.splitOn '\n')[k]? with
    | none => exact List.not_mem_nil
    | some line =>
      exact (Text.areLines_splitOn cell).unbroken line (List.mem_of_getElem? here)
  simp [line]

theorem unbroken_parts {columns : List (Nat × List Char)} {parts : List (List Char)} {k : Nat}
    (fills : List.Forall₂ (fun column part =>
      Fills column.1 ((column.2.splitOn '\n')[k]?.getD []) part) columns parts) :
    '\n' ∉ parts.flatMap (· ++ ['|']) := by
  induction fills with
  | nil => exact List.not_mem_nil
  | cons fills later ih => simp [fills.unbroken, ih]

theorem ShowsRow.unbroken {widths : List Nat} {row : Row} {block : List (List Char)}
    (shows : ShowsRow widths row block) {line : List Char} (member : line ∈ block) :
    '\n' ∉ line := by
  obtain ⟨k, h, rfl⟩ := List.mem_iff_getElem.mp member
  obtain ⟨parts, shown, fills⟩ := shows.line k h
  rw [shown, List.mem_cons, not_or]
  exact ⟨by decide, unbroken_parts fills⟩

theorem border_eq_rule (widths : List Nat) : border widths = rule (widths.map (· + 2)) := by
  rw [border, rule, List.flatMap_map]

/-- The lines of a table are the borders and the blocks between them. -/
theorem splitOn_render {header : Row} {rows : List Row} {widths : List Nat}
    (measured : contentWidths header rows = widths)
    (shows : ∀ row ∈ header :: rows, ShowsRow (widths.map (· + 2)) row (rowLines widths row)) :
    (render header rows).toList.splitOn '\n' = rule (widths.map (· + 2)) ::
      (header :: rows).flatMap fun row => rowLines widths row ++ [rule (widths.map (· + 2))] := by
  have unbroken : '\n' ∉ rule (widths.map (· + 2)) := by
    rw [← border_eq_rule]
    intro member
    rcases mem_border member with corner | dash
    · exact absurd corner (by decide)
    · exact absurd dash (by decide)
  rw [render, String.toList_ofList, lines, measured, border_eq_rule]
  -- Lines without line ends come back as they were joined.
  apply List.splitOn_intercalate
  · intro line member
    rcases List.mem_cons.mp member with rfl | member
    · exact unbroken
    · obtain ⟨row, here, member⟩ := List.mem_flatMap.mp member
      rcases List.mem_append.mp member with inside | border
      · exact (shows row here).unbroken inside
      · rw [List.mem_singleton.mp border]
        exact unbroken
  · exact List.cons_ne_nil _ _

/-- A character of two columns, and a text of two lines. -/
example : render ["A".toList] [["文\nb".toList]] =
    "+----+\n| A  |\n+----+\n| 文 |\n| b  |\n+----+" := by decide +kernel

theorem count_rule {widths : List Nat} {rows : List Row} {block : Row → List (List Char)}
    (shows : ∀ row ∈ rows, ShowsRow widths row (block row)) :
    (rows.flatMap fun row => block row ++ [rule widths]).count (rule widths) = rows.length := by
  induction rows with
  | nil => rfl
  | cons row rest ih =>
    rw [List.forall_mem_cons] at shows
    rw [List.flatMap_cons, List.count_append, List.count_append, ih shows.2,
      List.count_eq_zero_of_not_mem shows.1.rule_not_mem, List.count_singleton_self,
      List.length_cons]
    omega

theorem width_line {widths : List Nat} {rows : List Row} {block : Row → List (List Char)}
    (shows : ∀ row ∈ rows, ShowsRow widths row (block row))
    (fits : ∀ row ∈ rows, widths.length ≤ row.length) {line : List Char}
    (member : line ∈ rule widths :: rows.flatMap fun row => block row ++ [rule widths]) :
    Text.width line = 1 + (widths.map (· + 1)).sum := by
  rcases List.mem_cons.mp member with rfl | member
  · exact width_rule widths
  · obtain ⟨row, here, member⟩ := List.mem_flatMap.mp member
    rcases List.mem_append.mp member with inside | border
    · exact (shows row here).width_eq (fits row here) inside
    · rw [List.mem_singleton.mp border, width_rule]

theorem showsRow_three {a b c : List (List Char)} {x y z : List Char} (inA : x ∈ a)
    (inB : y ∈ b) (inC : z ∈ c) :
    ShowsRow ([columnWidth a, columnWidth b, columnWidth c].map (· + 2)) [x, y, z]
      (rowLines [columnWidth a, columnWidth b, columnWidth c] [x, y, z]) := by
  apply showsRow_rowLines (List.cons_ne_nil _ _)
  simp only [List.zip_cons_cons, List.zip_nil_right, List.forall_mem_cons]
  exact ⟨fun _ => width_le_columnWidth inA, fun _ => width_le_columnWidth inB,
    fun _ => width_le_columnWidth inC, fun _ none => absurd none List.not_mem_nil⟩

end Table

namespace Report

def columns (report : Report) : List (List (List Char)) := [
  "Font".toList :: report.files.map fun file => file.font.display.toList,
  "Result".toList :: report.files.map fun file => file.outcome.display.toList,
  "Time (ms)".toList :: report.files.map fun file => (toString file.duration.toInt).toList]

def contentWidths (report : Report) : List Nat := report.columns.map Table.columnWidth

theorem isColumnWidth_contentWidths (report : Report) :
    List.Forall₂ Table.IsColumnWidth report.columns (report.contentWidths.map (· + 2)) := by
  rw [contentWidths, List.map_map, List.forall₂_map_right_iff, List.forall₂_same]
  intro column member
  apply Table.isColumnWidth_columnWidth
  simp only [columns, List.mem_cons, List.not_mem_nil, or_false] at member
  rcases member with rfl | rfl | rfl <;> exact List.cons_ne_nil _ _

theorem showsRow_of_mem (report : Report) :
    ∀ row ∈ tableHeader :: report.files.map tableRow,
      Table.ShowsRow (report.contentWidths.map (· + 2)) row
        (Table.rowLines report.contentWidths row) := by
  rw [List.forall_mem_cons, List.forall_mem_map]
  constructor
  · exact Table.showsRow_three List.mem_cons_self List.mem_cons_self List.mem_cons_self
  · intro file member
    have inColumn (title : List Char) (text : FileReport → List Char) :
        text file ∈ title :: report.files.map text :=
      List.mem_cons_of_mem _ (List.mem_map.mpr ⟨file, member, rfl⟩)
    exact Table.showsRow_three (inColumn _ _) (inColumn _ _) (inColumn _ _)

theorem length_of_mem (report : Report) :
    ∀ row ∈ tableHeader :: report.files.map tableRow,
      (report.contentWidths.map (· + 2)).length ≤ row.length := by
  rw [List.forall_mem_cons, List.forall_mem_map]
  exact ⟨Nat.le_refl 3, fun _ _ => Nat.le_refl 3⟩

/-- The table of a report is a rectangle in lines. Below the header each font has a block of its
own, in the order of the report, and the columns are as wide as their texts ask for. -/
theorem table_is_rectangle (report : Report) :
    ∃ widths title blocks,
      List.Forall₂ Table.IsColumnWidth report.columns widths ∧
      report.table.toList.splitOn '\n' = Table.rule widths :: title :: Table.rule widths ::
        blocks.flatMap (· ++ [Table.rule widths]) ∧
      (∀ line ∈ report.table.toList.splitOn '\n',
        Text.width line = 1 + (widths.map (· + 1)).sum) ∧
      (report.table.toList.splitOn '\n').count (Table.rule widths) = report.files.length + 2 ∧
      Table.ShowsRow widths ["Font".toList, "Result".toList, "Time (ms)".toList] [title] ∧
      List.Forall₂ (fun file block => Table.ShowsRow widths [file.font.display.toList,
        file.outcome.display.toList, (toString file.duration.toInt).toList] block)
        report.files blocks := by
  have measured : Table.contentWidths tableHeader (report.files.map tableRow) =
      report.contentWidths := Table.contentWidths_three _ _ _ _ _ _ _
  have shows := report.showsRow_of_mem
  have split := Table.splitOn_render measured shows
  obtain ⟨title, oneLine⟩ : ∃ title, Table.rowLines report.contentWidths tableHeader = [title] :=
    List.length_eq_one_iff.mp (by rw [Table.rowLines, List.length_map, List.length_range]; decide)
  refine ⟨report.contentWidths.map (· + 2), title,
    report.files.map fun file => Table.rowLines report.contentWidths (tableRow file),
    report.isColumnWidth_contentWidths, ?lines, ?wide, ?borders, ?header, ?rows⟩
  case lines =>
    rw [table, split, List.flatMap_cons, oneLine, List.flatMap_map, List.flatMap_map]
    rfl
  case wide =>
    rw [table, split]
    exact fun line => Table.width_line shows report.length_of_mem
  case borders =>
    rw [table, split, List.count_cons_self, Table.count_rule shows, List.length_cons,
      List.length_map]
  case header =>
    rw [← oneLine]
    exact shows _ List.mem_cons_self
  case rows =>
    rw [List.forall₂_map_right_iff, List.forall₂_same]
    exact fun file member =>
      shows _ (List.mem_cons_of_mem _ (List.mem_map.mpr ⟨file, member, rfl⟩))

end Report
end FontSubset
