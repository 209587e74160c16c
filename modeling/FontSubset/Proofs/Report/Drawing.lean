import Mathlib
import FontSubset.Report.Table
/-! Tables as they are drawn. Between two borders stands one row, which shows the text of every
cell of it line by line, with blanks around each line. -/
namespace FontSubset

/-- The lines of a text, which has a line end between any two of them and nowhere else. -/
structure Text.AreLines (text : List Char) (lines : List (List Char)) : Prop where
  joined : ['\n'].intercalate lines = text
  unbroken : ∀ line ∈ lines, '\n' ∉ line

theorem Text.areLines_splitOn (text : List Char) : AreLines text (text.splitOn '\n') where
  joined := List.intercalate_splitOn '\n'
  unbroken := by
    induction text with
    | nil => simp
    | cons c rest ih =>
      obtain ⟨line, more, split⟩ := List.exists_cons_of_ne_nil (List.splitOn_ne_nil '\n' rest)
      rw [split, List.forall_mem_cons] at ih
      rw [List.splitOn_cons_eq_if_modifyHead, split]
      split_ifs with h
      · rw [List.forall_mem_cons, List.forall_mem_cons]
        exact ⟨List.not_mem_nil, ih⟩
      · rw [List.modifyHead_cons, List.forall_mem_cons]
        have other : '\n' ≠ c := fun same => h (beq_iff_eq.mpr same.symm)
        exact ⟨List.not_mem_cons_of_ne_of_not_mem other ih.1, ih.2⟩

namespace Table

/-- A line of a table that shows the `k`-th line in each column, and blanks in a column that has
no such line. -/
inductive ShowsLine (k : Nat) : List (List (List Char)) → List Char → Prop
  | nil : ShowsLine k [] []
  | cons {column : List (List Char)} {columns : List (List (List Char))} {rest : List Char}
    (blanks : Nat) (later : ShowsLine k columns rest) :
    ShowsLine k (column :: columns)
      (' ' :: column[k]?.getD [] ++ List.replicate (blanks + 1) ' ' ++ '|' :: rest)

/-- A row as a block of lines, with each cell in its column. -/
def Shows (row : Row) (block : List (List Char)) : Prop :=
  ∃ columns, List.Forall₂ Text.AreLines row columns ∧
    (∀ column ∈ columns, column.length ≤ block.length) ∧
    ∀ k (h : k < block.length), ∃ line, block[k] = '|' :: line ∧ ShowsLine k columns line

/-- Rows between borders, each line ended. -/
def Draws (rows : List Row) (text : String) : Prop :=
  ∃ border blocks, (∀ c ∈ border, c = '+' ∨ c = '-') ∧ List.Forall₂ Shows rows blocks ∧
    text.toList = (border :: blocks.flatMap fun block => block ++ [border]).flatMap (· ++ ['\n'])

theorem length_le_height {row : Row} {cell : List Char} (member : cell ∈ row) :
    (cell.splitOn '\n').length ≤ height row := by
  unfold height
  induction row with
  | nil => cases member
  | cons first rest ih =>
    rw [List.map_cons, List.foldr_cons]
    rcases List.mem_cons.mp member with rfl | later
    · exact le_max_left _ _
    · exact (ih later).trans (le_max_right _ _)

theorem showsLine_zip (k : Nat) {widths : List Nat} {row : Row}
    (fits : widths.length = row.length) :
    ShowsLine k (row.map (·.splitOn '\n')) ((widths.zip row).flatMap fun (width, cell) =>
      padded width ((cell.splitOn '\n')[k]?.getD []) ++ ['|']) := by
  induction row generalizing widths with
  | nil =>
    rw [List.length_eq_zero_iff.mp fits]
    exact .nil
  | cons cell rest ih =>
    obtain ⟨width, widths, rfl⟩ := List.exists_cons_of_length_eq_add_one fits
    have later := ih (Nat.succ.inj fits)
    rw [List.zip_cons_cons, List.flatMap_cons, List.append_assoc, List.singleton_append]
    exact .cons _ later

theorem shows_rowLines {widths : List Nat} {row : Row} (fits : widths.length = row.length) :
    Shows row (rowLines widths row) := by
  have height : (rowLines widths row).length = height row := by simp [rowLines]
  refine ⟨row.map (·.splitOn '\n'), ?_, ?_, ?_⟩
  · exact List.forall₂_map_right_iff.mpr
      (List.forall₂_same.mpr fun cell _ => Text.areLines_splitOn cell)
  · intro column member
    obtain ⟨cell, here, rfl⟩ := List.mem_map.mp member
    rw [height]
    exact length_le_height here
  · intro k h
    refine ⟨_, ?_, showsLine_zip k fits⟩
    simp only [rowLines, List.getElem_map, List.getElem_range, rowLine]

theorem length_contentWidths {header : Row} {rows : List Row}
    (even : ∀ row ∈ rows, row.length = header.length) :
    (contentWidths header rows).length = header.length := by
  unfold contentWidths
  suffices ∀ widths : List Nat, widths.length = header.length →
      (rows.foldl (fun widths row =>
        widths.zipWith (fun width cell => max width (widest (cell.splitOn '\n'))) row)
        widths).length = header.length from this _ (by simp)
  induction rows with
  | nil => exact fun _ h => h
  | cons row rest ih =>
    rw [List.forall_mem_cons] at even
    intro widths h
    apply ih even.2
    rw [List.length_zipWith, h, even.1, min_self]

theorem mem_border {widths : List Nat} {c : Char} (member : c ∈ border widths) :
    c = '+' ∨ c = '-' := by
  simp only [border, List.mem_cons, List.mem_flatMap, List.mem_append, List.mem_replicate,
    List.not_mem_nil, or_false] at member
  rcases member with plus | ⟨width, -, dash | plus⟩
  · exact .inl plus
  · exact .inr dash.2
  · exact .inl plus

theorem intercalate_concat (separator : List Char) {lines : List (List Char)} (some : lines ≠ []) :
    separator.intercalate lines ++ separator = lines.flatMap (· ++ separator) := by
  induction lines with
  | nil => exact absurd rfl some
  | cons line rest ih =>
    cases rest with
    | nil => simp
    | cons next rest =>
      rw [List.intercalate_cons_cons, List.append_assoc, ih (List.cons_ne_nil _ _)]
      simp

/-- A table draws its header and its rows, if all have as many cells. -/
theorem draws_render {header : Row} {rows : List Row}
    (even : ∀ row ∈ rows, row.length = header.length) :
    Draws (header :: rows) (render header rows ++ "\n") := by
  let widths := contentWidths header rows
  have length : widths.length = header.length := length_contentWidths even
  refine ⟨border widths, (header :: rows).map (rowLines widths), fun _ => mem_border, ?_, ?_⟩
  · refine List.forall₂_map_right_iff.mpr (List.forall₂_same.mpr fun row member => ?_)
    apply shows_rowLines
    rcases List.mem_cons.mp member with rfl | member
    · exact length
    · exact length.trans (even row member).symm
  · have some : lines header rows ≠ [] := List.cons_ne_nil _ _
    rw [render, String.toList_append, String.toList_ofList]
    refine (intercalate_concat ['\n'] some).trans ?_
    rw [lines, List.flatMap_map]

end Table

theorem Report.draws_table (report : Report) :
    Table.Draws (tableHeader :: report.files.map tableRow) (report.table ++ "\n") := by
  apply Table.draws_render
  intro row member
  obtain ⟨file, -, rfl⟩ := List.mem_map.mp member
  rfl

end FontSubset
