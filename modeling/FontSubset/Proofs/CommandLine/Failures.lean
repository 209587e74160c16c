import FontSubset.Proofs.Batch.Children
import FontSubset.Proofs.CommandLine.Course
import FontSubset.Proofs.Report.Drawing
/-! No failure is silent. What a summary prints is told by what the children came to: a row for
every font, the error output of those that failed and had any, and the totals. -/
namespace FontSubset

/-- The child failed, and not without words. -/
def ChildResult.complains : ChildResult → Bool
  | ended exitCode _ stderr => exitCode != some 0 && (Text.lossy stderr).toList.any (!Text.isBlank ·)
  | refused _ | lost _ | overtime => false

theorem ChildResult.complains_iff {exitCode : Option Int32} {stdout stderr : Bytes} {limit : Nat}
    {kept : String} (nonzero : exitCode ≠ some 0)
    (cut : Text.CutTo limit (Text.lossy stderr).toList kept.toList) :
    (ended exitCode stdout stderr).complains = true ↔ kept ≠ "" := by
  rw [ne_eq, ← String.toList_eq_nil_iff, cut.eq_nil_iff]
  simp [complains, nonzero]

namespace CommandLine.Summary

/-- A font on which a child failed, and the block that has its name and what the child said. -/
inductive IsDetail (colored : Bool) : Font × ChildResult → String → Prop
  | said {font : Font} {exitCode : Option Int32} {stdout stderr : Bytes} {kept : String}
    (failed : exitCode ≠ some 0)
    (cut : Text.CutTo 4096 (Text.lossy stderr).toList kept.toList) :
    IsDetail colored (font, .ended exitCode stdout stderr)
      (Paint.red.on colored "✗" ++ " " ++ Paint.bold.on colored font.display ++ "\n" ++ kept ++
        "\n\n")

variable {child : Subprocess} {colored : Bool}

/-- A font has a block just if its child complained. -/
theorem detail?_of_comesTo (colored : Bool) {result : ChildResult} {file : FileReport}
    (come : result.ComesTo child file.outcome) :
    (result.complains = false ∧ detail? colored file = none) ∨
      ∃ block, result.complains = true ∧ detail? colored file = some block ∧
        IsDetail colored (file.font, result) block := by
  obtain ⟨font, outcome, duration⟩ := file
  cases come with
  | success stdout stderr => exact .inl ⟨rfl, rfl⟩
  | unstarted reason => exact .inl ⟨rfl, rfl⟩
  | unread reason => exact .inl ⟨rfl, rfl⟩
  | late => exact .inl ⟨rfl, rfl⟩
  | @failure exitCode stdout stderr kept nonzero cut =>
    have loud : (ChildResult.ended exitCode stdout stderr).complains = true ↔ kept ≠ "" :=
      ChildResult.complains_iff nonzero cut
    by_cases empty : kept = ""
    · refine .inl ⟨?_, by simp [detail?, empty]⟩
      rw [Bool.eq_false_iff, ne_eq, loud]
      exact not_not_intro empty
    · exact .inr ⟨_, loud.mpr empty, by simp [detail?, cross, empty], .said nonzero cut⟩

theorem isDetail_details {results : List ChildResult} {files : List FileReport}
    (come : List.Forall₂ (fun result file => result.ComesTo child file.outcome) results files) :
    List.Forall₂ (IsDetail colored)
      (((files.map (·.font)).zip results).filter fun pair => pair.2.complains)
      (files.filterMap (detail? colored)) := by
  induction come with
  | nil => exact .nil
  | @cons result file results files come later ih =>
    rw [List.map_cons, List.zip_cons_cons]
    rcases detail?_of_comesTo colored come with
      ⟨quiet, none⟩ | ⟨block, loud, some, detail⟩
    · simpa [quiet, none] using ih
    · simpa [loud, some] using List.Forall₂.cons detail ih

theorem render_of_no_files {report : Report} (none : report.files = []) :
    render colored report = Paint.yellow.on colored "No .ttf files found" ++ "\n" := by
  simp [render, none]

theorem totals_of_wet {report : Report} (wet : report.dryRun = false) :
    totals colored report =
      "  " ++ Paint.green.on colored "✓" ++ " " ++ toString report.succeeded ++ " subset\n" ++
        if report.failed = 0 then ""
        else "  " ++ Paint.red.on colored "✗" ++ " " ++ toString report.failed ++ " failed\n" := by
  simp only [totals, wet, total, cross, Bool.false_eq_true, if_false, Nat.pos_iff_ne_zero, ne_eq,
    ite_not, String.append_assoc]
  rfl

theorem render_of_files {report : Report} (some : report.files ≠ []) :
    render colored report =
      report.table ++ "\n" ++ "\n" ++ String.join (details colored report) ++
        totals colored report := by
  have notEmpty : report.files.isEmpty = false := List.isEmpty_eq_false_iff.mpr some
  simp only [render, notEmpty, Bool.false_eq_true, if_false, String.append_assoc]
  rfl

/-- What a summary has to tell of the fonts that were handed to the tool: each in a row of the
table, then what the children that failed had to say, then the totals. -/
structure Tells (colored : Bool) (results : List ChildResult) (files : List FileReport)
    (text : String) : Prop where
  nothing : files = [] → text = Paint.yellow.on colored "No .ttf files found" ++ "\n"
  everything : files ≠ [] → ∃ drawn details,
    Table.Draws
      (["Font".toList, "Result".toList, "Time (ms)".toList] :: files.map fun file =>
        [file.font.display.toList, file.outcome.display.toList,
          (toString file.duration.toInt).toList]) drawn ∧
    List.Forall₂ (IsDetail colored)
      (((files.map (·.font)).zip results).filter fun pair => pair.2.complains) details ∧
    text = drawn ++ "\n" ++ String.join details ++
      let succeeded := (files.filter fun file => file.outcome.isSuccess).length
      let failed := (files.filter fun file => file.outcome.Fails).length
      "  " ++ Paint.green.on colored "✓" ++ " " ++ toString succeeded ++ " subset\n" ++
        if failed = 0 then ""
        else "  " ++ Paint.red.on colored "✗" ++ " " ++ toString failed ++ " failed\n"

theorem tells_render {report : Report} {results : List ChildResult} (wet : report.dryRun = false)
    (come : List.Forall₂ (ChildResult.ComesTo child) results (report.files.map (·.outcome))) :
    Tells colored results report.files (render colored report) where
  nothing := render_of_no_files
  everything := by
    intro some
    refine ⟨_, _, report.draws_table, isDetail_details (List.forall₂_map_right_iff.mp come), ?_⟩
    have succeeded :
        (report.files.filter fun file => file.outcome.isSuccess).length = report.succeeded :=
      List.countP_eq_length_filter.symm
    rw [render_of_files some, totals_of_wet wet, ← Report.failed_eq, succeeded]
    rfl

end CommandLine.Summary

namespace CommandLine

variable {σ : Type} (backend : Backend σ)
variable (start : Subprocess → List Bytes → StateM σ ChildResult)
variable (environment : Environment) (accountHome : Option String) (words : List Bytes) (world : σ)

def children : List ChildResult :=
  (run (backend.attended.withChild (Attended.start start)) environment accountHome words
    ⟨world, []⟩).2.children

variable {environment words} in
theorem children_of_select {selection : Selection}
    (accepted : select environment words = .ok selection)
    (named : ¬ (Configuration.ofSelection (home? environment accountHome) selection).BlankTool) :
    let configuration := Configuration.ofSelection (home? environment accountHome) selection
    children backend start environment accountHome words world =
      configuration.batch.children backend start (configuration.subprocess ⟨configuration.tool⟩)
        (configuration.opening world) := by
  intro configuration
  unfold children
  rw [run_of_select accepted]
  exact congrArg (fun done : Verdict × Session (Attended σ) => done.2.world.children)
    (Configuration.perform_of_tool named (Paint.forced environment))

end CommandLine

end FontSubset
