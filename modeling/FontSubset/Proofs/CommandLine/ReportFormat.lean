import FontSubset.Proofs.CommandLine.Course
import FontSubset.Proofs.Report.Reading
/-! The report as JSON instead of a table. Both are printed of the same run, and the exit status
is the same as long as every font has a path that is UTF-8; the JSON of a report with any other
path cannot be written, and then the program fails although the run did not. -/
namespace FontSubset
open Json

/-- What is printed of a report is one JSON text, from which the report is read back. -/
theorem Report.read_printed {report : Report} {value : Value} (h : report.encode = .ok value) :
    decodeText (Report.decode depthLimit) (value.writePretty ++ "\n") = .ok report := by
  have newLine : IsBlank ['\n'] := List.forall_mem_singleton.mpr (.inr (.inl rfl))
  have read : Draft.read (value.writePretty ++ "\n") = (value.draft, true) := by
    apply SpellsPadded.read
    rw [String.toList_append, Value.writePretty, String.toList_ofList]
    exact (Value.spells_pretty (Report.plain_encode h) 0).padded.before_blank newLine
  rw [decodeText, read]
  simp only [Report.decode_draft (by decide : 4 < depthLimit) h]
  rfl

namespace CommandLine
namespace Configuration

variable {configuration : Configuration}

theorem verdict_of_json (json : configuration.report = .json) (colored : Bool) {report : Report}
    {value : Value} (encoded : report.encode = .ok value) :
    configuration.verdict colored (.ok report) =
      ⟨value.writePretty ++ "\n", complaintOf? configuration.batch.strict report⟩ := by
  simp only [verdict, print, json, encoded, Except.map]

theorem verdict_of_not_utf8 (json : configuration.report = .json) (colored : Bool)
    {report : Report} (stray : ∃ file ∈ report.files, ¬ file.font.path.IsUtf8) :
    configuration.verdict colored (.ok report) =
      .failure ⟨"path contains invalid UTF-8 characters", []⟩ := by
  obtain ⟨file, member, notUtf8⟩ := stray
  cases encoded : report.encode with
  | error cause =>
    cases cause
    simp only [verdict, print, json, encoded, Except.map]
    rfl
  | ok value => exact absurd (report.encodes_iff.mp ⟨value, encoded⟩ file member) notUtf8

/-! One configuration with each of the two formats. -/

variable {σ : Type} (configuration : Configuration) (backend : Subprocess → Backend σ)
variable (colored : Bool) (world : σ)

/-- What a program comes to when it prints its report in a format. -/
def verdictIn (format : ReportFormat) : Verdict :=
  ({ configuration with report := format }.perform backend colored ⟨world, []⟩).1

/-- The format of the report does not reach the world. -/
theorem perform_world (format : ReportFormat) :
    ({ configuration with report := format }.perform backend colored ⟨world, []⟩).2 =
      (configuration.perform backend colored ⟨world, []⟩).2 := by
  let inFormat := { configuration with report := format }
  by_cases blank : configuration.BlankTool
  · have blankInFormat : inFormat.BlankTool := blank
    rw [perform_of_blankTool blank, perform_of_blankTool blankInFormat]
  · have toolInFormat : ¬ inFormat.BlankTool := blank
    rw [perform_of_tool blank, perform_of_tool toolInFormat]
    rfl

variable {configuration backend world}

theorem verdictIn_of_fault (format : ReportFormat)
    (fault : configuration.BlankTool ∨ configuration.ListFault backend world ∨
      configuration.ScanFault backend world) :
    (configuration.verdictIn backend colored world format).exitCode = 1 := by
  let inFormat := { configuration with report := format }
  have faultInFormat : inFormat.BlankTool ∨ inFormat.ListFault backend world ∨
      inFormat.ScanFault backend world := fault
  obtain ⟨complaint, fails⟩ := perform_of_fault faultInFormat colored
  rw [verdictIn, fails]
  rfl

variable {report : Report} (reports : configuration.Reports backend world report)
include reports

theorem verdictIn_of_reports (format : ReportFormat) :
    configuration.verdictIn backend colored world format =
      { configuration with report := format }.verdict colored (.ok report) := by
  let inFormat := { configuration with report := format }
  have reportsInFormat : inFormat.Reports backend world report := reports
  exact perform_of_reports reportsInFormat colored

theorem verdictIn_table :
    configuration.verdictIn backend colored world .table =
      ⟨Summary.render colored report, complaintOf? configuration.batch.strict report⟩ :=
  (verdictIn_of_reports colored reports .table).trans (verdict_of_table rfl colored report)

theorem verdictIn_json {value : Value} (encoded : report.encode = .ok value) :
    configuration.verdictIn backend colored world .json =
      ⟨value.writePretty ++ "\n", complaintOf? configuration.batch.strict report⟩ :=
  (verdictIn_of_reports colored reports .json).trans (verdict_of_json rfl colored encoded)

theorem verdictIn_json_of_not_utf8 (stray : ∃ file ∈ report.files, ¬ file.font.path.IsUtf8) :
    configuration.verdictIn backend colored world .json =
      .failure ⟨"path contains invalid UTF-8 characters", []⟩ :=
  (verdictIn_of_reports colored reports .json).trans (verdict_of_not_utf8 rfl colored stray)

end Configuration

variable {σ : Type} (backend : Subprocess → Backend σ) (environment : Environment)
variable (accountHome : Option String) {words words' : List Bytes} (world : σ)

theorem ofSelection_in_format (home : Option String) (selection : Selection)
    (format : ReportFormat) :
    Configuration.ofSelection home { selection with report := some format } =
      { Configuration.ofSelection home selection with report := format } := rfl

/-- What is seen of a program whose report is printed in a format. -/
theorem run_in_format {selection : Selection} {format : ReportFormat}
    (accepted : select environment words = .ok { selection with report := some format }) :
    let configuration := Configuration.ofSelection (home? environment accountHome) selection
    let verdict := configuration.verdictIn backend (Paint.forced environment) world format
    let done := run backend environment accountHome words world
    (done.1.exitCode = verdict.exitCode ∧ done.1.stdout = verdict.stdout ∧
      done.1.stderr = verdict.stderr) ∧
    done.2 = (configuration.perform backend (Paint.forced environment) ⟨world, []⟩).2.world := by
  have seen := transcript_of_select backend accountHome world accepted
  rw [ofSelection_in_format] at seen
  refine ⟨seen, ?_⟩
  rw [run_of_select accepted, ofSelection_in_format]
  exact congrArg Session.world (Configuration.perform_world ..)

/-- Two command lines that choose the same but for the format of the report lead to the same
run. Both exit alike, and the JSON tells the whole report, just when every font in the report
has a path that is UTF-8. With another path the program that writes JSON fails and prints
nothing. -/
theorem json_agrees_iff_utf8 {selection : Selection}
    (table : select environment words = .ok { selection with report := some .table })
    (json : select environment words' = .ok { selection with report := some .json }) :
    let configuration := Configuration.ofSelection (home? environment accountHome) selection
    let tableRun := run backend environment accountHome words world
    let jsonRun := run backend environment accountHome words' world
    tableRun.2 = jsonRun.2 ∧
    ((jsonRun.1.exitCode = tableRun.1.exitCode ∧
        ∀ report, configuration.Reports backend world report →
          decodeText (Report.decode depthLimit) jsonRun.1.stdout = .ok report) ↔
      ∀ report, configuration.Reports backend world report →
        ∀ file ∈ report.files, file.font.path.IsUtf8) ∧
    ∀ report, configuration.Reports backend world report →
      (∃ file ∈ report.files, ¬ file.font.path.IsUtf8) →
      jsonRun.1.exitCode = 1 ∧ jsonRun.1.stdout = "" ∧
        jsonRun.1.stderr = "Error: path contains invalid UTF-8 characters\n" := by
  intro configuration tableRun jsonRun
  let colored := Paint.forced environment
  let tableVerdict := configuration.verdictIn backend colored world .table
  let jsonVerdict := configuration.verdictIn backend colored world .json
  obtain ⟨⟨tableExit, -, -⟩, tableWorld⟩ :
      (tableRun.1.exitCode = tableVerdict.exitCode ∧ _ ∧ _) ∧ _ :=
    run_in_format backend environment accountHome world table
  obtain ⟨⟨jsonExit, jsonStdout, jsonStderr⟩, jsonWorld⟩ :
      (jsonRun.1.exitCode = jsonVerdict.exitCode ∧ jsonRun.1.stdout = jsonVerdict.stdout ∧
        jsonRun.1.stderr = jsonVerdict.stderr) ∧ _ :=
    run_in_format backend environment accountHome world json
  refine ⟨tableWorld.trans jsonWorld.symm, ?_⟩
  rw [tableExit, jsonExit, jsonStdout, jsonStderr]
  obtain fault | ⟨report, reports⟩ := configuration.fault_or_reports backend world
  · -- Nothing is reported, and both complain.
    have vacuous (P : Report → Prop) :
        ∀ report, configuration.Reports backend world report → P report :=
      fun report reports => absurd fault reports.no_fault
    have same : jsonVerdict.exitCode = tableVerdict.exitCode :=
      (Configuration.verdictIn_of_fault colored .json fault).trans
        (Configuration.verdictIn_of_fault colored .table fault).symm
    exact ⟨iff_of_true ⟨same, vacuous _⟩ (vacuous _), vacuous _⟩
  · have only (P : Report → Prop) :
        (∀ report, configuration.Reports backend world report → P report) ↔ P report :=
      ⟨fun all => all report reports, fun h other others => reports.unique others ▸ h⟩
    simp only [only]
    by_cases utf8 : ∀ file ∈ report.files, file.font.path.IsUtf8
    · obtain ⟨value, encoded⟩ := report.encodes_iff.mpr utf8
      have tablePrinted : tableVerdict = _ := Configuration.verdictIn_table colored reports
      have jsonPrinted : jsonVerdict = _ := Configuration.verdictIn_json colored reports encoded
      rw [tablePrinted, jsonPrinted]
      refine ⟨iff_of_true ⟨rfl, Report.read_printed encoded⟩ utf8, ?_⟩
      rintro ⟨file, member, notUtf8⟩
      exact absurd (utf8 file member) notUtf8
    · have stray : ∃ file ∈ report.files, ¬ file.font.path.IsUtf8 := by
        by_contra none
        exact utf8 fun file member => by_contra fun notUtf8 => none ⟨file, member, notUtf8⟩
      have jsonFails : jsonVerdict = _ :=
        Configuration.verdictIn_json_of_not_utf8 colored reports stray
      rw [jsonFails]
      refine ⟨iff_of_false ?_ utf8, fun _ => ⟨rfl, rfl, ?_⟩⟩
      · rintro ⟨-, read⟩
        cases read
      · exact Complaint.text_of_no_causes _

/-- A font with a plain name, and a strict program whose tool cannot be started. -/
theorem json_agrees_iff_utf8_plain :
    let words (format : String) := ["--strict", "--report", format].map Text.encode
    let backend := fun _ => Rehearsal.backend (fun _ => .file) (.exactly [⟨"a.ttf"⟩])
      (.refuse "not found")
    let stage : Rehearsal.Stage := ⟨⟨0, 5⟩, []⟩
    let report : Report := ⟨[⟨⟨"a.ttf"⟩, .spawnFailed "not found", 5⟩], false⟩
    let selection : Selection := { Selection.empty with strict := true }
    select [] (words "table") = .ok { selection with report := some .table } ∧
      select [] (words "json") = .ok { selection with report := some .json } ∧
      (run backend [] none (words "json") stage).1.exitCode =
        (run backend [] none (words "table") stage).1.exitCode ∧
      decodeText (Report.decode depthLimit) (run backend [] none (words "json") stage).1.stdout =
        .ok report := by
  intro words backend stage report selection
  have table : select [] (words "table") = .ok { selection with report := some .table } := rfl
  have json : select [] (words "json") = .ok { selection with report := some .json } := rfl
  have reports : (Configuration.ofSelection none selection).Reports backend stage report :=
    ⟨fun blank => absurd (blank 'p' (by decide)) (by decide), by decide +kernel⟩
  have utf8 : ∀ other, (Configuration.ofSelection none selection).Reports backend stage other →
      ∀ file ∈ other.files, file.font.path.IsUtf8 := by
    intro other others
    rw [← reports.unique others]
    exact List.forall_mem_singleton.mpr ⟨"a.ttf", rfl⟩
  have agrees := (json_agrees_iff_utf8 backend [] none stage table json).2.1.mpr utf8
  exact ⟨table, json, agrees.1, agrees.2 report reports⟩

/-- A font whose name is no text: the table is printed and the program ends well, while the
program that writes JSON fails with nothing printed, although the tool did the same. -/
theorem json_disagrees_on_stray_byte :
    let words (format : String) := ["--report", format].map Text.encode
    let backend := fun _ => Rehearsal.backend (fun _ => .file)
      (.exactly [⟨⟨[0xFF, 0x2E, 0x74, 0x74, 0x66]⟩⟩]) .succeed
    let stage : Rehearsal.Stage := ⟨⟨0, 5⟩, []⟩
    select [] (words "table") = .ok { Selection.empty with report := some .table } ∧
      select [] (words "json") = .ok { Selection.empty with report := some .json } ∧
      (run backend [] none (words "table") stage).1.exitCode = 0 ∧
      (run backend [] none (words "json") stage).1.exitCode = 1 ∧
      (run backend [] none (words "json") stage).1.stdout = "" := by
  decide +kernel

end CommandLine
end FontSubset
