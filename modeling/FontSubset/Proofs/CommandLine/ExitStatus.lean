import FontSubset.Proofs.CommandLine.Course
/-! The exit status with the table. A program fails because of its tool's command, the character
list, the scan, or, if it is strict, a font; in the last case and where it does not fail, the
summary of all fonts is printed. -/
namespace FontSubset

theorem Table.infix_intercalate {separator line : List Char} {lines : List (List Char)}
    (member : line ∈ lines) : line <:+: separator.intercalate lines := by
  induction lines with
  | nil => cases member
  | cons first rest ih =>
    cases rest with
    | nil =>
      rw [List.mem_singleton.mp member, List.intercalate_singleton]
    | cons next rest =>
      rw [List.intercalate_cons_cons, List.append_assoc]
      obtain rfl | later := List.mem_cons.mp member
      · exact (List.prefix_append line _).isInfix
      · rw [← List.append_assoc]
        exact (ih later).trans (List.suffix_append _ _).isInfix

/-- Every line of every row stands in a table. -/
theorem Table.infix_render {header row : Row} {rows : List Row} (member : row ∈ rows)
    {line : List Char} (h : line ∈ rowLines (contentWidths header rows) row) :
    line <:+: (render header rows).toList := by
  unfold render
  rw [String.toList_ofList]
  apply infix_intercalate
  apply List.mem_cons_of_mem
  apply List.mem_flatMap.mpr
  exact ⟨row, List.mem_cons_of_mem _ member, List.mem_append_left _ h⟩

namespace CommandLine

/-- The lines that tell in a summary what became of a font. -/
def Summary.linesOf (report : Report) (file : FileReport) : List (List Char) :=
  Table.rowLines (Table.contentWidths Report.tableHeader (report.files.map Report.tableRow))
    (Report.tableRow file)

theorem Summary.infix_render (colored : Bool) {report : Report} {file : FileReport}
    (member : file ∈ report.files) {line : List Char} (h : line ∈ linesOf report file) :
    line <:+: (render colored report).toList := by
  have some : report.files.isEmpty = false := by
    rw [List.isEmpty_eq_false_iff]
    exact List.ne_nil_of_mem member
  have table : line <:+: report.table.toList :=
    Table.infix_render (List.mem_map_of_mem member) h
  unfold render
  simp only [some, Bool.false_eq_true, if_false, String.toList_append, List.append_assoc]
  exact table.trans (List.prefix_append _ _).isInfix

variable {σ : Type}
variable (backend : Subprocess → Backend σ) (environment : Environment)
variable (accountHome : Option String) (words : List Bytes) (world : σ)

/-- With the table, a program exits with 1 because of a blank tool, or the character list if it
is strict, or the scan, or a font that failed if it is strict and no dry run; else it exits
with 0. Until a font is handed to the tool nothing is printed; after that the summary has all
fonts, and a strict program says how many failed. -/
theorem table_exit_status {selection : Selection}
    (accepted : select environment words = .ok selection)
    (table : selection.report.getD .table = .table) :
    let configuration := Configuration.ofSelection (home? environment accountHome) selection
    let batch := configuration.batch
    let tools := configuration.tools backend
    let opening := configuration.opening world
    let transcript := (run backend environment accountHome words world).1
    (transcript.exitCode = 1 ↔
      configuration.BlankTool ∨ configuration.ListFault backend world ∨
        configuration.ScanFault backend world ∨ configuration.FontFault backend world) ∧
    (transcript.exitCode = 0 ∨ transcript.exitCode = 1) ∧
    (∀ files : Files, (tools.presence batch.options.textFile world).1 =
        files.presence batch.options.textFile →
      (configuration.ListFault backend world ↔ selection.strict = true ∧
        ¬ ∃ node, files.find batch.options.textFile = .ok node ∧ node.isFile = true)) ∧
    (configuration.BlankTool ∨ configuration.ListFault backend world ∨
        configuration.ScanFault backend world →
      transcript.stdout = "" ∧
        ∀ contact ∈ contacts backend environment accountHome words world,
          contact.isOfTool = false) ∧
    (configuration.FontFault backend world ∨ transcript.exitCode = 0 →
      ∃ report, configuration.Reports backend world report ∧
        batch.scanResult tools opening = .ok (report.files.map (·.font)) ∧
        transcript.stdout = Summary.render (Paint.forced environment) report ∧
        (∀ file ∈ report.files, ∀ line ∈ Summary.linesOf report file,
          line <:+: transcript.stdout.toList) ∧
        (configuration.FontFault backend world → transcript.stderr =
          "Error: " ++ toString (report.files.filter fun file => file.outcome.Fails).length ++
            " of " ++ toString report.files.length ++ " invocations failed\n")) := by
  intro configuration batch tools opening transcript
  let colored := Paint.forced environment
  let verdict := (configuration.perform backend colored ⟨world, []⟩).1
  obtain ⟨exit, stdout, stderr⟩ : transcript.exitCode = verdict.exitCode ∧
      transcript.stdout = verdict.stdout ∧ transcript.stderr = verdict.stderr :=
    transcript_of_select backend accountHome world accepted
  rw [exit, stdout, stderr]
  have sights (files : Files) (seen : (tools.presence batch.options.textFile world).1 =
      files.presence batch.options.textFile) :
      configuration.ListFault backend world ↔ selection.strict = true ∧
        ¬ ∃ node, files.find batch.options.textFile = .ok node ∧ node.isFile = true := by
    rw [← Files.presence_eq_file_iff, ← seen]
    exact Iff.rfl
  obtain fault | ⟨report, reports⟩ := configuration.fault_or_reports backend world
  · -- The program fails before any font is touched.
    obtain ⟨complaint, failed⟩ := Configuration.perform_of_fault fault colored
    have failed : verdict = .failure complaint := failed
    have silent : ¬ configuration.FontFault backend world := by
      rintro ⟨-, -, report, reports, -⟩
      exact reports.no_fault fault
    rw [failed]
    have faults : configuration.BlankTool ∨ configuration.ListFault backend world ∨
        configuration.ScanFault backend world ∨ configuration.FontFault backend world :=
      fault.imp id (Or.imp id .inl)
    refine ⟨iff_of_true rfl faults, .inr rfl, sights, fun _ => ⟨rfl, ?_⟩, ?_⟩
    · rw [contacts_of_select accepted]
      exact Configuration.contacts_of_fault fault colored
    · rintro (fontFault | zero)
      · exact absurd fontFault silent
      · cases zero
  · -- All fonts are reported, and being strict decides.
    have printed : verdict =
        ⟨Summary.render colored report, complaintOf? configuration.batch.strict report⟩ :=
      (Configuration.perform_of_reports reports colored).trans
        (Configuration.verdict_of_table table colored report)
    have fontFault := Configuration.fontFault_iff reports
    have fails : verdict.exitCode = 1 ↔ configuration.FontFault backend world := by
      rw [Verdict.exitCode_eq_one_iff, printed, ne_eq, complaintOf?_eq_none_iff,
        not_not, fontFault]
    have spared := reports.no_fault
    have only : configuration.FontFault backend world ↔
        configuration.BlankTool ∨ configuration.ListFault backend world ∨
          configuration.ScanFault backend world ∨ configuration.FontFault backend world := by
      rw [← or_assoc, ← or_assoc, or_assoc (a := configuration.BlankTool), or_iff_right spared]
    refine ⟨fails.trans only, verdict.exitCode_eq_zero_or_one, sights,
      fun fault => absurd fault spared, fun _ => ⟨report, reports, ?_, ?_, ?_, ?_⟩⟩
    · exact Batch.fonts_of_run_ok reports.2
    · rw [printed]
    · intro file member line h
      rw [printed]
      exact Summary.infix_render colored member h
    · intro failure
      rw [printed, complaintOf?_of_failure (fontFault.mp failure),
        ← Report.failed_eq]
      simp only [Verdict.stderr, Option.map_some, Option.getD_some,
        Complaint.text_of_no_causes, String.append_assoc, Report.total]
      rfl

/-- A strict program, and a tool that is too late for the second of three fonts. -/
theorem table_exit_status_late :
    let words := ["--strict", "--report", "table", "--tool", "cut"].map Text.encode
    let selection : Selection :=
      { Selection.empty with tool := some "cut", report := some .table, strict := true }
    let configuration := Configuration.ofSelection none selection
    let backend := fun _ => Rehearsal.backend (fun _ => .file)
      (.exactly [⟨"a.ttf"⟩, ⟨"b.ttf"⟩, ⟨"c.ttf"⟩])
      (.script [.ok Rehearsal.silence, .error (.timeout 5)])
    let stage : Rehearsal.Stage := ⟨⟨0, 5⟩, []⟩
    select [] words = .ok selection ∧ selection.report.getD .table = .table ∧
      configuration.FontFault backend stage ∧
      (run backend [] none words stage).1.exitCode = 1 ∧
      (run backend [] none words stage).1.stderr = "Error: 1 of 3 invocations failed\n" := by
  intro words selection configuration backend stage
  have accepted : select [] words = .ok selection := rfl
  let report : Report :=
    ⟨[⟨⟨"a.ttf"⟩, .succeeded none, 1⟩, ⟨⟨"b.ttf"⟩, .timedOut 5, 5⟩,
      ⟨⟨"c.ttf"⟩, .succeeded none, 1⟩], false⟩
  have reports : configuration.Reports backend stage report :=
    ⟨fun blank => absurd (blank 'c' (by decide)) (by decide), by decide +kernel⟩
  have fault : configuration.FontFault backend stage :=
    ⟨rfl, rfl, report, reports, ⟨⟨"b.ttf"⟩, .timedOut 5, 5⟩, by simp [report], .late 5⟩
  obtain ⟨exit, -, -, -, reported⟩ := table_exit_status backend [] none words stage accepted rfl
  obtain ⟨found, reports', -, -, -, stderr⟩ := reported (.inl fault)
  cases reports.unique reports'
  have told : (run backend [] none words stage).1.stderr =
      "Error: 1 of 3 invocations failed\n" := (stderr fault).trans (by decide +kernel)
  exact ⟨accepted, rfl, fault, exit.mpr (.inr (.inr (.inr fault))), told⟩

end CommandLine
end FontSubset
