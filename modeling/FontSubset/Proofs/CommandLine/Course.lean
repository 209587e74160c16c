import FontSubset.CommandLine.Program
import FontSubset.Proofs.Batch.DryRun
/-! The course of a program: what its configuration, the character list and the scan make of
it before any font is touched, and what it prints in each case. -/
namespace FontSubset

namespace CommandLine

theorem Complaint.text_of_no_causes (head : String) :
    Complaint.text ⟨head, []⟩ = "Error: " ++ head ++ "\n" := by
  simp [Complaint.text, Complaint.causeLines, String.join]

theorem complaintOf?_eq_none_iff {strict : Bool} {report : Report} :
    complaintOf? strict report = none ↔ ¬ (strict = true ∧ report.isSuccess = false) := by
  simp [complaintOf?]

theorem complaintOf?_of_failure {strict : Bool} {report : Report}
    (failure : strict = true ∧ report.isSuccess = false) :
    complaintOf? strict report = some ⟨toString report.failed ++ " of " ++
      toString report.total ++ " invocations failed", []⟩ := by
  simp [complaintOf?, failure]

theorem Verdict.exitCode_eq_zero_or_one (verdict : Verdict) :
    verdict.exitCode = 0 ∨ verdict.exitCode = 1 := by
  unfold exitCode
  split
  · exact .inr rfl
  · exact .inl rfl

theorem Verdict.exitCode_eq_one_iff {verdict : Verdict} :
    verdict.exitCode = 1 ↔ verdict.complaint ≠ none := by
  unfold exitCode
  cases verdict.complaint <;> simp

variable {σ : Type}

namespace Configuration

variable (configuration : Configuration) (backend : Subprocess → Backend σ) (world : σ)

/-- The tool's command, its tilde expanded, is empty or blank. -/
def BlankTool : Prop := ∀ c ∈ configuration.tool.toList, Text.isBlank c = true

def tools : Backend σ := backend (configuration.subprocess ⟨configuration.tool⟩)

def opening : Session σ :=
  let batch := configuration.batch
  ⟨world, [.programStarting version,
    .configured batch.root ⟨configuration.tool⟩ batch.options batch.dryRun]⟩

/-- The program is strict, and the character list is missing or no file. -/
def ListFault : Prop :=
  configuration.batch.IsFatal (configuration.tools backend) (configuration.opening world)

def ScanFault : Prop :=
  ∃ cause, configuration.batch.scanResult (configuration.tools backend)
    (configuration.opening world) = .error cause

/-- The tool has a command, and the batch comes to this report. -/
def Reports (report : Report) : Prop :=
  ¬ configuration.BlankTool ∧
    (configuration.batch.run (configuration.tools backend) (configuration.opening world)).1 =
      .ok report

/-- The program is strict and no dry run, and the tool failed on a font. -/
def FontFault : Prop :=
  configuration.batch.strict = true ∧ configuration.batch.dryRun = false ∧
    ∃ report, configuration.Reports backend world report ∧
      ∃ file ∈ report.files, file.outcome.Fails

variable {configuration backend world}

/-- What passes between a program and the clock, the scanner and the tool. -/
def contacts (configuration : Configuration) (backend : Subprocess → Backend σ) (colored : Bool)
    (world : σ) : List Contact :=
  (configuration.perform (fun child => (backend child).watched) colored
    ⟨⟨world, []⟩, []⟩).2.world.contacts

theorem perform_of_blankTool (blank : configuration.BlankTool) (colored : Bool) :
    configuration.perform backend colored ⟨world, []⟩ =
      (.failure ⟨"Invalid --tool", ["Tool command must not be empty"]⟩,
        ⟨world, [.programStarting version]⟩) := by
  have refused : Tool.parse configuration.tool = .error .emptyTool :=
    if_pos (List.all_eq_true.mpr blank)
  unfold perform
  simp only [Action.bind_apply, Action.say_apply, refused]
  rfl

theorem perform_of_tool (named : ¬ configuration.BlankTool) (colored : Bool) :
    configuration.perform backend colored ⟨world, []⟩ =
      let done := configuration.batch.run (configuration.tools backend)
        (configuration.opening world)
      (configuration.verdict colored done.1, done.2) := by
  have accepted : Tool.parse configuration.tool = .ok ⟨configuration.tool⟩ :=
    if_neg (mt List.all_eq_true.mp named)
  unfold perform
  simp only [Action.bind_apply, Action.say_apply, accepted]
  rfl

/-- A fault of the tool's command, the character list or the scan, or else a report. -/
theorem fault_or_reports (configuration : Configuration) (backend : Subprocess → Backend σ)
    (world : σ) :
    (configuration.BlankTool ∨ configuration.ListFault backend world ∨
      configuration.ScanFault backend world) ∨
    ∃ report, configuration.Reports backend world report := by
  by_cases blank : configuration.BlankTool
  · exact .inl (.inl blank)
  by_cases fatal : configuration.ListFault backend world
  · exact .inl (.inr (.inl fatal))
  cases found : configuration.batch.scanResult (configuration.tools backend)
      (configuration.opening world) with
  | error cause => exact .inl (.inr (.inr ⟨cause, found⟩))
  | ok fonts => exact .inr ⟨_, blank, congrArg Prod.fst (Batch.run_of_scan_ok fatal found)⟩

theorem Reports.unique {report other : Report} (h : configuration.Reports backend world report)
    (h' : configuration.Reports backend world other) : report = other :=
  Except.ok.inj (h.2.symm.trans h'.2)

/-- Where there is a report, there was no fault before. -/
theorem Reports.no_fault {report : Report} (h : configuration.Reports backend world report) :
    ¬ (configuration.BlankTool ∨ configuration.ListFault backend world ∨
      configuration.ScanFault backend world) := by
  obtain ⟨named, ok⟩ := h
  obtain ⟨sound, fonts, found⟩ := Batch.scanned_of_run_ok ok
  rintro (blank | fatal | ⟨cause, refused⟩)
  · exact named blank
  · exact sound fatal
  · cases found.symm.trans refused

theorem fontFault_iff {report : Report} (h : configuration.Reports backend world report) :
    configuration.FontFault backend world ↔
      configuration.batch.strict = true ∧ report.isSuccess = false := by
  constructor
  · rintro ⟨strict, -, other, reports, failing⟩
    cases h.unique reports
    exact ⟨strict, Report.isSuccess_eq_false_iff.mpr failing⟩
  · rintro ⟨strict, failing⟩
    refine ⟨strict, ?_, report, h, Report.isSuccess_eq_false_iff.mp failing⟩
    apply Bool.eq_false_of_not_eq_true
    intro dry
    rw [Batch.no_failure_of_dry dry h.2] at failing
    cases failing

theorem perform_of_fault
    (fault : configuration.BlankTool ∨ configuration.ListFault backend world ∨
      configuration.ScanFault backend world) (colored : Bool) :
    ∃ complaint, (configuration.perform backend colored ⟨world, []⟩).1 = .failure complaint := by
  by_cases blank : configuration.BlankTool
  · rw [perform_of_blankTool blank]
    exact ⟨_, rfl⟩
  rw [perform_of_tool blank]
  cases result : (configuration.batch.run (configuration.tools backend)
      (configuration.opening world)).1 with
  | error cause => exact ⟨_, congrArg (configuration.verdict colored) result⟩
  | ok report => exact absurd fault (Reports.no_fault ⟨blank, result⟩)

theorem verdict_of_table (table : configuration.report = .table) (colored : Bool)
    (report : Report) :
    configuration.verdict colored (.ok report) =
      ⟨Summary.render colored report, complaintOf? configuration.batch.strict report⟩ := by
  simp only [verdict, print, table]

theorem perform_of_reports {report : Report} (h : configuration.Reports backend world report)
    (colored : Bool) :
    (configuration.perform backend colored ⟨world, []⟩).1 =
      configuration.verdict colored (.ok report) := by
  rw [perform_of_tool h.1]
  exact congrArg (configuration.verdict colored) h.2

/-- Before a font is touched, the tool is not started. -/
theorem contacts_of_fault
    (fault : configuration.BlankTool ∨ configuration.ListFault backend world ∨
      configuration.ScanFault backend world) (colored : Bool) :
    ∀ contact ∈ configuration.contacts backend colored world, contact.isOfTool = false := by
  intro contact member
  unfold contacts at member
  by_cases blank : configuration.BlankTool
  · rw [perform_of_blankTool blank] at member
    cases member
  rw [perform_of_tool blank] at member
  have member : contact ∈ configuration.batch.contacts (configuration.tools backend)
      (configuration.opening world) := member
  by_cases fatal : configuration.ListFault backend world
  · rw [Batch.contacts_of_isFatal fatal] at member
    cases member
  obtain ⟨cause, refused⟩ := (fault.resolve_left blank).resolve_left fatal
  rw [Batch.contacts_of_scan_error fatal refused, List.mem_singleton] at member
  rw [member]
  rfl

end Configuration

variable {backend : Subprocess → Backend σ} {environment : Environment}
variable {accountHome : Option String} {words : List Bytes} {selection : Selection} {world : σ}

/-- A command line that is read leads to a configuration, and this is performed. -/
theorem run_of_select (accepted : select environment words = .ok selection) :
    run backend environment accountHome words world =
      let configuration := Configuration.ofSelection (home? environment accountHome) selection
      let done := configuration.perform backend (Paint.forced environment) ⟨world, []⟩
      let filter := LogFilter.ofVariable (environment.get? (Text.encode "RUST_LOG"))
      (⟨done.1.exitCode, done.1.stdout, done.1.stderr, done.2.log.filter filter.keeps,
        configuration.logFormat⟩, done.2.world) := by
  unfold run
  rw [accepted]
  rfl

theorem transcript_of_select (backend : Subprocess → Backend σ) (accountHome : Option String)
    (world : σ) (accepted : select environment words = .ok selection) :
    let configuration := Configuration.ofSelection (home? environment accountHome) selection
    let verdict := (configuration.perform backend (Paint.forced environment) ⟨world, []⟩).1
    let transcript := (run backend environment accountHome words world).1
    transcript.exitCode = verdict.exitCode ∧ transcript.stdout = verdict.stdout ∧
      transcript.stderr = verdict.stderr := by
  intro configuration verdict transcript
  simp only [transcript, run_of_select accepted]
  exact ⟨rfl, rfl, rfl⟩

/-- What passes between the program and the clock, the scanner and the tool. -/
def contacts (backend : Subprocess → Backend σ) (environment : Environment)
    (accountHome : Option String) (words : List Bytes) (world : σ) : List Contact :=
  (run (fun child => (backend child).watched) environment accountHome words ⟨world, []⟩).2.contacts

theorem contacts_of_select (accepted : select environment words = .ok selection) :
    contacts backend environment accountHome words world =
      (Configuration.ofSelection (home? environment accountHome) selection).contacts backend
        (Paint.forced environment) world := by
  unfold contacts
  rw [run_of_select accepted]
  rfl

end CommandLine
end FontSubset
