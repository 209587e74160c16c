import FontSubset.Proofs.Batch.DryRun
/-! The log of a run beside its report. The log is taken apart where the scan is completed: what
comes before tells of no font, and after it each font has its own stretch, which ends in the
event that tells what became of it. -/
namespace FontSubset

namespace Event

/-- Comes before the fonts are known. -/
inductive IsEarly : Event → Prop
  | preflightFailed (issue : PreflightIssue) : IsEarly (.preflightFailed issue)
  | scanning (root : Path) : IsEarly (.scanning root)
  | scan (event : ScanEvent) : IsEarly (.scan event)

/-- Comes while the tool is at work on a font. -/
inductive IsOfCall : Event → Prop
  | invoking (font : Font) : IsOfCall (.invoking font)
  | tool (event : ToolEvent) : IsOfCall (.tool event)

def closing : List String :=
  ["Scan completed", "Run completed", "Font subset written", "Dry run, skipping"]

@[simp] theorem message_scanned (root : Path) (count : Nat) :
    (scanned root count).message = "Scan completed" := rfl

@[simp] theorem message_completed (counts : Counts) :
    (completed counts).message = "Run completed" := rfl

theorem IsEarly.message_notMem_closing {event : Event} (early : event.IsEarly) :
    event.message ∉ closing := by
  cases early with
  | preflightFailed issue => simp [message, closing]
  | scanning root => simp [message, closing]
  | scan event => cases event <;> simp [message, ScanEvent.message, closing]

theorem IsOfCall.message_notMem_closing {event : Event} (ofCall : event.IsOfCall) :
    event.message ∉ closing := by
  cases ofCall with
  | invoking font => simp [message, closing]
  | tool event => cases event <;> simp [message, ToolEvent.message, closing]

theorem IsOfCall.level_ne_warn {event : Event} (ofCall : event.IsOfCall) :
    event.level ≠ .warn := by
  cases ofCall with
  | invoking font => simp [level]
  | tool event => cases event <;> simp [level, ToolEvent.level]

theorem IsEarly.message_ne {event : Event} (early : event.IsEarly) {text : String}
    (h : text ∈ closing) : event.message ≠ text := by
  rintro rfl
  exact early.message_notMem_closing h

theorem IsOfCall.message_ne {event : Event} (ofCall : event.IsOfCall) {text : String}
    (h : text ∈ closing) : event.message ≠ text := by
  rintro rfl
  exact ofCall.message_notMem_closing h

end Event

def FileReport.warning (file : FileReport) : Event :=
  match file.outcome with
  | .failed code stderr => .toolFailed file.font code stderr
  | outcome => .toolIncomplete file.font outcome

theorem FileReport.warning_names_font (file : FileReport) :
    fontField file.font ∈ file.warning.fields := by
  unfold warning
  split <;> simp [Event.fields]

/-- Stretches of a log that end in what became of one font after the other. -/
inductive Event.Tells : List FileReport → List Event → Prop
  | nil : Tells [] []
  | cons {file : FileReport} {rest : List FileReport} {call events : List Event}
    (ofCall : ∀ event ∈ call, event.IsOfCall) (later : Tells rest events) :
    Tells (file :: rest) (call ++ .ofFile file :: events)

namespace Event.Tells

variable {files : List FileReport} {events : List Event} (tells : Tells files events)
include tells

/-- The events of some kind that say what became of a font, where none of that kind comes
while the tool is at work. -/
theorem filter_eq {keep : Event → Bool} {kept : FileReport → Bool} {told : FileReport → Event}
    (drops : ∀ event, event.IsOfCall → keep event = false)
    (kinds : ∀ file, keep (.ofFile file) = kept file ∧ (kept file = true → ofFile file = told file)) :
    events.filter keep = (files.filter kept).map told := by
  induction tells with
  | nil => rfl
  | @cons file rest call events ofCall later ih =>
    have quiet : call.filter keep = [] := by
      apply List.filter_eq_nil_iff.mpr
      intro event member
      simp [drops event (ofCall event member)]
    obtain ⟨same, told⟩ := kinds file
    rw [List.filter_append, quiet, List.nil_append, List.filter_cons, List.filter_cons, same, ih]
    split
    · next yes => rw [List.map_cons, told yes]
    · rfl

theorem filter_warn :
    events.filter (fun event => event.level = .warn) =
      (files.filter fun file => file.outcome.Fails).map FileReport.warning := by
  apply tells.filter_eq
  · intro event ofCall
    simp [ofCall.level_ne_warn]
  · rintro ⟨font, outcome, duration⟩
    cases outcome <;> simp [ofFile, level, FileReport.warning, ← Outcome.isFailure_iff,
      Outcome.isFailure, Outcome.isSuccess, Outcome.isSkipped]

theorem filter_written :
    events.filter (fun event => event.message = "Font subset written") =
      (files.filter fun file => file.outcome.isSuccess).map fun file =>
        .written file.font file.duration := by
  apply tells.filter_eq
  · intro event ofCall
    exact decide_eq_false (ofCall.message_ne (by simp [closing]))
  · rintro ⟨font, outcome, duration⟩
    cases outcome <;> simp [ofFile, message, Outcome.isSuccess]

theorem filter_skipping :
    events.filter (fun event => event.message = "Dry run, skipping") =
      (files.filter fun file => file.outcome = .skipped).map fun file => .skipping file.font := by
  apply tells.filter_eq
  · intro event ofCall
    exact decide_eq_false (ofCall.message_ne (by simp [closing]))
  · rintro ⟨font, outcome, duration⟩
    cases outcome <;> simp [ofFile, message]

theorem filter_whole {text : String} (h : text = "Scan completed" ∨ text = "Run completed") :
    events.filter (fun event => event.message = text) = [] := by
  have none : events.filter (fun event => event.message = text) =
      (files.filter fun _ => false).map .ofFile := by
    apply tells.filter_eq
    · intro event ofCall
      apply decide_eq_false
      rcases h with rfl | rfl <;> exact ofCall.message_ne (by simp [closing])
    · rintro ⟨font, outcome, duration⟩
      rcases h with rfl | rfl <;> cases outcome <;> simp [ofFile, message]
  simpa using none

end Event.Tells

namespace Batch

variable {σ : Type} (batch : Batch) (backend : Backend σ)

theorem handle_log (font : Font) (session : Session σ) :
    ∃ call : List Event, (∀ event ∈ call, event.IsOfCall) ∧
      (batch.handle backend font session).2.log =
        session.log ++ (call ++ [Event.ofFile (batch.handle backend font session).1]) := by
  unfold handle
  split
  · exact ⟨[], by simp, rfl⟩
  · let call := backend.invoke font batch.options (backend.now session.world).2
    refine ⟨.invoking font :: call.1.2.map .tool, ?_, ?_⟩
    · intro event member
      rcases List.mem_cons.mp member with rfl | member
      · exact .invoking font
      · obtain ⟨toolEvent, -, rfl⟩ := List.mem_map.mp member
        exact .tool toolEvent
    · cases answered : call.1.1 with
      | ok completion => simp [cut_of_ok answered, call]
      | error cause => simp [cut_of_error answered, call]

theorem mapM_handle_log (fonts : List Font) (session : Session σ) :
    ∃ events, Event.Tells (fonts.mapM (batch.handle backend) session).1 events ∧
      (fonts.mapM (batch.handle backend) session).2.log = session.log ++ events := by
  induction fonts generalizing session with
  | nil => exact ⟨[], .nil, (List.append_nil _).symm⟩
  | cons font rest ih =>
    obtain ⟨call, ofCall, log⟩ := batch.handle_log backend font session
    obtain ⟨events, tells, later⟩ := ih (batch.handle backend font session).2
    rw [List.mapM_cons]
    refine ⟨call ++ .ofFile (batch.handle backend font session).1 :: events,
      .cons ofCall tells, ?_⟩
    simp only [Action.bind_apply, Action.pure_apply, later, log, List.append_assoc,
      List.singleton_append]

variable {batch backend} {session : Session σ}

theorem checked_log (batch : Batch) (backend : Backend σ) (session : Session σ) :
    ∃ early : List Event, (∀ event ∈ early, event.IsEarly) ∧
      (batch.checked backend session).log = session.log ++ early := by
  refine ⟨_, ?_, rfl⟩
  intro event member
  obtain ⟨issue, -, rfl⟩ := List.mem_map.mp member
  exact .preflightFailed issue

theorem searched_log (batch : Batch) (backend : Backend σ) (session : Session σ) :
    ∃ early : List Event, (∀ event ∈ early, event.IsEarly) ∧
      (batch.searched backend session).log = session.log ++ early ++
        match batch.scanResult backend session with
        | .ok fonts => [.scanned batch.root fonts.length]
        | .error _ => [] := by
  obtain ⟨early, isEarly, log⟩ := checked_log batch backend session
  let answer := backend.scan batch.root (batch.checked backend session).world
  refine ⟨early ++ Event.scanning batch.root :: answer.1.2.map Event.scan, ?_, ?_⟩
  · intro event member
    rcases List.mem_append.mp member with first | member
    · exact isEarly event first
    rcases List.mem_cons.mp member with rfl | member
    · exact .scanning batch.root
    · obtain ⟨scanEvent, -, rfl⟩ := List.mem_map.mp member
      exact .scan scanEvent
  · unfold searched scan scanResult
    simp only [Action.bind_apply, Action.ofWorld_apply, Action.say_apply, log]
    cases found : answer.1.1 with
    | ok fonts => simp [answer]
    | error cause => simp [answer]

theorem log_of_run_error {error : RunError} (failed : (batch.run backend session).1 = .error error) :
    ∃ early : List Event, (∀ event ∈ early, event.IsEarly) ∧
      (batch.run backend session).2.log = session.log ++ early := by
  by_cases fatal : batch.IsFatal backend session
  · rw [run_of_isFatal fatal]
    exact checked_log batch backend session
  · cases found : batch.scanResult backend session with
    | error cause =>
      obtain ⟨early, isEarly, log⟩ := searched_log batch backend session
      rw [run_of_scan_error fatal found]
      exact ⟨early, isEarly, by simpa [found] using log⟩
    | ok fonts =>
      rw [run_of_scan_ok fatal found] at failed
      cases failed

/-- A run that ends in a report: what comes before the scan is completed, and then the fonts. -/
theorem log_of_run_ok {report : Report} (ok : (batch.run backend session).1 = .ok report) :
    ∃ early told : List Event, (∀ event ∈ early, event.IsEarly) ∧
      Event.Tells report.files told ∧
      (batch.run backend session).2.log = session.log ++
        (early ++ Event.scanned batch.root report.total ::
          (told ++ [Event.completed report.counts])) := by
  obtain ⟨sound, fonts, found⟩ := scanned_of_run_ok ok
  obtain ⟨early, isEarly, log⟩ := searched_log batch backend session
  obtain ⟨told, tells, later⟩ :=
    batch.mapM_handle_log backend fonts (batch.searched backend session)
  have total : fonts.length = report.total := by
    have named := (fonts_of_run_ok ok).symm.trans found
    simp [← Except.ok.inj named, Report.total]
  rw [run_of_scan_ok sound found, report_eq] at ok
  rw [run_of_scan_ok sound found, report_eq]
  obtain rfl := Except.ok.inj ok
  refine ⟨early, told, isEarly, tells, ?_⟩
  rw [found] at log
  simp only [later, log, ← total, List.append_assoc, List.cons_append, List.nil_append]

end Batch
end FontSubset
