import FontSubset.Proofs.Batch.Refusal
import FontSubset.Proofs.Batch.Turns
import FontSubset.Proofs.Report.Counts
/-! Dry runs. A dry run lists the fonts that a real one from the same state would hand to the
tool, and fails where that one fails; it touches neither the tool nor the clock. -/
namespace FontSubset

def Contact.calledFont? : Contact → Option Font
  | called font _ => some font
  | scanned .. | time _ | answered _ => none

namespace Turn

@[simp] theorem calledFonts_contacts (font : Font) (arguments : List Bytes) (turn : Turn) :
    (turn.contacts font arguments).filterMap Contact.calledFont? = [font] := by
  cases turn <;> rfl

theorem calledFonts_flatten {fonts : List Font} {turns : List Turn}
    (length : turns.length = fonts.length) (arguments : Font → List Bytes) :
    (List.zipWith (fun font turn => turn.contacts font (arguments font))
      fonts turns).flatten.filterMap Contact.calledFont? = fonts := by
  rw [filterMap_flatten calledFonts_contacts]
  exact (Action.zipWith_left length id).trans (List.map_id fonts)

end Turn

theorem Outcome.ofAnswer_ne_skipped (answer : Answer) : Outcome.ofAnswer answer ≠ .skipped := by
  intro h
  have comes := Answer.comesTo_ofAnswer answer
  rw [h] at comes
  cases comes

theorem Report.counts_of_skipped {report : Report}
    (skipped : ∀ file ∈ report.files, file.outcome = .skipped) :
    report.counts = ⟨report.total, 0, 0, report.total⟩ := by
  have all : report.skipped = report.total := by
    apply List.countP_eq_length.mpr
    intro file member
    rw [skipped file member]
    rfl
  have succeeded : report.succeeded = 0 := by
    apply List.countP_eq_zero.mpr
    intro file member
    rw [skipped file member]
    exact Bool.false_ne_true
  have failed : report.failed = 0 := by
    apply List.countP_eq_zero.mpr
    intro file member
    rw [skipped file member]
    exact Bool.false_ne_true
  unfold counts
  rw [succeeded, failed, all]

namespace Batch

variable {σ : Type} {batch : Batch} {backend : Backend σ} {session : Session σ}
variable {fonts : List Font}

theorem mapM_skip (fonts : List Font) (session : Session σ) :
    (fonts.mapM skip session).1 = fonts.map (fun font => ⟨font, .skipped, 0⟩) ∧
      (fonts.mapM skip session).2.world = session.world := by
  induction fonts generalizing session with
  | nil => exact ⟨rfl, rfl⟩
  | cons font rest ih =>
    obtain ⟨files, world⟩ := ih (skip font session).2
    have step : (skip font session).2.world = session.world := rfl
    rw [List.mapM_cons]
    simp only [Action.bind_apply, Action.pure_apply, files, world, step, List.map_cons, and_true]
    rfl

theorem handle_of_dry (dry : batch.dryRun = true) (backend : Backend σ) :
    batch.handle backend = skip := by
  funext font
  simp [handle, dry]

/-- A dry run that found some fonts: it reports them as left alone, and nothing happened after
the scan. -/
theorem run_of_dry (dry : batch.dryRun = true) (sound : ¬ batch.IsFatal backend session)
    (found : batch.scanResult backend session = .ok fonts) :
    (batch.run backend session).1 = .ok ⟨fonts.map fun font => ⟨font, .skipped, 0⟩, true⟩ ∧
      (batch.run backend session).2.world = (batch.searched backend session).world := by
  obtain ⟨files, world⟩ := mapM_skip fonts (batch.searched backend session)
  rw [run_of_scan_ok sound found, report_eq, handle_of_dry dry]
  simp only [files, world, dry, and_self]

theorem contacts_of_dry (dry : batch.dryRun = true) (sound : ¬ batch.IsFatal backend session)
    (found : batch.scanResult backend session = .ok fonts) :
    batch.contacts backend session = [.scanned batch.root (.ok fonts)] := by
  have run := run_of_dry dry (mt (isFatal_watched batch backend session).mp sound) found
  unfold contacts watch
  rw [run.2, searched_watched_contacts, found]

theorem scanned_of_mem_contacts (dry : batch.dryRun = true) {contact : Contact}
    (member : contact ∈ batch.contacts backend session) :
    ∃ result, contact = .scanned batch.root result := by
  by_cases fatal : batch.IsFatal backend session
  · rw [contacts_of_isFatal fatal] at member
    cases member
  cases found : batch.scanResult backend session with
  | error cause =>
    rw [contacts_of_scan_error fatal found] at member
    exact ⟨_, List.mem_singleton.mp member⟩
  | ok fonts =>
    rw [contacts_of_dry dry fatal found] at member
    exact ⟨_, List.mem_singleton.mp member⟩

theorem scanned_of_run_ok {report : Report} (ok : (batch.run backend session).1 = .ok report) :
    ¬ batch.IsFatal backend session ∧ ∃ fonts, batch.scanResult backend session = .ok fonts := by
  by_cases fatal : batch.IsFatal backend session
  · rw [run_of_isFatal fatal] at ok
    cases ok
  cases found : batch.scanResult backend session with
  | error cause =>
    rw [run_of_scan_error fatal found] at ok
    cases ok
  | ok fonts => exact ⟨fatal, fonts, rfl⟩

/-- A report has every font that the scanner found, in scan order. -/
theorem fonts_of_run_ok {report : Report} (ok : (batch.run backend session).1 = .ok report) :
    batch.scanResult backend session = .ok (report.files.map (·.font)) := by
  obtain ⟨sound, fonts, found⟩ := scanned_of_run_ok ok
  rw [found]
  congr 1
  cases dry : batch.dryRun with
  | true =>
    cases (run_of_dry dry sound found).1.symm.trans ok
    rw [List.map_map]
    exact (List.map_id fonts).symm
  | false =>
    obtain ⟨turns, length, result, -⟩ := run_turns dry sound found
    cases result.symm.trans ok
    exact (Turn.files_fonts length).symm

theorem no_failure_of_dry (dry : batch.dryRun = true) {report : Report}
    (ok : (batch.run backend session).1 = .ok report) : report.isSuccess = true := by
  obtain ⟨sound, fonts, found⟩ := scanned_of_run_ok ok
  cases (run_of_dry dry sound found).1.symm.trans ok
  apply Bool.eq_true_of_not_eq_false
  intro failing
  obtain ⟨file, member, fails⟩ := Report.isSuccess_eq_false_iff.mp failing
  obtain ⟨font, -, rfl⟩ := List.mem_map.mp member
  cases fails

theorem outcome_ne_skipped (wet : batch.dryRun = false) {report : Report}
    (ok : (batch.run backend session).1 = .ok report) {file : FileReport}
    (member : file ∈ report.files) : file.outcome ≠ .skipped := by
  obtain ⟨sound, fonts, found⟩ := scanned_of_run_ok ok
  obtain ⟨turns, -, result, -⟩ := run_turns wet sound found
  cases result.symm.trans ok
  rw [← List.map_uncurry_zip_eq_zipWith] at member
  obtain ⟨⟨font, turn⟩, -, rfl⟩ := List.mem_map.mp member
  exact Outcome.ofAnswer_ne_skipped turn.answer

/-- A dry run reports the fonts on which a real run from the same state starts the tool, in that
order, each as left alone; it asks neither the tool nor the clock. Both runs fail alike, and a
real run leaves no font alone. -/
theorem dry_run_predicts_real_run (batch : Batch) (backend : Backend σ) (session : Session σ) :
    let dry := { batch with dryRun := true }
    let real := { batch with dryRun := false }
    (∀ report, (dry.run backend session).1 = .ok report →
      report.dryRun = true ∧
      report.files.map (·.font) =
        (real.contacts backend session).filterMap Contact.calledFont? ∧
      (∀ file ∈ report.files, file.outcome = .skipped ∧ file.duration = 0) ∧
      report.skipped = report.total ∧ report.failed = 0 ∧ report.succeeded = 0 ∧
      report.isSuccess = true) ∧
    (∀ contact ∈ dry.contacts backend session,
      ∃ result, contact = .scanned batch.root result) ∧
    (∀ error, (dry.run backend session).1 = .error error ↔
      (real.run backend session).1 = .error error) ∧
    ∀ report, (real.run backend session).1 = .ok report →
      ∀ file ∈ report.files, file.outcome ≠ .skipped := by
  intro dry real
  have wet : real.dryRun = false := rfl
  refine ⟨?_, fun _ => scanned_of_mem_contacts rfl, ?_, fun _ ok _ => outcome_ne_skipped rfl ok⟩
  · intro report ok
    obtain ⟨sound, fonts, found⟩ := scanned_of_run_ok ok
    cases (run_of_dry rfl sound found).1.symm.trans ok
    obtain ⟨turns, length, -, contacts⟩ := run_turns wet sound found
    have left : ∀ file ∈ fonts.map (fun font => (⟨font, .skipped, 0⟩ : FileReport)),
        file.outcome = .skipped ∧ file.duration = 0 := by
      intro file member
      obtain ⟨font, -, rfl⟩ := List.mem_map.mp member
      exact ⟨rfl, rfl⟩
    have counts : Report.counts ⟨_, true⟩ = _ :=
      Report.counts_of_skipped fun file member => (left file member).1
    obtain ⟨-, succeeded, failed, skipped⟩ := Counts.mk.inj counts
    refine ⟨rfl, ?_, left, skipped, failed, succeeded, ?_⟩
    · rw [contacts, List.filterMap_cons_none rfl, Turn.calledFonts_flatten length, List.map_map]
      exact List.map_id fonts
    · rw [Report.isSuccess, failed]
      rfl
  · intro error
    have dryFails : (dry.run backend session).1 = .error error ↔ _ := run_error_iff
    have realFails : (real.run backend session).1 = .error error ↔ _ := run_error_iff
    exact dryFails.trans realFails.symm

/-- Two fonts, on the second of which a real run would be too late. -/
theorem dry_run_predicts_real_run_late :
    let fonts : List Font := [⟨"a.ttf"⟩, ⟨⟨[0xFF, 0x2E, 0x74, 0x74, 0x66]⟩⟩]
    let dry : Batch := ⟨".", .ofTextFile "chars.txt", true, false⟩
    let real : Batch := { dry with dryRun := false }
    let backend := Rehearsal.backend (fun _ => .file) (.exactly fonts)
      (.script [.ok Rehearsal.silence, .error (.timeout 5)])
    let session : Session Rehearsal.Stage := ⟨⟨⟨0, 5⟩, []⟩, []⟩
    (dry.run backend session).1 = .ok ⟨fonts.map fun font => ⟨font, .skipped, 0⟩, true⟩ ∧
      (real.contacts backend session).filterMap Contact.calledFont? = fonts ∧
      ∃ report, (real.run backend session).1 = .ok report ∧
        ∀ file ∈ report.files, file.outcome ≠ .skipped := by
  intro fonts dry real backend session
  have sound : ¬ dry.IsFatal backend session := fun fatal => fatal.2 rfl
  have wet : real.dryRun = false := rfl
  have found : dry.scanResult backend session = .ok fonts := rfl
  have ok := (run_of_dry rfl sound found).1
  obtain ⟨turns, -, real_ok, -⟩ := run_turns wet sound found
  obtain ⟨predicts, -, -, real_leaves_none⟩ := dry_run_predicts_real_run dry backend session
  exact ⟨ok, (predicts _ ok).2.1.symm, _, real_ok, real_leaves_none _ real_ok⟩

end Batch
end FontSubset
