import Mathlib
import FontSubset.Report
/-! Outcomes by kind, and what a report counts. -/
namespace FontSubset

/-- The tool was started and did not do what it should. -/
inductive Outcome.Fails : Outcome → Prop
  | unsuccessful (code : Option Int32) (stderr : String) : Fails (.failed code stderr)
  | unstarted (reason : String) : Fails (.spawnFailed reason)
  | late (ms : UInt64) : Fails (.timedOut ms)

theorem Outcome.isFailure_iff {outcome : Outcome} : outcome.isFailure = true ↔ outcome.Fails := by
  cases outcome with
  | succeeded code => exact iff_of_false Bool.false_ne_true nofun
  | failed code stderr => exact iff_of_true rfl (.unsuccessful code stderr)
  | spawnFailed reason => exact iff_of_true rfl (.unstarted reason)
  | timedOut ms => exact iff_of_true rfl (.late ms)
  | skipped => exact iff_of_false Bool.false_ne_true nofun

instance (outcome : Outcome) : Decidable outcome.Fails := decidable_of_iff _ Outcome.isFailure_iff

namespace Report

theorem failed_eq (report : Report) :
    report.failed = (report.files.filter fun file => file.outcome.Fails).length := by
  unfold failed
  rw [List.countP_eq_length_filter]
  congr 2
  funext file
  exact Bool.eq_iff_iff.mpr (Outcome.isFailure_iff.trans decide_eq_true_iff.symm)

theorem isSuccess_eq_false_iff {report : Report} :
    report.isSuccess = false ↔ ∃ file ∈ report.files, file.outcome.Fails := by
  unfold isSuccess failed
  rw [beq_eq_false_iff_ne, ← Nat.pos_iff_ne_zero, List.countP_pos_iff]
  simp only [Outcome.isFailure_iff]

/-- Each font counts once, by what became of it. -/
theorem total_eq (report : Report) :
    report.total = report.succeeded + report.failed + report.skipped := by
  obtain ⟨files, dryRun⟩ := report
  simp only [total, succeeded, failed, skipped]
  induction files with
  | nil => rfl
  | cons file rest ih =>
    have kinds (outcome : Outcome) :
        (if outcome.isSuccess = true then 1 else 0) + (if outcome.isFailure = true then 1 else 0) +
          (if outcome.isSkipped = true then 1 else 0) = 1 := by
      cases outcome <;> rfl
    have here := kinds file.outcome
    simp only [List.length_cons, List.countP_cons]
    omega

end Report

end FontSubset
