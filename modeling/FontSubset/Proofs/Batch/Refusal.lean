import FontSubset.Proofs.Batch.Watched
import FontSubset.Files.Place
import FontSubset.Rehearsal
/-! Runs that end in an error, and what being strict changes. A run fails before any font is
touched or not at all; being strict decides on a fault of the character list and nothing
else. -/
namespace FontSubset

theorem Files.presence_eq_file_iff {files : Files} {path : Path} :
    files.presence path = .file ↔ ∃ node, files.find path = .ok node ∧ node.isFile = true := by
  unfold Files.presence
  cases files.find path with
  | error fault => simp
  | ok node => cases h : node.isFile <;> simp [h]

/-- The look at a path may differ between rehearsals that are otherwise the same. -/
theorem Rehearsal.backend_alike (sight sight' : Path → Presence) (scanner : Rehearsal.Scanner)
    (part : Rehearsal.Part) :
    (Rehearsal.backend sight scanner part).Alike Eq (Rehearsal.backend sight' scanner part) where
  now := by rintro stage _ rfl; exact ⟨rfl, rfl⟩
  presence := by rintro path stage _ rfl; rfl
  scan := by rintro root stage _ rfl; exact ⟨rfl, rfl⟩
  invoke := by rintro font options stage _ rfl; exact ⟨rfl, rfl⟩

namespace Batch

variable {σ : Type} {batch : Batch} {backend : Backend σ} {session : Session σ}

theorem run_error_iff {error : RunError} :
    (batch.run backend session).1 = .error error ↔
      (batch.strict = true ∧ batch.textFilePresence backend session = .missing ∧
        error = .config
          ("character list " ++ batch.options.textFile.display ++ " does not exist")) ∨
      (batch.strict = true ∧ batch.textFilePresence backend session = .other ∧
        error = .config
          ("character list " ++ batch.options.textFile.display ++ " is not a file")) ∨
      (¬ batch.IsFatal backend session ∧
        ∃ cause, batch.scanResult backend session = .error cause ∧ error = .scan cause) := by
  by_cases fatal : batch.IsFatal backend session
  · rw [run_of_isFatal fatal]
    cases seen : batch.textFilePresence backend session with
    | file => exact absurd seen fatal.2
    | missing =>
      constructor
      · rintro ⟨⟩
        exact .inl ⟨fatal.1, rfl, rfl⟩
      · rintro (⟨-, -, rfl⟩ | ⟨-, ⟨⟩, -⟩ | ⟨sound, -⟩)
        · rfl
        · exact absurd fatal sound
    | other =>
      constructor
      · rintro ⟨⟩
        exact .inr (.inl ⟨fatal.1, rfl, rfl⟩)
      · rintro (⟨-, ⟨⟩, -⟩ | ⟨-, -, rfl⟩ | ⟨sound, -⟩)
        · rfl
        · exact absurd fatal sound
  · have spared (h : batch.strict = true) : batch.textFilePresence backend session = .file := by
      by_contra absent
      exact fatal ⟨h, absent⟩
    cases found : batch.scanResult backend session with
    | error cause =>
      rw [run_of_scan_error fatal found]
      constructor
      · rintro ⟨⟩
        exact .inr (.inr ⟨fatal, cause, rfl, rfl⟩)
      · rintro (⟨strict, missing, -⟩ | ⟨strict, other, -⟩ | ⟨-, _, ⟨⟩, rfl⟩)
        · exact absurd ((spared strict).symm.trans missing) (by decide)
        · exact absurd ((spared strict).symm.trans other) (by decide)
        · rfl
    | ok fonts =>
      rw [run_of_scan_ok fatal found]
      constructor
      · rintro ⟨⟩
      · rintro (⟨strict, missing, -⟩ | ⟨strict, other, -⟩ | ⟨-, _, ⟨⟩, -⟩)
        · exact absurd ((spared strict).symm.trans missing) (by decide)
        · exact absurd ((spared strict).symm.trans other) (by decide)

/-- Where the character list is a file, being strict makes no difference to any step. -/
theorem run_strict_eq_lax (backend : Backend σ) (session : Session σ)
    (sound : ¬ { batch with strict := true }.IsFatal backend session) :
    { batch with strict := true }.run backend session =
      { batch with strict := false }.run backend session := by
  have lax : ¬ { batch with strict := false }.IsFatal backend session :=
    fun fatal => Bool.false_ne_true fatal.1
  cases found : batch.scanResult backend session with
  | error cause =>
    exact (run_of_scan_error sound found).trans (run_of_scan_error lax found).symm
  | ok fonts => exact (run_of_scan_ok sound found).trans (run_of_scan_ok lax found).symm

/-- A run fails because of the character list, if it is strict, or else because of the scan.
What comes after the failure is left alone: the tool and the clock, and in the first case the
scanner too. Being strict changes nothing else, and a run that is not strict goes by the
answers of scanner, tool and clock alone. -/
theorem failed_run_touches_nothing (batch : Batch) (backend : Backend σ) (session : Session σ) :
    (∀ error, (batch.run backend session).1 = .error error ↔
      (batch.strict = true ∧ batch.textFilePresence backend session = .missing ∧
        error = .config
          ("character list " ++ batch.options.textFile.display ++ " does not exist")) ∨
      (batch.strict = true ∧ batch.textFilePresence backend session = .other ∧
        error = .config
          ("character list " ++ batch.options.textFile.display ++ " is not a file")) ∨
      (¬ batch.IsFatal backend session ∧
        ∃ cause, batch.scanResult backend session = .error cause ∧ error = .scan cause)) ∧
    (∀ files : Files,
      batch.textFilePresence backend session = files.presence batch.options.textFile →
      (batch.IsFatal backend session ↔ batch.strict = true ∧
        ¬ ∃ node, files.find batch.options.textFile = .ok node ∧ node.isFile = true)) ∧
    (batch.IsFatal backend session → batch.contacts backend session = []) ∧
    (¬ batch.IsFatal backend session →
      ∀ cause, batch.scanResult backend session = .error cause →
        batch.contacts backend session = [.scanned batch.root (.error cause)]) ∧
    (¬ { batch with strict := true }.IsFatal backend session →
      { batch with strict := true }.run backend session =
        { batch with strict := false }.run backend session ∧
      { batch with strict := true }.contacts backend session =
        { batch with strict := false }.contacts backend session) ∧
    ∀ (τ : Type) (R : σ → τ → Prop) (other : Backend τ) (session' : Session τ),
      backend.Alike R other → R session.world session'.world →
      ({ batch with strict := false }.run backend session).1 =
        ({ batch with strict := false }.run other session').1 ∧
      { batch with strict := false }.contacts backend session =
        { batch with strict := false }.contacts other session' ∧
      (backend.now ({ batch with strict := false }.run backend session).2.world).1 =
        (other.now ({ batch with strict := false }.run other session').2.world).1 := by
  refine ⟨fun _ => run_error_iff, ?_, contacts_of_isFatal,
    fun sound _ => contacts_of_scan_error sound, ?_, ?_⟩
  · intro files seen
    rw [IsFatal, seen, ne_eq, Files.presence_eq_file_iff]
  · intro sound
    refine ⟨run_strict_eq_lax backend session sound, ?_⟩
    unfold contacts watch
    rw [run_strict_eq_lax backend.watched session.watched sound]
  · intro τ R other session' alike related
    have lax (h : { batch with strict := false }.strict = true) :
        { batch with strict := false }.textFilePresence backend session =
          { batch with strict := false }.textFilePresence other session' :=
      absurd h Bool.false_ne_true
    have watched := run_related alike.watched session.watched session'.watched ⟨related, rfl⟩ lax
    obtain ⟨results, worlds⟩ := run_related alike session session' related lax
    exact ⟨results, watched.2.2, (alike.now _ _ worlds).1⟩

/-- A character list that is missing, then there, with a tool that would succeed. -/
theorem failed_run_touches_nothing_without_list :
    let batch : Batch := ⟨".", .ofTextFile "chars.txt", false, true⟩
    let without := Rehearsal.backend (fun _ => .missing) (.candidates ["a.ttf"]) .succeed
    let having := Rehearsal.backend (fun _ => .file) (.candidates ["a.ttf"]) .succeed
    let session : Session Rehearsal.Stage := ⟨⟨⟨0, 5⟩, []⟩, []⟩
    batch.IsFatal without session ∧ batch.contacts without session = [] ∧
      ¬ batch.IsFatal having session ∧
      batch.run having session = { batch with strict := false }.run having session ∧
      without.Alike Eq having ∧
      { batch with strict := false }.contacts without session =
        { batch with strict := false }.contacts having session := by
  intro batch without having session
  have fatal : batch.IsFatal without session := ⟨rfl, by decide⟩
  have sound : ¬ batch.IsFatal having session := fun fatal => fatal.2 rfl
  have alike : without.Alike Eq having := Rehearsal.backend_alike _ _ _ _
  obtain ⟨-, -, untouched, -, -, lax⟩ := failed_run_touches_nothing batch without session
  obtain ⟨-, -, -, -, neutral, -⟩ := failed_run_touches_nothing batch having session
  exact ⟨fatal, untouched fatal, sound, (neutral sound).1, alike,
    (lax _ _ _ _ alike rfl).2.1⟩

end Batch
end FontSubset
