import FontSubset.Proofs.Batch.Turns
import FontSubset.Proofs.Path.Classes
/-! Rehearsals in which the tool fails for listed paths. A call leaves nothing behind but a line on
record, so that a run comes to one entry and one line for each candidate that is a font, whatever
came before. -/
namespace FontSubset.Rehearsal

/-- A tool that fails for listed paths, behind a scanner that knows some candidates. -/
def double (presence : Path → Presence) (candidates paths : List Path) (code : Int32) :
    Backend Stage :=
  backend presence (.candidates candidates) (.failFor paths code)

/-- The fonts among some candidates, as they are seen from a root. -/
def fontsAt (root : Path) (candidates : List Path) : List Font :=
  (candidates.filter Font.qualifies).map fun candidate => ⟨root.join candidate⟩

/-- What a font is reported with: the exit code if that is no success and a path of the font's
components is listed. -/
def entry (paths : List Path) (code : Int32) (font : Font) : FileReport :=
  if code ≠ 0 ∧ ∃ path ∈ paths, path.components = font.path.components then
    ⟨font, .failed (some code) (Text.tail ("mock failure for " ++ font.display) 4096), 1⟩
  else ⟨font, .succeeded (some 0), 1⟩

def line (options : Options) (font : Font) : Call := ⟨font, options.arguments font⟩

theorem outcome_exit (font : Font) (code : Int32) : (exit font code).outcome =
    if code = 0 then .succeeded (some 0)
    else .failed (some code) (Text.tail ("mock failure for " ++ font.display) 4096) := by
  unfold exit Completion.outcome
  by_cases h : code = 0 <;> simp [h, stderrLimit]

theorem any_same_iff (paths : List Path) (path : Path) : paths.any path.same = true ↔
    ∃ listed ∈ paths, listed.components = path.components := by
  rw [List.any_eq_true]
  apply exists_congr
  intro listed
  apply and_congr_right
  intro _
  exact beq_iff_eq.trans eq_comm

variable {batch : Batch} {presence : Path → Presence} {candidates paths : List Path}
variable {code : Int32} {session : Session Stage}

section

variable (batch presence candidates paths code)

theorem cut_double (font : Font) (session : Session Stage) :
    let done := batch.cut (double presence candidates paths code) font session
    done.1 = entry paths code font ∧
      done.2.world.calls = session.world.calls ++ [line batch.options font] := by
  intro done
  let status := if paths.any font.path.same then code else 0
  let completion := exit font status
  have file : (⟨font, (exit font status).outcome, 1⟩ : FileReport) = entry paths code font := by
    unfold entry
    simp only [outcome_exit, ← any_same_iff]
    by_cases listed : paths.any font.path.same = true
    · by_cases zero : code = 0 <;> simp [status, listed, zero]
    · simp [status, listed]
  have answered : ((double presence candidates paths code).invoke font batch.options
      ((double presence candidates paths code).now session.world).2).1.1 = .ok completion := rfl
  have cut : done = _ := Batch.cut_of_ok answered
  rw [cut]
  exact ⟨file, rfl⟩

theorem mapM_cut_double (fonts : List Font) (session : Session Stage) :
    let done := fonts.mapM (batch.cut (double presence candidates paths code)) session
    done.1 = fonts.map (entry paths code) ∧
      done.2.world.calls = session.world.calls ++ fonts.map (line batch.options) := by
  induction fonts generalizing session with
  | nil => exact ⟨rfl, (List.append_nil _).symm⟩
  | cons font rest ih =>
    have first := cut_double batch presence candidates paths code font session
    have later := ih (batch.cut (double presence candidates paths code) font session).2
    rw [List.mapM_cons]
    simp only [Action.bind_apply, Action.pure_apply, later, first, List.map_cons,
      List.append_assoc, List.singleton_append, and_self]

end

theorem run_double (candidates paths : List Path) (code : Int32) (wet : batch.dryRun = false)
    (sound : ¬ batch.IsFatal (double presence candidates paths code) session) :
    let run := batch.run (double presence candidates paths code) session
    let fonts := fontsAt batch.root candidates
    run.1 = .ok ⟨fonts.map (entry paths code), false⟩ ∧
      run.2.world.calls = session.world.calls ++ fonts.map (line batch.options) := by
  intro run fonts
  have found : batch.scanResult (double presence candidates paths code) session = .ok fonts := rfl
  have ran : run = _ := Batch.run_of_scan_ok sound found
  have each := mapM_cut_double batch presence candidates paths code fonts
    (batch.searched (double presence candidates paths code) session)
  rw [ran, Batch.report_eq, Batch.handle_of_wet wet]
  exact ⟨by simp only [each.1, wet], each.2⟩

/-- Of the listed paths only their components count. -/
theorem double_congr {paths' : List Path} (same : ∀ components,
    (∃ path ∈ paths', path.components = components) ↔ ∃ path ∈ paths, path.components = components) :
    double presence candidates paths' code = double presence candidates paths code := by
  have listed : ∀ path : Path, paths'.any path.same = paths.any path.same := by
    intro path
    rw [Bool.eq_iff_iff, any_same_iff, any_same_iff, same]
  have tool : invoke (.failFor paths' code) = invoke (.failFor paths code) := by
    funext font options stage
    simp only [invoke, Part.answer, listed]
  unfold double backend
  rw [tool]

theorem zip_fontsAt {α β : Type} (root : Path) (candidates : List Path) (f : Font → α)
    (g : Font → β) :
    (candidates.filter Font.qualifies).zip
        (((fontsAt root candidates).map f).zip ((fontsAt root candidates).map g)) =
      (candidates.filter Font.qualifies).map fun path =>
        (path, f ⟨root.join path⟩, g ⟨root.join path⟩) := by
  unfold fontsAt
  induction candidates.filter Font.qualifies with
  | nil => rfl
  | cons path rest ih => simpa using ih

theorem counts_perm {files files' : List FileReport} (h : files'.Perm files) :
    Report.counts ⟨files', false⟩ = Report.counts ⟨files, false⟩ := by
  unfold Report.counts Report.total Report.succeeded Report.failed Report.skipped
  simp only [h.length_eq, h.countP_eq]

/-- The tool fails for the fonts that are listed by any spelling, and for these only. A run has one
entry and one line on record for each candidate that is a font, in order; what the list is like
besides, and what was run before, does not count. -/
theorem double_fails_just_listed (wet : batch.dryRun = false)
    (sound : ¬ batch.IsFatal (double presence candidates paths code) session) :
    let run := batch.run (double presence candidates paths code) session
    let files := (fontsAt batch.root candidates).map (entry paths code)
    let calls := (fontsAt batch.root candidates).map (line batch.options)
    (run.1 = .ok ⟨files, false⟩ ∧ run.2.world.calls = session.world.calls ++ calls) ∧
    (∀ paths', (∀ components, (∃ path ∈ paths', path.components = components) ↔
        ∃ path ∈ paths, path.components = components) →
      batch.run (double presence candidates paths' code) session = run) ∧
    (∀ candidates', candidates'.Perm candidates →
      let run' := batch.run (double presence candidates' paths code) session
      ∃ files' calls', run'.1 = .ok ⟨files', false⟩ ∧
        run'.2.world.calls = session.world.calls ++ calls' ∧
        ((candidates'.filter Font.qualifies).zip (files'.zip calls')).Perm
          ((candidates.filter Font.qualifies).zip (files.zip calls)) ∧
        Report.counts ⟨files', false⟩ = Report.counts ⟨files, false⟩) ∧
    let again := batch.run (double presence candidates paths code) run.2
    again.1 = run.1 ∧ again.2.world.calls = run.2.world.calls ++ calls := by
  intro run files calls
  have first := run_double candidates paths code wet sound
  refine ⟨first, ?_, ?_, ?_⟩
  · intro paths' same
    rw [double_congr same]
  · intro candidates' order
    have other := run_double candidates' paths code wet sound
    have fonts := order.filter Font.qualifies
    refine ⟨_, _, other.1, other.2, ?_, counts_perm ((fonts.map _).map _)⟩
    rw [zip_fontsAt, zip_fontsAt]
    exact fonts.map _
  · intro again
    have soundAgain : ¬ batch.IsFatal (double presence candidates paths code) run.2 := sound
    have second := run_double candidates paths code wet soundAgain
    exact ⟨second.1.trans first.1.symm, second.2⟩

/-- A strict batch with two spellings of one font, a font with a root of its own and a file that is
no font. The list has a third spelling. -/
theorem double_fails_just_listed_spelled :
    let batch : Batch := ⟨"r/", .ofTextFile "c.txt", false, true⟩
    let presence : Path → Presence := fun _ => .file
    let candidates : List Path := ["a.ttf", "b.otf", "/r/a.ttf", "./a.ttf"]
    let session : Session Stage := ⟨⟨⟨7, -5⟩, []⟩, []⟩
    let run := batch.run (double presence candidates ["r//a.ttf/"] 3) session
    batch.dryRun = false ∧ ¬ batch.IsFatal (double presence candidates ["r//a.ttf/"] 3) session ∧
      (∃ files, run.1 = .ok ⟨files, false⟩ ∧
        files.map (·.outcome.isFailure) = [true, false, true]) ∧
      run.2.world.calls.map (·.font.path) = [("r/a.ttf" : Path), "/r/a.ttf", "r/./a.ttf"] ∧
      batch.run (double presence candidates ["r/a.ttf", "r/./a.ttf"] 3) session = run ∧
      (batch.run (double presence candidates ["r//a.ttf/"] 3) run.2).1 = run.1 := by
  intro batch presence candidates session run
  have sound : ¬ batch.IsFatal (double presence candidates ["r//a.ttf/"] 3) session :=
    fun fatal => fatal.2 rfl
  obtain ⟨⟨files, calls⟩, respelled, -, again⟩ := double_fails_just_listed rfl sound
  refine ⟨rfl, sound, ⟨_, files, ?_⟩, ?_, respelled _ ?_, again.1⟩
  · decide +kernel
  · rw [calls]
    decide +kernel
  · have components : (Path.ofString "r/a.ttf").components = (Path.ofString "r//a.ttf/").components ∧
        (Path.ofString "r/./a.ttf").components = (Path.ofString "r//a.ttf/").components := by
      decide +kernel
    intro spelled
    simp [components]

end FontSubset.Rehearsal
