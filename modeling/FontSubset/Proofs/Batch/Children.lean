import FontSubset.Host.Machine
import FontSubset.Proofs.Batch.DryRun
import FontSubset.Proofs.Text.Tail
/-! Tools that are child processes. Each child is attended, that is, what it came to is written
down beside the world; a batch that is no dry run has one child for each font, in order, and
reports each font by its own. -/
namespace FontSubset

variable {σ : Type}

def ChildResult.isEnded : ChildResult → Bool
  | ended .. => true
  | refused _ | lost _ | overtime => false

namespace Subprocess

def answer (child : Subprocess) (duration : Int64) : ChildResult → Answer
  | .refused reason => .error (.spawnFailed (child.tool.command ++ ": " ++ reason))
  | .lost reason => .error (.io reason)
  | .overtime => .error (.timeout (UInt64.ofNat (child.timeout.getD 0)))
  | .ended exitCode stdout stderr => .ok (completion duration exitCode stdout stderr)

theorem bind_apply {α β : Type} (step : StateM σ α) (next : α → StateM σ β) (world : σ) :
    (step >>= next) world = next (step world).1 (step world).2 := rfl

/-- One child is started, after the clock was read, and its result is the answer. The clock is
read again only if the child ran to its end. -/
theorem invoke_eq (child : Subprocess) (now : StateM σ Int64)
    (start : Subprocess → List Bytes → StateM σ ChildResult) (font : Font) (options : Options)
    (world : σ) {after : σ} {result : ChildResult}
    (started : start child (options.arguments font) (now world).2 = (result, after)) :
    (child.invoke now start font options world).1.1 =
        child.answer ((now after).1 - (now world).1) result ∧
      (child.invoke now start font options world).2 =
        if result.isEnded then (now after).2 else after := by
  unfold invoke
  simp only [bind_apply, started]
  cases result <;> exact ⟨rfl, rfl⟩

end Subprocess

/-- What a font is reported with when its child came to some result. -/
inductive ChildResult.ComesTo (child : Subprocess) : ChildResult → Outcome → Prop
  | success (stdout stderr : Bytes) :
    ComesTo child (.ended (some 0) stdout stderr) (.succeeded (some 0))
  | failure {exitCode : Option Int32} {stdout stderr : Bytes} {kept : String}
    (nonzero : exitCode ≠ some 0)
    (cut : Text.CutTo 4096 (Text.lossy stderr).toList kept.toList) :
    ComesTo child (.ended exitCode stdout stderr) (.failed exitCode kept)
  | unstarted (reason : String) :
    ComesTo child (.refused reason) (.spawnFailed (child.tool.command ++ ": " ++ reason))
  | unread (reason : String) : ComesTo child (.lost reason) (.spawnFailed reason)
  | late : ComesTo child .overtime (.timedOut (UInt64.ofNat (child.timeout.getD 0)))

theorem Subprocess.comesTo_answer (child : Subprocess) (duration : Int64) (result : ChildResult) :
    result.ComesTo child (.ofAnswer (child.answer duration result)) := by
  cases result with
  | refused reason => exact .unstarted reason
  | lost reason => exact .unread reason
  | overtime => exact .late
  | ended exitCode stdout stderr =>
    by_cases zero : exitCode = some 0
    · subst zero
      exact .success stdout stderr
    · have failed : (completion duration exitCode stdout stderr).isSuccess = false :=
        beq_false_of_ne zero
      simp only [Outcome.ofAnswer, answer, Completion.outcome, failed, Bool.false_eq_true, if_false]
      refine .failure zero ?_
      rw [Text.toList_tail]
      exact Text.cutTo_tailChars _ _

/-- A world beside which is written down what the children came to. -/
structure Attended (σ : Type) where
  world : σ
  children : List ChildResult

namespace Attended

def lift {α : Type} (step : StateM σ α) : StateM (Attended σ) α := fun attended =>
  ((step attended.world).1, { attended with world := (step attended.world).2 })

def start (start : Subprocess → List Bytes → StateM σ ChildResult) (child : Subprocess)
    (arguments : List Bytes) : StateM (Attended σ) ChildResult := fun attended =>
  let (result, world) := start child arguments attended.world
  (result, ⟨world, attended.children ++ [result]⟩)

end Attended

namespace Backend

/-- The backend in which the tool is a child process that is started in some way. -/
def withChild (backend : Backend σ) (start : Subprocess → List Bytes → StateM σ ChildResult)
    (child : Subprocess) : Backend σ :=
  { backend with invoke := child.invoke backend.now start }

def attended (backend : Backend σ) : Backend (Attended σ) where
  now := Attended.lift backend.now
  presence path := Attended.lift (backend.presence path)
  scan root := Attended.lift (backend.scan root)
  invoke font options := Attended.lift (backend.invoke font options)

end Backend

example (child other : Subprocess) : Host.Machine.backend child =
    (Host.Machine.backend other).withChild Host.Machine.start child := rfl

variable (backend : Backend σ) (start : Subprocess → List Bytes → StateM σ ChildResult)
variable (child : Subprocess)

theorem Backend.withChild_alike :
    (backend.withChild start child).Alike (fun world attended => attended.world = world)
      (backend.attended.withChild (Attended.start start) child) where
  now := by rintro _ attended rfl; exact ⟨rfl, rfl⟩
  presence := by rintro path _ attended rfl; rfl
  scan := by rintro root _ attended rfl; exact ⟨rfl, rfl⟩
  invoke := by
    rintro font options _ attended rfl
    have same : (Attended.start start child (options.arguments font)
        (backend.attended.now attended).2).1 =
      (start child (options.arguments font) (backend.now attended.world).2).1 := rfl
    simp only [withChild, Subprocess.invoke, Subprocess.bind_apply]
    rw [same]
    cases (start child (options.arguments font) (backend.now attended.world).2).1 <;>
      exact ⟨rfl, rfl⟩

theorem Backend.invoke_child (font : Font) (options : Options) (world : Attended σ) :
    let call := (backend.attended.withChild (Attended.start start) child).invoke font options world
    ∃ duration result, call.1.1 = child.answer duration result ∧
      call.2.children = world.children ++ [result] := by
  obtain ⟨answered, left⟩ :=
    child.invoke_eq backend.attended.now (Attended.start start) font options world rfl
  refine ⟨_, _, answered, (congrArg Attended.children left).trans ?_⟩
  split <;> rfl

namespace Batch

variable (batch : Batch)

/-- From one session to the next a child is started for a font, which is reported by it. -/
structure StartsChild (session : Session (Attended σ)) (_ : Font) (result : ChildResult)
    (file : FileReport) (next : Session (Attended σ)) : Prop where
  comesTo : result.ComesTo child file.outcome
  children : next.world.children = session.world.children ++ [result]

theorem cut_startsChild (font : Font) (session : Session (Attended σ)) :
    let cut := batch.cut (backend.attended.withChild (Attended.start start) child) font session
    ∃ result, StartsChild child session font result cut.1 cut.2 := by
  intro cut
  obtain ⟨duration, result, answered, children⟩ :=
    backend.invoke_child start child font batch.options (backend.attended.now session.world).2
  refine ⟨result, ?_, ?_⟩
  · have outcome : cut.1.outcome = .ofAnswer (child.answer duration result) :=
      (cut_outcome ..).trans (congrArg _ answered)
    rw [outcome]
    exact child.comesTo_answer duration result
  · exact (cut_leaves (fun _ => rfl) font session).trans children

theorem mapM_cut_children (fonts : List Font) (session : Session (Attended σ)) :
    let cut := batch.cut (backend.attended.withChild (Attended.start start) child)
    ∃ results, List.Forall₂ (ChildResult.ComesTo child) results
        ((fonts.mapM cut session).1.map (·.outcome)) ∧
      (fonts.mapM cut session).2.world.children = session.world.children ++ results := by
  intro cut
  obtain ⟨results, runs⟩ :=
    Action.mapM_runs (batch.cut_startsChild backend start child) fonts session
  refine ⟨results, ?_, ?_⟩
  · exact List.forall₂_map_right_iff.mpr (runs.forall₂ StartsChild.comesTo)
  · exact (runs.recorded_each StartsChild.children).trans (by rw [List.map_id'])

def children (session : Session σ) : List ChildResult :=
  (batch.run (backend.attended.withChild (Attended.start start) child)
    ⟨⟨session.world, []⟩, session.log⟩).2.world.children

/-- A report that is not of a dry run tells of every child by the font it was started for. -/
theorem children_of_run_ok {batch : Batch} (wet : batch.dryRun = false) {session : Session σ}
    {report : Report} (ok : (batch.run (backend.withChild start child) session).1 = .ok report) :
    List.Forall₂ (ChildResult.ComesTo child) (batch.children backend start child session)
      (report.files.map (·.outcome)) := by
  let attended := backend.attended.withChild (Attended.start start) child
  let opening : Session (Attended σ) := ⟨⟨session.world, []⟩, session.log⟩
  have same : (batch.run attended opening).1 = .ok report :=
    (run_related (backend.withChild_alike start child) session opening rfl fun _ => rfl).1.symm.trans ok
  obtain ⟨sound, fonts, found⟩ := scanned_of_run_ok same
  obtain ⟨results, come, children⟩ :=
    batch.mapM_cut_children backend start child fonts (batch.searched attended opening)
  have run := run_of_scan_ok sound found
  rw [report_eq, handle_of_wet wet] at run
  obtain rfl := Except.ok.inj ((congrArg Prod.fst run).symm.trans same)
  have none : (batch.searched attended opening).world.children = [] := by
    rw [searched_world]
    rfl
  rw [Batch.children, run, children, none]
  exact come

end Batch
end FontSubset
