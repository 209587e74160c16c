import Mathlib
import FontSubset.Batch
/-! What each action of a batch does to a session, one equation an action. Later proofs
use these and leave the actions closed. -/
namespace FontSubset

variable {σ α β γ κ : Type}

namespace Action

@[simp] theorem pure_apply (a : α) (session : Session σ) :
    (pure a : Action σ α) session = (a, session) := rfl

@[simp] theorem bind_apply (action : Action σ α) (next : α → Action σ β) (session : Session σ) :
    (action >>= next) session = next (action session).1 (action session).2 := rfl

@[simp] theorem ofWorld_apply (step : StateM σ α) (session : Session σ) :
    ofWorld step session =
      ((step session.world).1, { session with world := (step session.world).2 }) := rfl

@[simp] theorem say_apply (events : List Event) (session : Session σ) :
    say events session = ((), { session with log := session.log ++ events }) := rfl

/-! An action on each of some items, one after the other. -/

theorem zipWith_left {items : List α} {results : List κ} (length : results.length = items.length)
    (f : α → γ) : List.zipWith (fun item _ => f item) items results = items.map f := by
  have items_eq := congrArg (List.map f) (List.map_fst_zip length.ge)
  rwa [List.map_map, List.map_zip_eq_zipWith] at items_eq

theorem zipWith_right {items : List α} {results : List κ} (length : results.length = items.length)
    (f : κ → γ) : List.zipWith (fun _ result => f result) items results = results.map f := by
  have results_eq := congrArg (List.map f) (List.map_snd_zip length.le)
  rwa [List.map_map, List.map_zip_eq_zipWith] at results_eq

/-- From a first session to a last one, each item comes to a result and to a value in a step, and
the next item is taken where this one has led. -/
inductive Runs (step : Session σ → α → κ → β → Session σ → Prop) :
    Session σ → List α → List κ → List β → Session σ → Prop
  | nil (session : Session σ) : Runs step session [] [] [] session
  | cons {session next last : Session σ} {item : α} {result : κ} {value : β} {items : List α}
    {results : List κ} {values : List β} (first : step session item result value next)
    (later : Runs step next items results values last) :
    Runs step session (item :: items) (result :: results) (value :: values) last

variable {step : Session σ → α → κ → β → Session σ → Prop}

theorem mapM_runs {action : α → Action σ β}
    (each : ∀ item session, ∃ result,
      step session item result (action item session).1 (action item session).2)
    (items : List α) (session : Session σ) :
    ∃ results,
      Runs step session items results (items.mapM action session).1 (items.mapM action session).2 := by
  induction items generalizing session with
  | nil => exact ⟨[], .nil session⟩
  | cons item rest ih =>
    obtain ⟨result, first⟩ := each item session
    obtain ⟨results, later⟩ := ih (action item session).2
    rw [List.mapM_cons]
    exact ⟨result :: results, .cons first later⟩

namespace Runs

variable {session last : Session σ} {items : List α} {results : List κ} {values : List β}
variable (runs : Runs step session items results values last)
include runs

theorem length_eq : results.length = items.length := by
  induction runs with
  | nil => rfl
  | cons first later ih => rw [List.length_cons, ih, List.length_cons]

theorem forall₂ {R : κ → β → Prop}
    (each : ∀ {session item result value next}, step session item result value next →
      R result value) : List.Forall₂ R results values := by
  induction runs with
  | nil => exact .nil
  | cons first later ih => exact .cons (each first) ih

theorem values_eq {f : α → κ → β}
    (each : ∀ {session item result value next}, step session item result value next →
      value = f item result) : values = List.zipWith f items results := by
  induction runs with
  | nil => rfl
  | cons first later ih => rw [each first, ih, List.zipWith_cons_cons]

/-- What goes on record in the steps is on record in the end. -/
theorem recorded {record : Session σ → List γ} {adds : α → κ → List γ}
    (each : ∀ {session item result value next}, step session item result value next →
      record next = record session ++ adds item result) :
    record last = record session ++ (List.zipWith adds items results).flatten := by
  induction runs with
  | nil => exact (List.append_nil _).symm
  | cons first later ih =>
    rw [ih, each first, List.zipWith_cons_cons, List.flatten_cons, List.append_assoc]

theorem recorded_each {record : Session σ → List γ} {entry : κ → γ}
    (each : ∀ {session item result value next}, step session item result value next →
      record next = record session ++ [entry result]) :
    record last = record session ++ results.map entry := by
  rw [runs.recorded each, zipWith_right runs.length_eq fun result => [entry result],
    ← List.flatMap_def, ← List.map_eq_flatMap]

end Runs

end Action

namespace Preflight

theorem verdict_check (textFile : Path) (presence : Presence) :
    (check textFile presence).verdict =
      match presence with
      | .missing => .error (.config (PreflightIssue.textFileMissing textFile).message)
      | .other => .error (.config (PreflightIssue.textFileNotAFile textFile).message)
      | .file => .ok () := by
  cases presence <;> rfl

end Preflight

namespace Batch

variable (batch : Batch) (backend : Backend σ) (session : Session σ)

def textFilePresence : Presence := (backend.presence batch.options.textFile session.world).1

/-- The session after that, with what is wrong in the log. -/
def checked : Session σ :=
  ⟨(backend.presence batch.options.textFile session.world).2, session.log ++
    (Preflight.check batch.options.textFile (batch.textFilePresence backend session)).map
      .preflightFailed⟩

/-- The character list is not there or no file, and that is fatal. -/
def IsFatal : Prop := batch.strict = true ∧ batch.textFilePresence backend session ≠ .file

def scanResult : Except ScanError (List Font) :=
  (backend.scan batch.root (batch.checked backend session).world).1.1

def searched : Session σ := (batch.scan backend (batch.checked backend session)).2

@[simp] theorem preflight_session :
    (batch.preflight backend session).2 = batch.checked backend session := by
  unfold preflight
  simp only [Action.bind_apply, Action.ofWorld_apply, Action.say_apply]
  split <;> rfl

theorem preflight_result :
    (batch.preflight backend session).1 =
      let issues := Preflight.check batch.options.textFile (batch.textFilePresence backend session)
      if batch.strict then issues.verdict.map fun () => issues else .ok issues := by
  unfold preflight
  simp only [Action.bind_apply, Action.ofWorld_apply, Action.say_apply]
  split <;> rfl

@[simp] theorem scan_result :
    (batch.scan backend session).1 = (backend.scan batch.root session.world).1.1 := by
  unfold scan
  simp only [Action.bind_apply, Action.ofWorld_apply, Action.say_apply]
  cases (backend.scan batch.root session.world).1.1 <;> rfl

@[simp] theorem scan_world :
    (batch.scan backend session).2.world = (backend.scan batch.root session.world).2 := by
  unfold scan
  simp only [Action.bind_apply, Action.ofWorld_apply, Action.say_apply]
  cases (backend.scan batch.root session.world).1.1 <;> rfl

theorem searched_world : (batch.searched backend session).world =
    (backend.scan batch.root (batch.checked backend session).world).2 :=
  scan_world ..

/-! A run goes one of three ways. -/

variable {batch backend session}

theorem run_of_isFatal (fatal : batch.IsFatal backend session) :
    batch.run backend session =
      (.error (.config (match batch.textFilePresence backend session with
        | .missing => (PreflightIssue.textFileMissing batch.options.textFile).message
        | _ => (PreflightIssue.textFileNotAFile batch.options.textFile).message)),
      batch.checked backend session) := by
  obtain ⟨strict, absent⟩ := fatal
  have result := preflight_result batch backend session
  simp only [strict, if_true, Preflight.verdict_check] at result
  unfold run
  rw [Action.bind_apply, preflight_session, result]
  cases h : batch.textFilePresence backend session with
  | file => exact absurd h absent
  | missing => rfl
  | other => rfl

theorem preflight_ok_of_not_isFatal (sound : ¬ batch.IsFatal backend session) :
    ∃ issues, (batch.preflight backend session).1 = .ok issues := by
  rw [preflight_result]
  by_cases strict : batch.strict = true
  · have present : batch.textFilePresence backend session = .file := by
      by_contra absent
      exact sound ⟨strict, absent⟩
    simp [strict, present, Preflight.verdict_check, Except.map]
  · simp [strict]

theorem run_of_scan_error {cause : ScanError} (sound : ¬ batch.IsFatal backend session)
    (refused : batch.scanResult backend session = .error cause) :
    batch.run backend session = (.error (.scan cause), batch.searched backend session) := by
  obtain ⟨issues, passed⟩ := preflight_ok_of_not_isFatal sound
  have result : (batch.scan backend (batch.checked backend session)).1 = .error cause := by
    rw [scan_result]
    exact refused
  unfold run
  rw [Action.bind_apply, preflight_session, passed]
  simp only [Action.bind_apply, result]
  rfl

theorem run_of_scan_ok {fonts : List Font} (sound : ¬ batch.IsFatal backend session)
    (found : batch.scanResult backend session = .ok fonts) :
    batch.run backend session =
      ((.ok (batch.report backend fonts (batch.searched backend session)).1),
        (batch.report backend fonts (batch.searched backend session)).2) := by
  obtain ⟨issues, passed⟩ := preflight_ok_of_not_isFatal sound
  have result : (batch.scan backend (batch.checked backend session)).1 = .ok fonts := by
    rw [scan_result]
    exact found
  unfold run
  rw [Action.bind_apply, preflight_session, passed]
  simp only [Action.bind_apply, result]
  rfl

/-! A call of the tool comes to its end or breaks off, and then the clock is read again. -/

variable {font : Font}

theorem cut_of_ok {completion : Completion}
    (answered : (backend.invoke font batch.options (backend.now session.world).2).1.1 =
      .ok completion) :
    batch.cut backend font session =
      let call := backend.invoke font batch.options (backend.now session.world).2
      let file : FileReport := ⟨font, completion.outcome, completion.duration⟩
      (file, ⟨call.2,
        session.log ++ [Event.invoking font] ++ call.1.2.map Event.tool ++ [Event.ofFile file]⟩) := by
  unfold cut
  simp only [Action.bind_apply, Action.ofWorld_apply, Action.say_apply, answered]
  rfl

theorem cut_of_error {cause : InvokeError}
    (answered : (backend.invoke font batch.options (backend.now session.world).2).1.1 =
      .error cause) :
    batch.cut backend font session =
      let start := (backend.now session.world).1
      let call := backend.invoke font batch.options (backend.now session.world).2
      let file : FileReport := ⟨font, cause.outcome, (backend.now call.2).1 - start⟩
      (file, ⟨(backend.now call.2).2,
        session.log ++ [Event.invoking font] ++ call.1.2.map Event.tool ++ [Event.ofFile file]⟩) := by
  unfold cut
  simp only [Action.bind_apply, Action.ofWorld_apply, Action.say_apply, answered]
  rfl

theorem cut_outcome (batch : Batch) (backend : Backend σ) (font : Font) (session : Session σ) :
    (batch.cut backend font session).1.outcome =
      .ofAnswer (backend.invoke font batch.options (backend.now session.world).2).1.1 := by
  cases answered : (backend.invoke font batch.options (backend.now session.world).2).1.1 with
  | ok completion => rw [cut_of_ok answered, Outcome.ofAnswer]
  | error cause => rw [cut_of_error answered, Outcome.ofAnswer]

/-- What readings of the clock leave alone is changed by the call only. -/
theorem cut_leaves {get : σ → α} (leaves : ∀ world, get (backend.now world).2 = get world)
    (font : Font) (session : Session σ) :
    get (batch.cut backend font session).2.world =
      get (backend.invoke font batch.options (backend.now session.world).2).2 := by
  cases answered : (backend.invoke font batch.options (backend.now session.world).2).1.1 with
  | ok completion => rw [cut_of_ok answered]
  | error cause =>
    rw [cut_of_error answered]
    exact leaves _

end Batch
end FontSubset
