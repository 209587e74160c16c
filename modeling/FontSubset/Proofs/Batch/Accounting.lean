import FontSubset.Proofs.Batch.Children
import FontSubset.Proofs.Batch.ExitCodes
/-! Time on a stepping clock. How far the clock moves in a run follows from how often it is read,
and that depends on what the tool comes to: a child process is timed by readings of its own, any
other tool tells its time itself. -/
namespace FontSubset

variable {σ κ : Type}

namespace Clock

def after (clock : Clock) (readings : Nat) : Clock :=
  ⟨clock.now + Int64.ofNat readings * clock.step, clock.step⟩

@[simp] theorem after_step (clock : Clock) (readings : Nat) :
    (clock.after readings).step = clock.step := rfl

@[simp] theorem after_zero (clock : Clock) : clock.after 0 = clock := by
  have now : clock.now + Int64.ofNat 0 * clock.step = clock.now := by
    rw [show Int64.ofNat 0 = 0 from rfl]
    grind
  rw [after, now]

theorem after_after (clock : Clock) (first later : Nat) :
    (clock.after first).after later = clock.after (first + later) := by
  simp only [after, Int64.ofNat_add, mk.injEq, and_true]
  grind

theorem read_eq (clock : Clock) : clock.read = (clock.now, clock.after 1) := by
  have now : clock.now + Int64.ofNat 1 * clock.step = clock.now + clock.step := by
    rw [show Int64.ofNat 1 = 1 from rfl]
    grind
  rw [read, after, now]

theorem after_sub (clock : Clock) (readings : Nat) :
    (clock.after readings).now - clock.now = Int64.ofNat readings * clock.step := by
  rw [after]
  grind

theorem after_one_sub (clock : Clock) : (clock.after 1).now - clock.now = clock.step := by
  rw [after_sub, show Int64.ofNat 1 = 1 from rfl]
  grind

def times (clock : Clock) (readings : Nat) : List Int64 :=
  (List.range readings).map fun k => (clock.after k).now

@[simp] theorem times_zero (clock : Clock) : clock.times 0 = [] := rfl

theorem times_succ (clock : Clock) (readings : Nat) :
    clock.times (readings + 1) = clock.now :: (clock.after 1).times readings := by
  rw [times, List.range_succ_eq_map, List.map_cons, after_zero, List.map_map, times]
  congr 2
  funext k
  rw [after_after, Nat.add_comm]
  rfl

theorem times_one (clock : Clock) : clock.times 1 = [clock.now] := by
  rw [times_succ, times_zero]

theorem times_two (clock : Clock) : clock.times 2 = [clock.now, (clock.after 1).now] := by
  rw [times_succ, times_one]

theorem times_three (clock : Clock) :
    clock.times 3 = [clock.now, (clock.after 1).now, (clock.after 2).now] := by
  rw [times_succ, times_two, after_after]

end Clock

/-- A backend that tells the time by a stepping clock. A look at a path and a scan leave the clock
alone; of the tool nothing is said. -/
structure Backend.TellsTime (clock : σ → Clock) (backend : Backend σ) : Prop where
  now : ∀ world, ((backend.now world).1, clock (backend.now world).2) = (clock world).read
  presence : ∀ path world, clock (backend.presence path world).2 = clock world
  scan : ∀ root world, clock (backend.scan root world).2 = clock world

namespace Backend.TellsTime

variable {clock : σ → Clock} {backend : Backend σ} (tells : backend.TellsTime clock)
include tells

theorem now_fst (world : σ) : (backend.now world).1 = (clock world).now := by
  have read := (tells.now world).trans (clock world).read_eq
  exact (Prod.mk.inj read).1

theorem now_snd (world : σ) : clock (backend.now world).2 = (clock world).after 1 := by
  have read := (tells.now world).trans (clock world).read_eq
  exact (Prod.mk.inj read).2

theorem attended : backend.attended.TellsTime (fun attended => clock attended.world) where
  now attended := tells.now attended.world
  presence path attended := tells.presence path attended.world
  scan root attended := tells.scan root attended.world

end Backend.TellsTime

theorem Rehearsal.backend_tellsTime (presence : Path → Presence) (scanner : Scanner)
    (part : Part) : (backend presence scanner part).TellsTime Stage.clock where
  now _ := rfl
  presence _ _ := rfl
  scan _ _ := rfl

theorem Host.Machine.backend_tellsTime (child : Subprocess) :
    (backend child).TellsTime Machine.clock where
  now _ := rfl
  presence _ _ := rfl
  scan _ _ := rfl

/-- On the machine, too, a child process leaves the clock to those who read it. -/
theorem Host.Machine.start_clock (child : Subprocess) (arguments : List Bytes)
    (machine : Machine) : (start child arguments machine).2.clock = machine.clock := by
  unfold start
  dsimp only
  split
  · rfl
  · split <;> rfl

def Contact.reading? : Contact → Option Int64
  | time now => some now
  | scanned .. | called .. | answered _ => none

/-- What the results of a tool come to in readings of the clock and in reported time: those of a
child process on the clock of the run, or those of a tool that does not look at the clock. -/
structure Tariff (κ : Type) where
  answer : κ → Answer
  readings : κ → Nat
  duration : κ → Int64

namespace Tariff

def ofChild (child : Subprocess) (step : Int64) : Tariff ChildResult where
  answer := child.answer step
  readings _ := 3
  duration result := if result.isEnded then step else 2 * step

def ofTool (step : Int64) : Tariff Answer where
  answer := id
  readings
    | .ok _ => 1
    | .error _ => 2
  duration
    | .ok completion => completion.duration
    | .error _ => step

/-- The turn of one font. The tool is called on the font and comes to the result, and the clock
is read as often as that result asks for, first at the time it stands at. -/
structure Charges (tariff : Tariff κ) (clock : Clock) (font : Font) (result : κ)
    (file : FileReport) (turn : List Contact) : Prop where
  called : turn.filterMap Contact.calledFont? = [font]
  answered : turn.filterMap Contact.answer? = [tariff.answer result]
  readings : turn.filterMap Contact.reading? = clock.times (tariff.readings result)
  font : file.font = font
  duration : file.duration = tariff.duration result

/-- Turns one after the other, in each of which the clock goes on from where it stood. -/
inductive ChargesEach (tariff : Tariff κ) : Clock → List Font → List κ → List FileReport →
    List (List Contact) → Prop
  | nil (clock : Clock) : ChargesEach tariff clock [] [] [] []
  | cons {clock : Clock} {font : Font} {result : κ} {file : FileReport} {turn : List Contact}
    {fonts : List Font} {results : List κ} {files : List FileReport} {turns : List (List Contact)}
    (first : tariff.Charges clock font result file turn)
    (later : ChargesEach tariff (clock.after (tariff.readings result)) fonts results files turns) :
    ChargesEach tariff clock (font :: fonts) (result :: results) (file :: files) (turn :: turns)

theorem ChargesEach.length_eq {tariff : Tariff κ} {clock : Clock} {fonts : List Font}
    {results : List κ} {files : List FileReport} {turns : List (List Contact)}
    (charges : tariff.ChargesEach clock fonts results files turns) :
    results.length = fonts.length := by
  induction charges with
  | nil => rfl
  | cons first later ih => rw [List.length_cons, ih, List.length_cons]

theorem sum_readings_ofChild (child : Subprocess) (step : Int64) (results : List ChildResult) :
    (results.map (ofChild child step).readings).sum = 3 * results.length := by
  induction results with
  | nil => rfl
  | cons result rest ih =>
    rw [List.map_cons, List.sum_cons, ih, List.length_cons]
    simp only [ofChild]
    omega

theorem sum_readings_ofTool (step : Int64) (answers : List Answer) :
    (answers.map (ofTool step).readings).sum =
      answers.length + answers.countP fun answer => !answer.isOk := by
  induction answers with
  | nil => rfl
  | cons answer rest ih =>
    rw [List.map_cons, List.sum_cons, ih, List.length_cons, List.countP_cons]
    cases answer <;> simp [ofTool, Except.isOk, Except.toBool] <;> omega

/-- From one session to the next the turn of a font is charged by the tariff, and its result goes
on record. -/
structure Applies (tariff : Int64 → Tariff κ) (clock : σ → Clock) (record : Watched σ → List κ)
    (session : Session (Watched σ)) (font : Font) (turn : κ × List Contact) (file : FileReport)
    (next : Session (Watched σ)) : Prop where
  charges : (tariff (clock session.world.world).step).Charges (clock session.world.world) font
    turn.1 file turn.2
  contacts : next.world.contacts = session.world.contacts ++ turn.2
  recorded : record next.world = record session.world ++ [turn.1]
  moved : clock next.world.world = (clock session.world.world).after
    ((tariff (clock session.world.world).step).readings turn.1)

def AppliesTo (tariff : Int64 → Tariff κ) (clock : σ → Clock) (record : Watched σ → List κ)
    (handle : Font → Action (Watched σ) FileReport) : Prop :=
  ∀ font session, ∃ turn,
    Applies tariff clock record session font turn (handle font session).1 (handle font session).2

variable {tariff : Int64 → Tariff κ} {clock : σ → Clock} {record : Watched σ → List κ}

theorem chargesEach_of_runs {session last : Session (Watched σ)} {fonts : List Font}
    {turns : List (κ × List Contact)} {files : List FileReport}
    (runs : Action.Runs (Applies tariff clock record) session fonts turns files last) :
    let begun := clock session.world.world
    (tariff begun.step).ChargesEach begun fonts (turns.map Prod.fst) files (turns.map Prod.snd) ∧
      clock last.world.world =
        begun.after ((turns.map Prod.fst).map (tariff begun.step).readings).sum := by
  induction runs with
  | nil session => exact ⟨.nil _, (Clock.after_zero _).symm⟩
  | cons first later ih =>
    -- The step stays as it is, so the same tariff goes for the rest.
    obtain ⟨charges, moved⟩ := ih
    rw [first.moved, Clock.after_step] at charges moved
    refine ⟨.cons first.charges charges, ?_⟩
    rw [moved, Clock.after_after, List.map_cons, List.map_cons, List.sum_cons]

theorem AppliesTo.mapM {handle : Font → Action (Watched σ) FileReport}
    (applies : AppliesTo tariff clock record handle) (fonts : List Font)
    (session : Session (Watched σ)) :
    ∃ results turns,
      let begun := clock session.world.world
      let done := fonts.mapM handle session
      (tariff begun.step).ChargesEach begun fonts results done.1 turns ∧
        done.2.world.contacts = session.world.contacts ++ turns.flatten ∧
        record done.2.world = record session.world ++ results ∧
        clock done.2.world.world =
          begun.after (results.map (tariff begun.step).readings).sum := by
  obtain ⟨turns, runs⟩ := Action.mapM_runs applies fonts session
  obtain ⟨charges, moved⟩ := chargesEach_of_runs runs
  refine ⟨_, _, charges, ?_, runs.recorded_each Applies.recorded, moved⟩
  exact (runs.recorded Applies.contacts).trans (by rw [Action.zipWith_right runs.length_eq])

end Tariff

/-! The run reads the clock before each call, and so does the child's side. A child that comes to
its end is timed from the second reading on; a call that breaks off is timed from the first. -/

namespace Subprocess

theorem answer_of_isEnded (child : Subprocess) (duration : Int64) {result : ChildResult}
    (ended : result.isEnded = true) :
    ∃ completion, child.answer duration result = .ok completion ∧
      completion.duration = duration := by
  cases result with
  | ended exitCode stdout stderr => exact ⟨_, rfl, rfl⟩
  | refused | lost | overtime => cases ended

theorem answer_of_not_isEnded (child : Subprocess) {result : ChildResult}
    (broken : result.isEnded = false) :
    ∃ cause, ∀ duration, child.answer duration result = .error cause := by
  cases result with
  | ended exitCode stdout stderr => cases broken
  | refused reason => exact ⟨_, fun _ => rfl⟩
  | lost reason => exact ⟨_, fun _ => rfl⟩
  | overtime => exact ⟨_, fun _ => rfl⟩

end Subprocess

namespace Backend

variable (backend : Backend σ) (start : Subprocess → List Bytes → StateM σ ChildResult)
variable (child : Subprocess)

@[simp] theorem watched_now_contacts (watched : Watched σ) :
    (backend.watched.now watched).2.contacts =
      watched.contacts ++ [Contact.time (backend.now watched.world).1] := rfl

/-- A backend under watch that has a child process as its tool. The readings that time the child
are written down as well. -/
def watchedChild : Backend (Watched σ) :=
  { backend.watched with
    invoke font options watched :=
      let (answer, watched) := child.invoke backend.watched.now
        (fun child arguments => Watched.lift (start child arguments)) font options
        (watched.note (.called font (options.arguments font)))
      (answer, watched.note (.answered answer.1)) }

theorem watchedChild_alike :
    (backend.withChild start child).Alike (fun world watched => watched.world = world)
      (backend.watchedChild start child) where
  now := by rintro _ watched rfl; exact ⟨rfl, rfl⟩
  presence := by rintro path _ watched rfl; rfl
  scan := by rintro root _ watched rfl; exact ⟨rfl, rfl⟩
  invoke := by
    rintro font options _ watched rfl
    let begun := backend.now watched.world
    let ended := start child (options.arguments font) begun.2
    obtain ⟨plain, left⟩ := child.invoke_eq backend.now start font options watched.world
      (show start child (options.arguments font) begun.2 = (ended.1, ended.2) from rfl)
    obtain ⟨noted, left'⟩ := child.invoke_eq backend.watched.now
      (fun child arguments => Watched.lift (start child arguments)) font options
      (watched.note (.called font (options.arguments font)))
      (show _ = (ended.1, (⟨ended.2, _⟩ : Watched σ)) from rfl)
    refine ⟨plain.trans noted.symm, ?_⟩
    refine (congrArg Watched.world left').trans (Eq.trans ?_ left.symm)
    split <;> rfl

variable {backend} {clock : σ → Clock}

/-- The child's side of a turn: a reading before the child is started, and one more after it, but
only after a child that came to its end. -/
theorem invoke_watchedChild (tells : backend.TellsTime clock)
    (aside : ∀ child arguments world, clock (start child arguments world).2 = clock world)
    (font : Font) (options : Options) (watched : Watched σ) :
    let begun := clock watched.world
    let ended := start child (options.arguments font) (backend.now watched.world).2
    let call := (backend.watchedChild start child).invoke font options watched
    call.1.1 = child.answer begun.step ended.1 ∧
      call.2.contacts = watched.contacts ++
        Contact.called font (options.arguments font) :: Contact.time begun.now ::
          ((if ended.1.isEnded then [Contact.time (begun.after 1).now] else []) ++
            [Contact.answered (child.answer begun.step ended.1)]) ∧
      call.2.world = (if ended.1.isEnded then (backend.now ended.2).2 else ended.2) ∧
      clock call.2.world = begun.after (if ended.1.isEnded then 2 else 1) := by
  intro begun ended call
  have first_now : (backend.now watched.world).1 = begun.now := tells.now_fst _
  have ended_clock : clock ended.2 = begun.after 1 := (aside _ _ _).trans (tells.now_snd _)
  have last_now : (backend.now ended.2).1 = (begun.after 1).now :=
    (tells.now_fst _).trans (congrArg Clock.now ended_clock)
  have last_clock : clock (backend.now ended.2).2 = begun.after 2 := by
    rw [tells.now_snd, ended_clock, Clock.after_after]
  have timed : (backend.now ended.2).1 - (backend.now watched.world).1 = begun.step := by
    rw [last_now, first_now, Clock.after_one_sub]
  obtain ⟨answered, left⟩ := child.invoke_eq backend.watched.now
    (fun child arguments => Watched.lift (start child arguments)) font options
    (watched.note (.called font (options.arguments font)))
    (show _ = (ended.1, (⟨ended.2, _⟩ : Watched σ)) from rfl)
  have answer : call.1.1 = child.answer begun.step ended.1 :=
    answered.trans (congrArg (child.answer · ended.1) timed)
  have world : call.2.world = if ended.1.isEnded then (backend.now ended.2).2 else ended.2 := by
    refine (congrArg Watched.world left).trans ?_
    split <;> rfl
  refine ⟨answer, ?_, world, ?_⟩
  · refine (congrArg₂ (fun w a => Watched.contacts w ++ [Contact.answered a]) left answer).trans ?_
    cases ended.1.isEnded with
    | true => simp [begun, first_now, last_now]
    | false => simp [begun, first_now]
  · rw [world]
    cases ended.1.isEnded with
    | true => exact last_clock
    | false => exact ended_clock

end Backend

namespace Batch

variable (batch : Batch) {backend : Backend σ} {clock : σ → Clock}

theorem appliesTo_cut (tells : backend.TellsTime clock)
    (aside : ∀ font options world, clock (backend.invoke font options world).2 = clock world) :
    Tariff.AppliesTo Tariff.ofTool clock (·.contacts.filterMap Contact.answer?)
      (batch.cut backend.watched) := by
  intro font session
  let begun := clock session.world.world
  let read := backend.now session.world.world
  let call := backend.invoke font batch.options read.2
  have start : read.1 = begun.now := tells.now_fst _
  have called : clock call.2 = begun.after 1 :=
    (aside font batch.options read.2).trans (tells.now_snd _)
  cases answered : call.1.1 with
  | ok completion =>
    refine ⟨(.ok completion, [.time read.1, .called font (batch.options.arguments font),
      .answered (.ok completion)]), ?_⟩
    rw [cut_of_ok answered]
    refine ⟨⟨rfl, rfl, ?_, rfl, rfl⟩, ?_, ?_, called⟩
    · show [read.1] = begun.times 1
      rw [start, Clock.times_one]
    · simp [Backend.watched, Watched.lift, read, call, ← answered]
    · simp [Backend.watched, Watched.lift, ← answered, read, call]
      rfl
  | error cause =>
    have stop : (backend.now call.2).1 = (begun.after 1).now :=
      (tells.now_fst _).trans (congrArg Clock.now called)
    refine ⟨(.error cause, [.time read.1, .called font (batch.options.arguments font),
      .answered (.error cause), .time (backend.now call.2).1]), ?_⟩
    rw [cut_of_error answered]
    refine ⟨⟨rfl, rfl, ?_, rfl, ?_⟩, ?_, ?_, ?_⟩
    · show [read.1, (backend.now call.2).1] = begun.times 2
      rw [start, stop, Clock.times_two]
    · show (backend.now call.2).1 - read.1 = begun.step
      rw [start, stop, Clock.after_one_sub]
    · simp [Backend.watched, Watched.lift, read, call, ← answered]
    · simp [Backend.watched, Watched.lift, ← answered, read, call]
      rfl
    · show clock (backend.now call.2).2 = begun.after 2
      rw [tells.now_snd, called, Clock.after_after]

theorem appliesTo_cut_child (start : Subprocess → List Bytes → StateM σ ChildResult)
    (child : Subprocess) (tells : backend.TellsTime clock)
    (aside : ∀ child arguments world, clock (start child arguments world).2 = clock world) :
    Tariff.AppliesTo (Tariff.ofChild child) (fun attended => clock attended.world)
      (fun watched => watched.world.children)
      (batch.cut (backend.attended.watchedChild (Attended.start start) child)) := by
  intro font session
  let observed := backend.attended.watchedChild (Attended.start start) child
  let begun := clock session.world.world.world
  let read := observed.now session.world
  let call := observed.invoke font batch.options read.2
  have start_now : read.1 = begun.now := tells.now_fst _
  have read_clock : clock read.2.world.world = begun.after 1 := tells.now_snd _
  have read_contacts : read.2.contacts = session.world.contacts ++ [Contact.time begun.now] :=
    congrArg (session.world.contacts ++ [Contact.time ·]) (tells.now_fst _)
  obtain ⟨answered, contacts, world, moved⟩ :=
    Backend.invoke_watchedChild (Attended.start start) child tells.attended
      (fun child arguments attended => aside child arguments attended.world)
      font batch.options read.2
  generalize ended_eq : (Attended.start start child (batch.options.arguments font)
    (backend.attended.now read.2.world).2) = ended at answered contacts world moved
  have recorded : call.2.world.children = session.world.world.children ++ [ended.1] := by
    rw [world, ← ended_eq]
    split <;> rfl
  simp only [read_clock, Clock.after_step] at answered
  simp only [read_clock, read_contacts, Clock.after_step, Clock.after_after] at contacts
  simp only [read_clock, Clock.after_after] at moved
  cases isEnded : ended.1.isEnded with
  | true =>
    -- The child was timed by its own two readings, and the one before the call goes unused.
    obtain ⟨completion, answer, duration⟩ := child.answer_of_isEnded begun.step isEnded
    rw [isEnded, if_pos rfl] at contacts moved
    rw [answer] at answered contacts
    refine ⟨(ended.1, [.time begun.now, .called font (batch.options.arguments font),
      .time (begun.after 1).now, .time (begun.after 2).now, .answered (.ok completion)]), ?_⟩
    rw [cut_of_ok answered]
    refine ⟨⟨rfl, congrArg ([·]) answer.symm, ?_, rfl, ?_⟩, ?_, recorded, moved⟩
    · exact begun.times_three.symm
    · exact duration.trans (if_pos isEnded).symm
    · simpa only [List.append_assoc, List.cons_append, List.nil_append] using contacts
  | false =>
    -- Here it is the child's reading that goes unused.
    obtain ⟨cause, answer⟩ := child.answer_of_not_isEnded isEnded
    rw [isEnded, if_neg Bool.false_ne_true] at contacts moved
    rw [answer] at answered contacts
    let last := observed.now call.2
    have last_now : last.1 = (begun.after 2).now :=
      (tells.now_fst _).trans (congrArg Clock.now moved)
    refine ⟨(ended.1, [.time begun.now, .called font (batch.options.arguments font),
      .time (begun.after 1).now, .answered (.error cause), .time (begun.after 2).now]), ?_⟩
    rw [cut_of_error answered]
    refine ⟨⟨rfl, congrArg ([·]) (answer _).symm, ?_, rfl, ?_⟩, ?_, recorded, ?_⟩
    · exact begun.times_three.symm
    · show last.1 - read.1 = _
      rw [last_now, start_now, Clock.after_sub]
      exact (if_neg (Bool.eq_false_iff.mp isEnded)).symm
    · show call.2.contacts ++ [Contact.time last.1] = _
      rw [contacts, last_now]
      simp only [List.append_assoc, List.cons_append, List.nil_append]
    · show clock last.2.world.world = begun.after 3
      rw [← Clock.after_after begun 2 1, ← moved]
      exact tells.now_snd _

/-- A run whose children are attended and whose readings are all written down. -/
def childRun (backend : Backend σ) (start : Subprocess → List Bytes → StateM σ ChildResult)
    (child : Subprocess) (session : Session σ) :
    Except RunError Report × Session (Watched (Attended σ)) :=
  batch.run (backend.attended.watchedChild (Attended.start start) child)
    (Session.watched ⟨⟨session.world, []⟩, session.log⟩)

/-- What passed between a run and the clock, the scanner and its child processes. -/
def childContacts (backend : Backend σ)
    (start : Subprocess → List Bytes → StateM σ ChildResult) (child : Subprocess)
    (session : Session σ) : List Contact :=
  (batch.childRun backend start child session).2.world.contacts

/-- A run is not changed by what is written down about it. -/
theorem childRun_eq (backend : Backend σ)
    (start : Subprocess → List Bytes → StateM σ ChildResult) (child : Subprocess)
    (session : Session σ) :
    let plain := batch.run (backend.withChild start child) session
    let noted := batch.childRun backend start child session
    plain.1 = noted.1 ∧ noted.2.world.world.world = plain.2.world ∧
      noted.2.world.world.children = batch.children backend start child session := by
  intro plain noted
  let opening : Session (Attended σ) := ⟨⟨session.world, []⟩, session.log⟩
  let attended := batch.run (backend.attended.withChild (Attended.start start) child) opening
  obtain ⟨result, world⟩ : plain.1 = attended.1 ∧ attended.2.world.world = plain.2.world :=
    run_related (backend.withChild_alike start child) session opening rfl fun _ => rfl
  obtain ⟨result', world'⟩ : attended.1 = noted.1 ∧ noted.2.world.world = attended.2.world :=
    run_related (backend.attended.watchedChild_alike (Attended.start start) child) opening
      opening.watched rfl fun _ => rfl
  exact ⟨result.trans result', (congrArg Attended.world world').trans world,
    congrArg Attended.children world'⟩

variable {batch} {session : Session σ} {fonts : List Font}

theorem run_charged {tariff : Int64 → Tariff κ} {record : Watched σ → List κ}
    (observed : Backend (Watched σ)) (opening : Session (Watched σ)) (wet : batch.dryRun = false)
    (sound : ¬ batch.IsFatal observed opening)
    (found : batch.scanResult observed opening = .ok fonts)
    (applies : Tariff.AppliesTo tariff clock record (batch.cut observed)) :
    ∃ results files turns,
      let searched := (batch.searched observed opening).world
      let begun := clock searched.world
      let done := batch.run observed opening
      done.1 = .ok ⟨files, false⟩ ∧
        (tariff begun.step).ChargesEach begun fonts results files turns ∧
        done.2.world.contacts = searched.contacts ++ turns.flatten ∧
        record done.2.world = record searched ++ results ∧
        clock done.2.world.world =
          begun.after (results.map (tariff begun.step).readings).sum := by
  obtain ⟨results, turns, charges, ends⟩ :=
    applies.mapM fonts (batch.searched observed opening)
  refine ⟨results, _, turns, ?_, charges, ?_⟩
  · rw [run_of_scan_ok sound found, report_eq, handle_of_wet wet, wet]
  · rw [run_of_scan_ok sound found, report_eq, handle_of_wet wet]
    exact ends

theorem searched_watched_clock (tells : backend.TellsTime clock) :
    clock (batch.searched backend.watched session.watched).world.world = clock session.world := by
  rw [searched_world]
  exact (tells.scan _ _).trans (tells.presence _ _)

theorem childRun_charged {backend : Backend σ}
    (start : Subprocess → List Bytes → StateM σ ChildResult) (child : Subprocess)
    (wet : batch.dryRun = false) (sound : ¬ batch.IsFatal backend session)
    (found : batch.scanResult backend session = .ok fonts) (tells : backend.TellsTime clock)
    (aside : ∀ child arguments world, clock (start child arguments world).2 = clock world) :
    let begun := clock session.world
    let noted := batch.childRun backend start child session
    ∃ files turns,
      noted.1 = .ok ⟨files, false⟩ ∧
        (Tariff.ofChild child begun.step).ChargesEach begun fonts noted.2.world.world.children
          files turns ∧
        noted.2.world.contacts = .scanned batch.root (.ok fonts) :: turns.flatten ∧
        clock noted.2.world.world.world = begun.after (3 * fonts.length) := by
  intro begun noted
  let observed := backend.attended.watchedChild (Attended.start start) child
  let opening : Session (Attended σ) := ⟨⟨session.world, []⟩, session.log⟩
  obtain ⟨results, files, turns, result, charges, contacts, recorded, moved⟩ :=
    run_charged observed opening.watched wet sound found
      (batch.appliesTo_cut_child start child tells aside)
  have opened : (batch.searched observed opening.watched).world =
      (batch.searched backend.attended.watched opening.watched).world := by
    rw [searched_world, searched_world]
    rfl
  rw [opened, searched_watched_clock tells.attended] at charges moved
  rw [opened, searched_watched_contacts] at contacts
  obtain rfl : noted.2.world.world.children = results := by
    refine recorded.trans ?_
    rw [opened, searched_world]
    rfl
  rw [Tariff.sum_readings_ofChild, charges.length_eq] at moved
  refine ⟨files, turns, result, charges, contacts.trans ?_, moved⟩
  rw [show batch.scanResult backend.attended opening = .ok fonts from found]
  rfl

theorem run_withChild_charged {backend : Backend σ}
    (start : Subprocess → List Bytes → StateM σ ChildResult) (child : Subprocess)
    (wet : batch.dryRun = false) (sound : ¬ batch.IsFatal backend session)
    (found : batch.scanResult backend session = .ok fonts) (tells : backend.TellsTime clock)
    (aside : ∀ child arguments world, clock (start child arguments world).2 = clock world) :
    let begun := clock session.world
    let done := batch.run (backend.withChild start child) session
    ∃ files turns,
      done.1 = .ok ⟨files, false⟩ ∧
        batch.childContacts backend start child session =
          .scanned batch.root (.ok fonts) :: turns.flatten ∧
        (Tariff.ofChild child begun.step).ChargesEach begun fonts
          (batch.children backend start child session) files turns ∧
        clock done.2.world = begun.after (3 * fonts.length) := by
  intro begun done
  obtain ⟨same, world, children⟩ := batch.childRun_eq backend start child session
  obtain ⟨files, turns, result, charges, contacts, moved⟩ :=
    childRun_charged start child wet sound found tells aside
  rw [children] at charges
  rw [world] at moved
  exact ⟨files, turns, same.trans result, contacts, charges, moved⟩

/-- The machine's clock, too, moves three steps for each font, since a child leaves it to those
who read it. -/
theorem machine_run_charged {session : Session Host.Machine} (child : Subprocess)
    (wet : batch.dryRun = false) (sound : ¬ batch.IsFatal (Host.Machine.backend child) session)
    (found : batch.scanResult (Host.Machine.backend child) session = .ok fonts) :
    let begun := session.world.clock
    let done := batch.run (Host.Machine.backend child) session
    ∃ files turns,
      done.1 = .ok ⟨files, false⟩ ∧
        batch.childContacts (Host.Machine.backend child) Host.Machine.start child session =
          .scanned batch.root (.ok fonts) :: turns.flatten ∧
        (Tariff.ofChild child begun.step).ChargesEach begun fonts
          (batch.children (Host.Machine.backend child) Host.Machine.start child session)
          files turns ∧
        done.2.world.clock = begun.after (3 * fonts.length) := by
  have same : (Host.Machine.backend child).withChild Host.Machine.start child =
    Host.Machine.backend child := rfl
  have charged := run_withChild_charged Host.Machine.start child wet sound found
    (Host.Machine.backend_tellsTime child) Host.Machine.start_clock
  rw [same] at charged
  exact charged

/-- On a stepping clock a child process costs three readings, whatever it comes to, and is
reported with one step if it comes to its end and else with two. A tool that leaves the clock
alone costs one reading if it comes to its end, and then tells its own time, and else two, one
step apart. -/
theorem run_moves_clock {backend : Backend σ} (wet : batch.dryRun = false)
    (sound : ¬ batch.IsFatal backend session)
    (found : batch.scanResult backend session = .ok fonts) {clock : σ → Clock}
    (tells : backend.TellsTime clock) :
    let begun := clock session.world
    (∀ start child,
      (∀ child arguments world, clock (start child arguments world).2 = clock world) →
      let done := batch.run (backend.withChild start child) session
      let results := batch.children backend start child session
      ∃ files turns,
        done.1 = .ok ⟨files, false⟩ ∧
        batch.childContacts backend start child session =
          .scanned batch.root (.ok fonts) :: turns.flatten ∧
        (Tariff.ofChild child begun.step).ChargesEach begun fonts results files turns ∧
        clock done.2.world = begun.after (3 * fonts.length)) ∧
    ((∀ font options world, clock (backend.invoke font options world).2 = clock world) →
      let done := batch.run backend session
      let answers := (batch.contacts backend session).filterMap Contact.answer?
      ∃ files turns,
        done.1 = .ok ⟨files, false⟩ ∧
        batch.contacts backend session = .scanned batch.root (.ok fonts) :: turns.flatten ∧
        (Tariff.ofTool begun.step).ChargesEach begun fonts answers files turns ∧
        clock done.2.world =
          begun.after (fonts.length + answers.countP fun answer => !answer.isOk)) := by
  intro begun
  constructor
  · intro start child aside done results
    exact run_withChild_charged start child wet sound found tells aside
  · intro aside done answers
    obtain ⟨results, files, turns, result, charges, contacts, recorded, moved⟩ :=
      run_charged backend.watched session.watched wet sound found
        (batch.appliesTo_cut tells aside)
    rw [searched_watched_clock tells] at charges moved
    simp only [searched_watched_contacts, found] at contacts recorded
    obtain rfl : answers = results := recorded
    rw [Tariff.sum_readings_ofTool, charges.length_eq] at moved
    exact ⟨files, turns, (watch_result ..).symm.trans result, contacts, charges,
      (congrArg clock (watch_world ..)).symm.trans moved⟩

/-- A clock that wraps around at its first reading, with a child that comes to its end and two
that do not, and with a tool that breaks off at the second font. -/
theorem run_moves_clock_around :
    let fonts : List Font := [⟨"a.ttf"⟩, ⟨"b.ttf"⟩, ⟨"c.ttf"⟩]
    let batch : Batch := ⟨".", .ofTextFile "chars.txt", false, false⟩
    let backend := Rehearsal.backend (fun _ => .file) (.exactly fonts)
      (.script [.ok Rehearsal.silence, .error (.timeout 5)])
    let session : Session Rehearsal.Stage := ⟨⟨⟨Int64.maxValue, 5⟩, []⟩, []⟩
    let child : Subprocess := ⟨⟨"pyftsubset"⟩, none, some 5⟩
    let start : Subprocess → List Bytes → StateM Rehearsal.Stage ChildResult :=
      fun _ arguments => return (
        if arguments.head? = some (Text.encode "a.ttf") then .ended (some 0) [] []
        else if arguments.head? = some (Text.encode "b.ttf") then .refused "No such file"
        else .overtime)
    let clock := Rehearsal.Stage.clock
    batch.dryRun = false ∧ ¬ batch.IsFatal backend session ∧
      batch.scanResult backend session = .ok fonts ∧ backend.TellsTime clock ∧
      (∀ child arguments world, clock (start child arguments world).2 = clock world) ∧
      (∀ font options world, clock (backend.invoke font options world).2 = clock world) ∧
      (∃ files turns,
        (batch.run (backend.withChild start child) session).1 = .ok ⟨files, false⟩ ∧
        (Tariff.ofChild child 5).ChargesEach (clock session.world) fonts
          (batch.children backend start child session) files turns) ∧
      clock (batch.run (backend.withChild start child) session).2.world =
        ⟨Int64.minValue + 44, 5⟩ ∧
      ∃ files turns, (batch.run backend session).1 = .ok ⟨files, false⟩ ∧
        (Tariff.ofTool 5).ChargesEach (clock session.world) fonts
          ((batch.contacts backend session).filterMap Contact.answer?) files turns := by
  intro fonts batch backend session child start clock
  have wet : batch.dryRun = false := rfl
  have sound : ¬ batch.IsFatal backend session := fun fatal => fatal.2 rfl
  have found : batch.scanResult backend session = .ok fonts := rfl
  have tells := Rehearsal.backend_tellsTime (fun _ => .file) (.exactly fonts)
    (.script [.ok Rehearsal.silence, .error (.timeout 5)])
  have started : ∀ child arguments world, clock (start child arguments world).2 = clock world :=
    fun _ _ _ => rfl
  have called : ∀ font options world, clock (backend.invoke font options world).2 = clock world :=
    fun _ _ _ => rfl
  obtain ⟨byChild, byTool⟩ := run_moves_clock wet sound found tells
  obtain ⟨files, turns, ok, -, charges, moved⟩ := byChild start child started
  obtain ⟨files', turns', ok', -, charges', -⟩ := byTool called
  exact ⟨wet, sound, found, tells, started, called, ⟨files, turns, ok, charges⟩,
    moved.trans (by decide), files', turns', ok', charges'⟩

end Batch
end FontSubset
