import FontSubset.Proofs.Batch.Watched
import FontSubset.Rehearsal
/-! The turns of the fonts. A batch that is no dry run calls the tool once for each font,
in order, and waits for each answer; what it reports for a font is what the tool answered
in that font's turn. -/
namespace FontSubset

/-- A turn: when the tool was called and what it came to. A tool that does not run to its
end has the clock read once more. -/
inductive Turn
  | ended (start : Int64) (completion : Completion)
  | broken (start : Int64) (cause : InvokeError) (stop : Int64)

namespace Turn

def answer : Turn → Answer
  | ended _ completion => .ok completion
  | broken _ cause _ => .error cause

def duration : Turn → Int64
  | ended _ completion => completion.duration
  | broken start _ stop => stop - start

def contacts (font : Font) (arguments : List Bytes) : Turn → List Contact
  | ended start completion =>
    [.time start, .called font arguments, .answered (.ok completion)]
  | broken start cause stop =>
    [.time start, .called font arguments, .answered (.error cause), .time stop]

def file (font : Font) (turn : Turn) : FileReport := ⟨font, .ofAnswer turn.answer, turn.duration⟩

theorem contacts_ofTool (font : Font) (arguments : List Bytes) (turn : Turn) :
    (turn.contacts font arguments).filter Contact.isOfTool =
      [.called font arguments, .answered turn.answer] := by
  cases turn <;> rfl

theorem files_fonts {fonts : List Font} {turns : List Turn} (length : turns.length = fonts.length) :
    (List.zipWith file fonts turns).map (·.font) = fonts := by
  rw [List.map_zipWith]
  exact (Action.zipWith_left length id).trans (List.map_id fonts)

/-- What is picked once from each turn is picked from all of them in order. -/
theorem filterMap_flatten {β : Type} {pick : Contact → Option β} {each : Font → Turn → β}
    (picks : ∀ font arguments turn,
      (contacts font arguments turn).filterMap pick = [each font turn])
    (arguments : Font → List Bytes) (fonts : List Font) (turns : List Turn) :
    (List.zipWith (fun font turn => turn.contacts font (arguments font))
      fonts turns).flatten.filterMap pick = List.zipWith each fonts turns := by
  induction fonts generalizing turns with
  | nil => rfl
  | cons font rest ih =>
    cases turns with
    | nil => rfl
    | cons turn turns =>
      simp only [List.zipWith_cons_cons, List.flatten_cons, List.filterMap_append, picks, ih,
        List.singleton_append]

end Turn

/-- What a font is reported with when the tool gave some answer. -/
inductive Answer.ComesTo : Answer → Outcome → Prop
  | success {completion : Completion} (h : completion.isSuccess = true) :
    ComesTo (.ok completion) (.succeeded completion.exitCode)
  | failure {completion : Completion} (h : completion.isSuccess = false) :
    ComesTo (.ok completion)
      (.failed completion.exitCode (Text.tail (completion.stderr.getD "") 4096))
  | unstarted (reason : String) : ComesTo (.error (.spawnFailed reason)) (.spawnFailed reason)
  | unread (reason : String) : ComesTo (.error (.io reason)) (.spawnFailed reason)
  | late (ms : UInt64) : ComesTo (.error (.timeout ms)) (.timedOut ms)

theorem Answer.comesTo_ofAnswer (answer : Answer) : Answer.ComesTo answer (.ofAnswer answer) := by
  match answer with
  | .error (.spawnFailed reason) => exact .unstarted reason
  | .error (.io reason) => exact .unread reason
  | .error (.timeout ms) => exact .late ms
  | .ok completion =>
    show ComesTo (.ok completion) completion.outcome
    unfold Completion.outcome
    split
    · next h => exact .success h
    · next h => exact .failure (Bool.eq_false_iff.mpr h)

theorem Turn.files_outcomes {fonts : List Font} {turns : List Turn}
    (length : turns.length = fonts.length) :
    List.Forall₂ Answer.ComesTo (turns.map Turn.answer)
      ((List.zipWith Turn.file fonts turns).map (·.outcome)) := by
  have outcomes : (List.zipWith Turn.file fonts turns).map (·.outcome) =
      turns.map fun turn => .ofAnswer turn.answer := by
    rw [List.map_zipWith]
    exact Action.zipWith_right length fun turn => Outcome.ofAnswer turn.answer
  rw [outcomes, List.forall₂_map_left_iff, List.forall₂_map_right_iff, List.forall₂_same]
  exact fun turn _ => Answer.comesTo_ofAnswer turn.answer

namespace Batch

variable {σ : Type} (batch : Batch) (backend : Backend σ)

theorem handle_of_wet {batch : Batch} (wet : batch.dryRun = false) (backend : Backend σ) :
    batch.handle backend = batch.cut backend := by
  funext font
  simp [handle, wet]

/-- From one session to the next a font has a turn, and is reported by it. -/
structure Takes (session : Session (Watched σ)) (font : Font) (turn : Turn) (file : FileReport)
    (next : Session (Watched σ)) : Prop where
  file : file = turn.file font
  contacts : next.world.contacts =
    session.world.contacts ++ turn.contacts font (batch.options.arguments font)

theorem cut_takes (font : Font) (session : Session (Watched σ)) :
    ∃ turn, batch.Takes session font turn (batch.cut backend.watched font session).1
      (batch.cut backend.watched font session).2 := by
  let read := backend.now session.world.world
  let call := backend.invoke font batch.options read.2
  cases answered : call.1.1 with
  | ok completion =>
    refine ⟨.ended read.1 completion, ?_⟩
    rw [cut_of_ok answered]
    refine ⟨rfl, ?_⟩
    simp [Backend.watched, Watched.lift, Turn.contacts, read, call, ← answered]
  | error cause =>
    refine ⟨.broken read.1 cause (backend.now call.2).1, ?_⟩
    rw [cut_of_error answered]
    refine ⟨rfl, ?_⟩
    simp [Backend.watched, Watched.lift, Turn.contacts, read, call, ← answered]

theorem mapM_cut_turns (fonts : List Font) (session : Session (Watched σ)) :
    ∃ turns : List Turn,
      turns.length = fonts.length ∧
      (fonts.mapM (batch.cut backend.watched) session).1 = List.zipWith Turn.file fonts turns ∧
      (fonts.mapM (batch.cut backend.watched) session).2.world.contacts =
        session.world.contacts ++ (List.zipWith (fun font turn =>
          turn.contacts font (batch.options.arguments font)) fonts turns).flatten := by
  obtain ⟨turns, runs⟩ := Action.mapM_runs (batch.cut_takes backend) fonts session
  exact ⟨turns, runs.length_eq, runs.values_eq Takes.file, runs.recorded Takes.contacts⟩

theorem report_eq (fonts : List Font) (session : Session σ) :
    batch.report backend fonts session =
      let done := fonts.mapM (batch.handle backend) session
      (⟨done.1, batch.dryRun⟩, ⟨done.2.world,
        done.2.log ++ [.completed (Report.counts ⟨done.1, batch.dryRun⟩)]⟩) := rfl

variable {batch backend} {session : Session σ} {fonts : List Font}

/-- A run of a batch that is no dry run and found some fonts: a turn for each font, in
order, and nothing besides. -/
theorem run_turns (wet : batch.dryRun = false) (sound : ¬ batch.IsFatal backend session)
    (found : batch.scanResult backend session = .ok fonts) :
    ∃ turns : List Turn,
      turns.length = fonts.length ∧
      (batch.run backend session).1 = .ok ⟨List.zipWith Turn.file fonts turns, false⟩ ∧
      batch.contacts backend session = .scanned batch.root (.ok fonts) ::
        (List.zipWith (fun font turn => turn.contacts font (batch.options.arguments font))
          fonts turns).flatten := by
  obtain ⟨turns, length, files, contacts⟩ :=
    batch.mapM_cut_turns backend fonts (batch.searched backend.watched session.watched)
  have run := run_of_scan_ok (mt (isFatal_watched batch backend session).mp sound) found
  refine ⟨turns, length, ?_, ?_⟩
  · rw [← watch_result, watch, run, report_eq, handle_of_wet wet]
    simp only [files, wet]
  · rw [Batch.contacts, watch, run, report_eq, handle_of_wet wet]
    simp only [contacts, searched_watched_contacts, found, List.singleton_append]

/-- The tool is called once for each font the scanner found, in scan order, each call after
the answer to the one before; the run reports every font with what its own call came to. -/
theorem run_calls_each_font_once (wet : batch.dryRun = false)
    (sound : ¬ batch.IsFatal backend session)
    (found : batch.scanResult backend session = .ok fonts) :
    ∃ (files : List FileReport) (answers : List Answer),
      (batch.run backend session).1 = .ok ⟨files, false⟩ ∧
      answers.length = fonts.length ∧
      (batch.contacts backend session).filter Contact.isOfTool =
        (List.zipWith (fun font answer =>
          [.called font ([font.path.bytes, Text.encode ("--flavor=" ++ batch.options.flavor.name)] ++
            (if batch.options.withZopfli then [Text.encode "--with-zopfli"] else []) ++
            [Text.encode "--text-file=" ++ batch.options.textFile.bytes]),
          .answered answer]) fonts answers).flatten ∧
      files.map (·.font) = fonts ∧
      List.Forall₂ Answer.ComesTo answers (files.map (·.outcome)) := by
  obtain ⟨turns, length, result, contacts⟩ := run_turns wet sound found
  refine ⟨_, turns.map Turn.answer, result, by simpa using length, ?_,
    Turn.files_fonts length, Turn.files_outcomes length⟩
  rw [contacts, List.filter_cons_of_neg (by simp [Contact.isOfTool]), List.filter_flatten,
    List.map_zipWith, List.zipWith_map_right]
  congr 2
  funext font turn
  exact turn.contacts_ofTool font _

/-- A font that comes twice and one whose name is no text, with a tool that is late, then
fails, then ends well. -/
theorem run_calls_each_font_once_mixed :
    let batch : Batch := ⟨".", .ofTextFile "chars.txt", false, false⟩
    let fonts : List Font := [⟨"a.ttf"⟩, ⟨⟨[0xFF, 0x2E, 0x74, 0x74, 0x66]⟩⟩, ⟨"a.ttf"⟩]
    let backend := Rehearsal.backend (fun _ => .missing) (.exactly fonts)
      (.script [.error (.timeout 5), .ok ⟨false, some 1, 3, none, some "bad font"⟩])
    let session : Session Rehearsal.Stage := ⟨⟨⟨0, 5⟩, []⟩, []⟩
    batch.dryRun = false ∧ ¬ batch.IsFatal backend session ∧
      batch.scanResult backend session = .ok fonts ∧
      ∃ files answers, (batch.run backend session).1 = .ok ⟨files, false⟩ ∧
        files.map (·.font) = fonts ∧ answers.length = 3 ∧
        List.Forall₂ Answer.ComesTo answers (files.map (·.outcome)) := by
  intro batch fonts backend session
  have sound : ¬ batch.IsFatal backend session := fun fatal => absurd fatal.1 (by decide)
  have found : batch.scanResult backend session = .ok fonts := rfl
  obtain ⟨files, answers, result, length, _, names, outcomes⟩ :=
    run_calls_each_font_once rfl sound found
  exact ⟨rfl, sound, found, files, answers, result, names, length, outcomes⟩

end Batch
end FontSubset
