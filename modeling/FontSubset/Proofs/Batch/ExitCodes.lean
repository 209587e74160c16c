import FontSubset.Proofs.Batch.Children
/-! Exit codes in a report. A child process and a rehearsed tool call a run a success just when
they give zero as its exit code, and so a font that failed never has a zero beside it. -/
namespace FontSubset
open Text (EndsFirm isBlank)

/-- The tool's word on its success goes with its exit code. -/
def Answer.IsHonest (answer : Answer) : Prop :=
  ∀ completion, answer = .ok completion →
    (completion.isSuccess = true ↔ completion.exitCode = some 0)

/-- The outcome of a font goes with the exit code that the tool answered with, and what it keeps
of the error output with what the tool said. -/
structure Outcome.Agrees (answer : Answer) (outcome : Outcome) : Prop where
  zero : ∀ code, outcome = .succeeded code → code = some 0
  nonzero : ∀ code stderr, outcome = .failed code stderr → code ≠ some 0
  never_zero : outcome.display ≠ "FAILED (exit 0)"
  stderr_size : ∀ code stderr, outcome = .failed code stderr → stderr.utf8ByteSize ≤ 4099
  stderr_firm : ∀ code stderr, outcome = .failed code stderr → EndsFirm stderr.toList
  stderr_empty : ∀ code stderr, outcome = .failed code stderr →
    ∃ completion, answer = .ok completion ∧
      (stderr = "" ↔ ∀ text, completion.stderr = some text → ∀ c ∈ text.toList, isBlank c = true)
  one_way : outcome.isSuccess = !outcome.isFailure

theorem Outcome.display_ne_failed_zero {outcome : Outcome}
    (nonzero : ∀ code stderr, outcome = .failed code stderr → code ≠ some 0) :
    outcome.display ≠ "FAILED (exit 0)" := by
  intro same
  have chars := congrArg String.toList same
  cases outcome with
  | succeeded code => simp [display, label] at chars
  | spawnFailed reason => simp [display, label] at chars
  | timedOut ms => simp [display, label] at chars
  | skipped => simp [display, label] at chars
  | failed code stderr =>
    cases code with
    | none => simp [display, label] at chars
    | some code =>
      have digits : (toString code.toInt).toList ++ [')'] = ['0'] ++ [')'] := by
        simpa [display, label] using chars
      have zero : toString code.toInt = toString (0 : Int) :=
        String.toList_inj.mp (List.append_cancel_right digits)
      apply nonzero _ _ rfl
      rw [Option.some_inj]
      exact Int32.toInt_inj.mp (Int.repr_injective zero)

theorem Answer.IsHonest.agrees {answer : Answer} {outcome : Outcome} (honest : answer.IsHonest)
    (comesTo : answer.ComesTo outcome) : outcome.Agrees answer := by
  have nonzero : ∀ code stderr, outcome = .failed code stderr → code ≠ some 0 := by
    rintro code stderr rfl zero
    cases comesTo with
    | failure h => simp [(honest _ rfl).mpr zero] at h
  have never_zero := Outcome.display_ne_failed_zero nonzero
  cases comesTo with
  | @success completion h =>
    refine ⟨?_, nonzero, never_zero, nofun, nofun, nofun, rfl⟩
    rintro _ ⟨⟩
    exact (honest completion rfl).mp h
  | @failure completion h =>
    refine ⟨nofun, nonzero, never_zero, ?_, ?_, ?_, rfl⟩
    · rintro _ _ ⟨⟩
      exact Text.utf8ByteSize_tail_le _ 4096
    · rintro _ _ ⟨⟩
      rw [Text.toList_tail]
      exact (Text.cutTo_tailChars _ 4096).endsFirm
    · rintro _ _ ⟨⟩
      refine ⟨completion, rfl, Text.tail_eq_empty_iff.trans ?_⟩
      cases completion.stderr <;> simp
  | unstarted reason => exact ⟨nofun, nonzero, never_zero, nofun, nofun, nofun, rfl⟩
  | unread reason => exact ⟨nofun, nonzero, never_zero, nofun, nofun, nofun, rfl⟩
  | late ms => exact ⟨nofun, nonzero, never_zero, nofun, nofun, nofun, rfl⟩

/-! Tools whose word on their success goes with their exit code. -/

theorem Subprocess.isHonest_answer (child : Subprocess) (duration : Int64) (result : ChildResult) :
    (child.answer duration result).IsHonest := by
  cases result with
  | refused reason => exact nofun
  | lost reason => exact nofun
  | overtime => exact nofun
  | ended exitCode stdout stderr =>
    rintro _ ⟨⟩
    exact beq_iff_eq

theorem Rehearsal.isHonest_exit (font : Font) (code : Int32) :
    Answer.IsHonest (.ok (exit font code)) := by
  rintro _ ⟨⟩
  simp [exit]

theorem Rehearsal.Part.isHonest_answer {part : Part} (unscripted : ∀ answers, part ≠ .script answers)
    (font : Font) (calls : Nat) : (part.answer font calls).IsHonest := by
  cases part with
  | succeed => exact isHonest_exit font 0
  | failFor paths code => exact isHonest_exit font _
  | refuse reason => exact nofun
  | overtime ms => exact nofun
  | script answers => exact absurd rfl (unscripted answers)

variable {σ : Type} {backend : Backend σ}

def Backend.RunsChildren (backend : Backend σ) : Prop :=
  ∃ (child : Subprocess) (now : StateM σ Int64)
    (start : Subprocess → List Bytes → StateM σ ChildResult),
    backend.invoke = child.invoke now start

/-- The tool plays a part other than a script of answers. -/
def Backend.PlaysPart (backend : Backend σ) : Prop :=
  ∃ part : Rehearsal.Part, (∀ answers, part ≠ .script answers) ∧
    ∀ font options world, ∃ calls, (backend.invoke font options world).1.1 = part.answer font calls

theorem Rehearsal.backend_playsPart {presence : Path → Presence} {scanner : Scanner} {part : Part}
    (unscripted : ∀ answers, part ≠ .script answers) :
    (Rehearsal.backend presence scanner part).PlaysPart :=
  ⟨part, unscripted, fun _ _ stage => ⟨stage.calls.length, rfl⟩⟩

theorem Backend.isHonest_invoke (tool : backend.RunsChildren ∨ backend.PlaysPart) (font : Font)
    (options : Options) (world : σ) : Answer.IsHonest (backend.invoke font options world).1.1 := by
  rcases tool with ⟨child, now, start, invoke⟩ | ⟨part, unscripted, plays⟩
  · obtain ⟨answered, -⟩ := child.invoke_eq now start font options world rfl
    rw [invoke, answered]
    exact child.isHonest_answer _ _
  · obtain ⟨calls, answered⟩ := plays font options world
    rw [answered]
    exact Rehearsal.Part.isHonest_answer unscripted font calls

/-! The answers of a run. -/

def Contact.answer? : Contact → Option Answer
  | answered answer => some answer
  | scanned .. | time _ | called .. => none

namespace Turn

@[simp] theorem answers_contacts (font : Font) (arguments : List Bytes) (turn : Turn) :
    (turn.contacts font arguments).filterMap Contact.answer? = [turn.answer] := by
  cases turn <;> rfl

theorem answers_flatten {fonts : List Font} {turns : List Turn}
    (length : turns.length = fonts.length) (arguments : Font → List Bytes) :
    (List.zipWith (fun font turn => turn.contacts font (arguments font))
      fonts turns).flatten.filterMap Contact.answer? = turns.map Turn.answer := by
  rw [filterMap_flatten answers_contacts, Action.zipWith_right length Turn.answer]

end Turn

/-- Each answer that was written down is one that the tool gives in some world. -/
def Watched.IsTruthful (backend : Backend σ) (watched : Watched σ) : Prop :=
  ∀ answer, Contact.answered answer ∈ watched.contacts →
    ∃ font options world, answer = (backend.invoke font options world).1.1

theorem Backend.watched_keeps_isTruthful (backend : Backend σ) :
    backend.watched.Keeps (Watched.IsTruthful backend) where
  now := by
    intro watched truthful answer later
    apply truthful
    simpa [Backend.watched, Watched.lift] using later
  presence := by
    intro path watched truthful
    exact truthful
  scan := by
    intro root watched truthful answer later
    apply truthful
    simpa [Backend.watched, Watched.lift] using later
  invoke := by
    intro font options watched truthful answer later
    have later : Contact.answered answer ∈ watched.contacts ∨
        answer = (backend.invoke font options watched.world).1.1 := by
      simpa [Backend.watched, Watched.lift] using later
    rcases later with before | rfl
    · exact truthful answer before
    · exact ⟨font, options, watched.world, rfl⟩

namespace Batch

variable {batch : Batch} {session : Session σ}

theorem answered_of_mem_contacts {answer : Answer}
    (member : Contact.answered answer ∈ batch.contacts backend session) :
    ∃ font options world, answer = (backend.invoke font options world).1.1 := by
  have opening : Watched.IsTruthful backend session.watched.world :=
    fun _ none => absurd none List.not_mem_nil
  exact backend.watched_keeps_isTruthful.run batch session.watched opening answer member

/-- In a report that is not of a dry run, each font's outcome agrees with what the tool answered
about that font, and the answer with its exit code. -/
theorem outcomes_agree_with_exit_codes (wet : batch.dryRun = false)
    (tool : backend.RunsChildren ∨ backend.PlaysPart) {report : Report}
    (ok : (batch.run backend session).1 = .ok report) :
    List.Forall₂ (fun answer file => file.outcome.Agrees answer)
      ((batch.contacts backend session).filterMap Contact.answer?) report.files := by
  obtain ⟨sound, fonts, found⟩ := scanned_of_run_ok ok
  obtain ⟨turns, length, result, contacts⟩ := run_turns wet sound found
  obtain rfl := Except.ok.inj (result.symm.trans ok)
  have answers : (batch.contacts backend session).filterMap Contact.answer? =
      turns.map Turn.answer := by
    rw [contacts, List.filterMap_cons_none rfl, Turn.answers_flatten length]
  have honest : ∀ answer ∈ turns.map Turn.answer, answer.IsHonest := by
    intro answer member
    rw [← answers, List.mem_filterMap] at member
    obtain ⟨contact, member, same⟩ := member
    cases contact with
    | answered other =>
      obtain rfl := Option.some.inj same
      obtain ⟨font, options, world, rfl⟩ := answered_of_mem_contacts member
      exact backend.isHonest_invoke tool font options world
    | scanned | time | called => cases same
  have come := List.forall₂_map_right_iff.mp (Turn.files_outcomes length)
  rw [answers]
  have both := (List.forall₂_and_left _ _).mpr ⟨honest, come⟩
  exact both.imp fun _ _ ⟨honest, come⟩ => honest.agrees come

/-- A child that ends well, one that is killed after bytes that are no text, and one that is
late; and a part that fails with 0. -/
theorem outcomes_agree_with_exit_codes_mixed :
    let fonts : List Font := [⟨"a.ttf"⟩, ⟨"b.ttf"⟩, ⟨"c.ttf"⟩]
    let batch : Batch := ⟨".", .ofTextFile "chars.txt", false, false⟩
    let child : Subprocess := ⟨⟨"cut"⟩, none, some 5⟩
    let start : Subprocess → List Bytes → StateM Nat ChildResult := fun _ _ started =>
      ([.ended (some 0) [] [], .ended none [] [0xFF, 0x0A]].getD started .overtime, started + 1)
    let real : Backend Nat :=
      { now := pure 0, presence := fun _ => pure .file, scan := fun _ => pure (.ok fonts, []),
        invoke := child.invoke (pure 0) start }
    let double := Rehearsal.backend (fun _ => .file) (.exactly fonts) (.failFor ["b.ttf"] 0)
    let session : Session Rehearsal.Stage := ⟨⟨⟨0, 5⟩, []⟩, []⟩
    let told : Report :=
      ⟨[⟨⟨"a.ttf"⟩, .succeeded (some 0), 0⟩, ⟨⟨"b.ttf"⟩, .failed none "\uFFFD", 0⟩,
        ⟨⟨"c.ttf"⟩, .timedOut 5, 0⟩], false⟩
    let rehearsed : Report := ⟨fonts.map fun font => ⟨font, .succeeded (some 0), 1⟩, false⟩
    batch.dryRun = false ∧ real.RunsChildren ∧ double.PlaysPart ∧
      (batch.run real ⟨0, []⟩).1 = .ok told ∧
      (batch.run double session).1 = .ok rehearsed ∧
      List.Forall₂ (fun answer file => file.outcome.Agrees answer)
        ((batch.contacts real ⟨0, []⟩).filterMap Contact.answer?) told.files ∧
      List.Forall₂ (fun answer file => file.outcome.Agrees answer)
        ((batch.contacts double session).filterMap Contact.answer?) rehearsed.files := by
  intro fonts batch child start real double session told rehearsed
  have runs : real.RunsChildren := ⟨child, pure 0, start, rfl⟩
  have plays : double.PlaysPart := Rehearsal.backend_playsPart nofun
  have ok : (batch.run real ⟨0, []⟩).1 = .ok told := by decide +kernel
  have ok' : (batch.run double session).1 = .ok rehearsed := by decide +kernel
  exact ⟨rfl, runs, plays, ok, ok', outcomes_agree_with_exit_codes rfl (.inl runs) ok,
    outcomes_agree_with_exit_codes rfl (.inr plays) ok'⟩

end Batch
end FontSubset
