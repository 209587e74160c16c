import FontSubset.Session
/-! Runs without a tool: a scanner that answers from a list, a tool that plays a part
and writes down how it was called, and a clock that steps. -/
namespace FontSubset.Rehearsal

/-- Candidates are seen from the root, and only the fonts among them are found. -/
inductive Scanner
  | candidates (paths : List Path)
  | exactly (fonts : List Font)
  | rootless
  | refuse (cause : ScanError)

def Scanner.scan (root : Path) : Scanner → Except ScanError (List Font)
  | candidates paths => .ok ((paths.filter Font.qualifies).map fun path => ⟨root.join path⟩)
  | exactly fonts => .ok fonts
  | rootless => .error (.rootNotFound root)
  | refuse cause => .error cause

/-- Fails with a code for some paths, or gives answers one by one and then silent success. -/
inductive Part
  | succeed
  | failFor (paths : List Path) (code : Int32)
  | refuse (reason : String)
  | overtime (milliseconds : UInt64)
  | script (answers : List Answer)

def exit (font : Font) (code : Int32) : Completion :=
  ⟨code == 0, some code, 1, none,
    if code == 0 then none else some ("mock failure for " ++ font.display)⟩

def silence : Completion := ⟨true, none, 1, none, none⟩

/-- The answer to a call before which there were `calls` others. -/
def Part.answer (font : Font) (calls : Nat) : Part → Answer
  | succeed => .ok (exit font 0)
  | failFor paths code => .ok (exit font (if paths.any font.path.same then code else 0))
  | refuse reason => .error (.spawnFailed reason)
  | overtime ms => .error (.timeout ms)
  | script answers => answers[calls]?.getD (.ok silence)

structure Call where
  font : Font
  arguments : List Bytes
  deriving DecidableEq, Repr

structure Stage where
  clock : Clock
  calls : List Call
  deriving DecidableEq, Repr

def now : StateM Stage Int64 := fun stage =>
  let (time, clock) := stage.clock.read
  (time, { stage with clock })

def invoke (part : Part) (font : Font) (options : Options) : StateM Stage Answer := fun stage =>
  (part.answer font stage.calls.length,
    { stage with calls := stage.calls ++ [⟨font, options.arguments font⟩] })

def backend (presence : Path → Presence) (scanner : Scanner) (part : Part) : Backend Stage where
  now := now
  presence path := return presence path
  scan root := return (scanner.scan root, [])
  invoke font options := do return (← invoke part font options, [])

end FontSubset.Rehearsal
