import FontSubset.Event
/-! What a run acts on. A backend tells the time, looks at files, scans for fonts and
invokes the tool, each with its own effect on a world; the run adds a log to it. -/
namespace FontSubset

/-- A clock that moves by a fixed step each time it is read. Milliseconds are words of 64 bits
and wrap around. -/
structure Clock where
  now : Int64
  step : Int64
  deriving DecidableEq, Repr

def Clock.read (clock : Clock) : Int64 × Clock :=
  (clock.now, { clock with now := clock.now + clock.step })

/-- The world's side of a run. Each of the four may change the world. -/
structure Backend (σ : Type) where
  now : StateM σ Int64
  presence : Path → StateM σ Presence
  scan : Path → StateM σ (Except ScanError (List Font) × List ScanEvent)
  invoke : Font → Options → StateM σ (Answer × List ToolEvent)

structure Session (σ : Type) where
  world : σ
  log : List Event

abbrev Action (σ : Type) := StateM (Session σ)

namespace Action

variable {σ α : Type}

def ofWorld (step : StateM σ α) : Action σ α := fun session =>
  let (result, world) := step session.world
  (result, { session with world })

def say (events : List Event) : Action σ Unit :=
  modify fun session => { session with log := session.log ++ events }

end Action
end FontSubset
