import FontSubset.Proofs.Batch.Alike
/-! A backend under watch. Each question that a run puts to the clock, the scanner or the
tool is written down when it is put, and each answer when it comes; apart from that the
backend is left as it is. Looks at paths are not written down. -/
namespace FontSubset

/-- An answer of the scanner, a reading of the clock, and the start and the end of a call. -/
inductive Contact
  | scanned (root : Path) (result : Except ScanError (List Font))
  | time (now : Int64)
  | called (font : Font) (arguments : List Bytes)
  | answered (answer : Answer)

def Contact.isOfTool : Contact → Bool
  | called .. | answered _ => true
  | scanned .. | time _ => false

structure Watched (σ : Type) where
  world : σ
  contacts : List Contact

namespace Watched

variable {σ : Type}

def note (watched : Watched σ) (contact : Contact) : Watched σ :=
  { watched with contacts := watched.contacts ++ [contact] }

@[simp] theorem note_world (watched : Watched σ) (contact : Contact) :
    (watched.note contact).world = watched.world := rfl

@[simp] theorem note_contacts (watched : Watched σ) (contact : Contact) :
    (watched.note contact).contacts = watched.contacts ++ [contact] := rfl

/-- A step of the world that is not written down. -/
def lift {α : Type} (step : StateM σ α) : StateM (Watched σ) α := fun watched =>
  ((step watched.world).1, { watched with world := (step watched.world).2 })

end Watched

variable {σ τ : Type}

def Backend.watched (backend : Backend σ) : Backend (Watched σ) where
  now watched :=
    let (now, watched) := Watched.lift backend.now watched
    (now, watched.note (.time now))
  presence path := Watched.lift (backend.presence path)
  scan root watched :=
    let (found, watched) := Watched.lift (backend.scan root) watched
    (found, watched.note (.scanned root found.1))
  invoke font options watched :=
    let (answer, watched) := Watched.lift (backend.invoke font options)
      (watched.note (.called font (options.arguments font)))
    (answer, watched.note (.answered answer.1))

/-- A session in which nothing was written down yet. -/
def Session.watched (session : Session σ) : Session (Watched σ) :=
  ⟨⟨session.world, []⟩, session.log⟩

theorem Backend.watched_alike (backend : Backend σ) :
    backend.Alike (fun world watched => watched.world = world) backend.watched where
  now := by rintro _ watched rfl; exact ⟨rfl, rfl⟩
  presence := by rintro path _ watched rfl; rfl
  scan := by rintro root _ watched rfl; exact ⟨rfl, rfl⟩
  invoke := by rintro font options _ watched rfl; exact ⟨rfl, rfl⟩

/-- Backends that answer alike are asked alike. -/
theorem Backend.Alike.watched {R : σ → τ → Prop} {left : Backend σ} {right : Backend τ}
    (alike : left.Alike R right) :
    left.watched.Alike (fun v w => R v.world w.world ∧ v.contacts = w.contacts)
      right.watched where
  now := by
    rintro v w ⟨worlds, contacts⟩
    obtain ⟨times, worlds⟩ := alike.now _ _ worlds
    refine ⟨times, worlds, ?_⟩
    simp only [Backend.watched, Watched.lift, Watched.note_contacts, contacts, times]
  presence := by
    rintro path v w ⟨worlds, contacts⟩
    exact ⟨alike.presence path _ _ worlds, contacts⟩
  scan := by
    rintro root v w ⟨worlds, contacts⟩
    obtain ⟨results, worlds⟩ := alike.scan root _ _ worlds
    refine ⟨results, worlds, ?_⟩
    simp only [Backend.watched, Watched.lift, Watched.note_contacts, contacts, results]
  invoke := by
    rintro font options v w ⟨worlds, contacts⟩
    obtain ⟨answers, worlds⟩ := alike.invoke font options _ _ worlds
    refine ⟨answers, worlds, ?_⟩
    simp only [Backend.watched, Watched.lift, Watched.note_contacts, Watched.note_world,
      contacts, answers]

namespace Batch

variable (batch : Batch) (backend : Backend σ) (session : Session σ)

def watch : Except RunError Report × Session (Watched σ) :=
  batch.run backend.watched session.watched

/-- What passed between a run and the clock, the scanner and the tool. -/
def contacts : List Contact := (batch.watch backend session).2.world.contacts

theorem watch_result : (batch.watch backend session).1 = (batch.run backend session).1 :=
  (run_related backend.watched_alike session session.watched rfl fun _ => rfl).1.symm

theorem watch_world :
    (batch.watch backend session).2.world.world = (batch.run backend session).2.world :=
  (run_related backend.watched_alike session session.watched rfl fun _ => rfl).2

theorem isFatal_watched :
    batch.IsFatal backend.watched session.watched ↔ batch.IsFatal backend session := Iff.rfl

theorem scanResult_watched :
    batch.scanResult backend.watched session.watched = batch.scanResult backend session := rfl

variable {batch backend session}

theorem contacts_of_isFatal (fatal : batch.IsFatal backend session) :
    batch.contacts backend session = [] := by
  unfold contacts watch
  rw [run_of_isFatal ((isFatal_watched ..).mpr fatal)]
  rfl

theorem searched_watched_contacts :
    (batch.searched backend.watched session.watched).world.contacts =
      [.scanned batch.root (batch.scanResult backend session)] := by
  rw [searched_world]
  rfl

theorem contacts_of_scan_error {cause : ScanError} (sound : ¬ batch.IsFatal backend session)
    (refused : batch.scanResult backend session = .error cause) :
    batch.contacts backend session = [.scanned batch.root (.error cause)] := by
  unfold contacts watch
  rw [run_of_scan_error (mt (isFatal_watched ..).mp sound)
      ((scanResult_watched ..).trans refused), searched_watched_contacts, refused]

end Batch
end FontSubset
