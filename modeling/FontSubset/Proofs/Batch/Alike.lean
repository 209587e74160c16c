import FontSubset.Proofs.Batch.Steps
/-! Backends that answer alike. If each answer is the same from related worlds and leads
to related worlds again, whole runs end alike; what is logged may differ. -/
namespace FontSubset

variable {σ τ α β γ δ : Type} {R : σ → τ → Prop}

/-- From related worlds, two actions give related results and lead to related worlds. -/
def Action.Related (R : σ → τ → Prop) (V : α → β → Prop) (left : Action σ α)
    (right : Action τ β) : Prop :=
  ∀ s t, R s.world t.world →
    V (left s).1 (right t).1 ∧ R (left s).2.world (right t).2.world

namespace Action.Related

theorem pure {V : α → β → Prop} {a : α} {b : β} (h : V a b) :
    Related R V (Pure.pure a) (Pure.pure b) :=
  fun _ _ related => ⟨h, related⟩

theorem bind {V : α → β → Prop} {W : γ → δ → Prop} {left : Action σ α} {right : Action τ β}
    {next : α → Action σ γ} {next' : β → Action τ δ} (first : Related R V left right)
    (after : ∀ a b, V a b → Related R W (next a) (next' b)) :
    Related R W (left >>= next) (right >>= next') := by
  intro s t related
  obtain ⟨values, worlds⟩ := first s t related
  exact after _ _ values _ _ worlds

theorem say (events events' : List Event) :
    Related R Eq (Action.say events) (Action.say events') :=
  fun _ _ related => ⟨rfl, related⟩

theorem ofWorld {V : α → β → Prop} {left : StateM σ α} {right : StateM τ β}
    (h : ∀ v w, R v w → V (left v).1 (right w).1 ∧ R (left v).2 (right w).2) :
    Related R V (Action.ofWorld left) (Action.ofWorld right) :=
  fun s t related => h s.world t.world related

theorem mapM {left : γ → Action σ α} {right : γ → Action τ α} (items : List γ)
    (each : ∀ item, Related R Eq (left item) (right item)) :
    Related R Eq (items.mapM left) (items.mapM right) := by
  induction items with
  | nil => exact pure rfl
  | cons item rest ih =>
    rw [List.mapM_cons, List.mapM_cons]
    refine bind (each item) ?_
    rintro a _ rfl
    refine bind ih ?_
    rintro as _ rfl
    exact pure rfl

end Action.Related

/-- The clock, the scanner and the tool answer alike from related worlds. A look at a path
keeps worlds related, whatever is seen there. -/
structure Backend.Alike (R : σ → τ → Prop) (left : Backend σ) (right : Backend τ) : Prop where
  now : ∀ v w, R v w → (left.now v).1 = (right.now w).1 ∧ R (left.now v).2 (right.now w).2
  presence : ∀ path v w, R v w → R (left.presence path v).2 (right.presence path w).2
  scan : ∀ root v w, R v w →
    (left.scan root v).1.1 = (right.scan root w).1.1 ∧ R (left.scan root v).2 (right.scan root w).2
  invoke : ∀ font options v w, R v w →
    (left.invoke font options v).1.1 = (right.invoke font options w).1.1 ∧
      R (left.invoke font options v).2 (right.invoke font options w).2

/-- As far as there is no scan, two backends answer alike. -/
structure Backend.ServeAlike (R : σ → τ → Prop) (left : Backend σ) (right : Backend τ) : Prop where
  now : ∀ v w, R v w → (left.now v).1 = (right.now w).1 ∧ R (left.now v).2 (right.now w).2
  presence : ∀ path v w, R v w → R (left.presence path v).2 (right.presence path w).2
  invoke : ∀ font options v w, R v w →
    (left.invoke font options v).1.1 = (right.invoke font options w).1.1 ∧
      R (left.invoke font options v).2 (right.invoke font options w).2

theorem Backend.Alike.serveAlike {left : Backend σ} {right : Backend τ}
    (alike : left.Alike R right) : left.ServeAlike R right :=
  ⟨alike.now, alike.presence, alike.invoke⟩

namespace Batch

open FontSubset.Action (Related)

variable {batch : Batch} {left : Backend σ} {right : Backend τ}

theorem cut_related (alike : left.ServeAlike R right) (font : Font) :
    Related R Eq (batch.cut left font) (batch.cut right font) := by
  unfold cut
  refine .bind (.ofWorld alike.now) ?_
  rintro start _ rfl
  refine .bind (.say _ _) fun _ _ _ => ?_
  refine .bind (V := fun a b => a.1 = b.1) (.ofWorld (alike.invoke font batch.options)) ?_
  rintro ⟨answer, events⟩ ⟨_, events'⟩ rfl
  refine .bind (.say _ _) fun _ _ _ => ?_
  have duration : Related R Eq (duration left start answer) (duration right start answer) := by
    cases answer with
    | ok completion => exact .pure rfl
    | error cause =>
      refine .bind (.ofWorld alike.now) ?_
      rintro stop _ rfl
      exact .pure rfl
  refine .bind duration ?_
  rintro ms _ rfl
  exact .bind (.say _ _) fun _ _ _ => .pure rfl

theorem report_related (alike : left.ServeAlike R right) (fonts : List Font) :
    Related R Eq (batch.report left fonts) (batch.report right fonts) := by
  have each (font : Font) : Related R Eq (batch.handle left font) (batch.handle right font) := by
    unfold handle
    split
    · exact .bind (.say _ _) fun _ _ _ => .pure rfl
    · exact cut_related alike font
  refine .bind (.mapM fonts each) ?_
  rintro files _ rfl
  exact .bind (.say _ _) fun _ _ _ => .pure rfl

/-- Of what stands at the character list's path, a run only goes by whether it is fatal; the
root is all that it scans. -/
theorem run_related_of_scan (alike : left.ServeAlike R right)
    (scan : ∀ v w, R v w →
      (left.scan batch.root v).1.1 = (right.scan batch.root w).1.1 ∧
        R (left.scan batch.root v).2 (right.scan batch.root w).2)
    (s : Session σ) (t : Session τ) (related : R s.world t.world)
    (sights : batch.strict = true →
      batch.textFilePresence left s = batch.textFilePresence right t) :
    (batch.run left s).1 = (batch.run right t).1 ∧
      R (batch.run left s).2.world (batch.run right t).2.world := by
  have looked : R (batch.checked left s).world (batch.checked right t).world :=
    alike.presence _ _ _ related
  have verdicts : batch.IsFatal left s ↔ batch.IsFatal right t :=
    and_congr_right fun strict => by rw [sights strict]
  obtain ⟨answers, worlds⟩ := scan _ _ looked
  by_cases fatal : batch.IsFatal left s
  · rw [run_of_isFatal fatal, run_of_isFatal (verdicts.mp fatal), sights fatal.1]
    exact ⟨rfl, looked⟩
  have sound := mt verdicts.mpr fatal
  have searched : R (batch.searched left s).world (batch.searched right t).world := by
    rw [searched_world, searched_world]
    exact worlds
  cases found : batch.scanResult left s with
  | error cause =>
    rw [run_of_scan_error fatal found, run_of_scan_error sound (answers.symm.trans found)]
    exact ⟨rfl, searched⟩
  | ok fonts =>
    rw [run_of_scan_ok fatal found, run_of_scan_ok sound (answers.symm.trans found)]
    obtain ⟨reports, ends⟩ := report_related alike fonts _ _ searched
    exact ⟨congrArg _ reports, ends⟩

theorem run_related (alike : left.Alike R right) (s : Session σ) (t : Session τ)
    (related : R s.world t.world)
    (sights : batch.strict = true →
      batch.textFilePresence left s = batch.textFilePresence right t) :
    (batch.run left s).1 = (batch.run right t).1 ∧
      R (batch.run left s).2.world (batch.run right t).2.world :=
  run_related_of_scan alike.serveAlike (alike.scan batch.root) s t related sights

end Batch

structure Backend.Keeps (I : σ → Prop) (backend : Backend σ) : Prop where
  now : ∀ world, I world → I (backend.now world).2
  presence : ∀ path world, I world → I (backend.presence path world).2
  scan : ∀ root world, I world → I (backend.scan root world).2
  invoke : ∀ font options world, I world → I (backend.invoke font options world).2

theorem Backend.Keeps.alike {I : σ → Prop} {backend : Backend σ} (keeps : backend.Keeps I) :
    backend.Alike (fun v w => v = w ∧ I v) backend where
  now := by rintro world _ ⟨rfl, h⟩; exact ⟨rfl, rfl, keeps.now world h⟩
  presence := by rintro path world _ ⟨rfl, h⟩; exact ⟨rfl, keeps.presence path world h⟩
  scan := by rintro root world _ ⟨rfl, h⟩; exact ⟨rfl, rfl, keeps.scan root world h⟩
  invoke := by
    rintro font options world _ ⟨rfl, h⟩
    exact ⟨rfl, rfl, keeps.invoke font options world h⟩

/-- What every step keeps, a whole run keeps. -/
theorem Backend.Keeps.run {I : σ → Prop} {backend : Backend σ} (keeps : backend.Keeps I)
    (batch : Batch) (session : Session σ) (h : I session.world) :
    I (batch.run backend session).2.world :=
  (Batch.run_related keeps.alike session session ⟨rfl, h⟩ fun _ => rfl).2.2

end FontSubset
