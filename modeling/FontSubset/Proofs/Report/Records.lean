import FontSubset.Proofs.Json.Filling
import FontSubset.Proofs.Report.Reading
/-! The format of reports, told by their members: which fields a record has, of which kind and in
which range. Each field is accepted by its slot alone, and each status by the fields that go
with it. -/
namespace FontSubset
open Json

/-! The format. -/

def IsText (value : Value) : Prop := ∃ s, value = .text s

def IsBoolean (value : Value) : Prop := ∃ b, value = .bool b

def IsIntegerWithin (low high : Int) (value : Value) : Prop :=
  ∃ n, value = .int n ∧ low ≤ n ∧ n ≤ high

def IsExitCode (value : Value) : Prop :=
  value = .null ∨ IsIntegerWithin (-2 ^ 31) (2 ^ 31 - 1) value

/-- An outcome has a status and the fields that go with it. -/
inductive Outcome.IsRecord : Value → Prop
  | succeeded {members : List (String × Value)}
      (status : ExactlyOne members "status" (· = .text "SUCCEEDED"))
      (exitCode : AtMostOne members "exit_code" IsExitCode) : IsRecord (.object members)
  | failed {members : List (String × Value)}
      (status : ExactlyOne members "status" (· = .text "FAILED"))
      (exitCode : AtMostOne members "exit_code" IsExitCode)
      (stderr : ExactlyOne members "stderr" IsText) : IsRecord (.object members)
  | spawnFailed {members : List (String × Value)}
      (status : ExactlyOne members "status" (· = .text "SPAWN_FAILED"))
      (reason : ExactlyOne members "reason" IsText) : IsRecord (.object members)
  | timedOut {members : List (String × Value)}
      (status : ExactlyOne members "status" (· = .text "TIMED_OUT"))
      (timeout : ExactlyOne members "timeout_ms" (IsIntegerWithin 0 (2 ^ 64 - 1))) :
    IsRecord (.object members)
  | skipped {members : List (String × Value)}
      (status : ExactlyOne members "status" (· = .text "SKIPPED")) : IsRecord (.object members)

def FileReport.IsRecord (value : Value) : Prop :=
  ∃ members, value = .object members ∧ ExactlyOne members "font" IsText ∧
    ExactlyOne members "outcome" Outcome.IsRecord ∧
    ExactlyOne members "duration_ms" (IsIntegerWithin (-2 ^ 63) (2 ^ 63 - 1))

def Report.IsRecord (value : Value) : Prop :=
  ∃ members, value = .object members ∧
    ExactlyOne members "files" (fun files =>
      ∃ items, files = .array items ∧ ∀ item ∈ items, FileReport.IsRecord item) ∧
    ExactlyOne members "dry_run" IsBoolean

/-- A line of a report is written as an object, and its outcome too. -/
def FileReport.OfObjects (value : Value) : Prop :=
  ∃ members, value = .object members ∧
    ∀ outcome, ("outcome", outcome) ∈ members → ∃ fields, outcome = .object fields

/-- A report is written as an object, and so are its lines and their outcomes. -/
def Report.OfObjects (value : Value) : Prop :=
  ∃ members, value = .object members ∧
    ∀ items, ("files", .array items) ∈ members → ∀ item ∈ items, FileReport.OfObjects item

/-! Fields of one value. -/

theorem Json.Value.found?_draft (value : Value) : value.draft.found? = some value.found := by
  cases value <;> rfl

theorem Json.Value.one_draft {α : Type} (value : Value) (decode : Found → Decoded α) :
    value.draft.one decode = decode value.found := by
  rw [Draft.one, value.found?_draft]
  rfl

theorem string_eq_ok_iff {expected s : String} {value : Value} :
    value.found.string expected = .ok s ↔ value = .text s := by
  cases value <;> simp [Value.found, Found.string]

theorem string_ok_iff (expected : String) (value : Value) :
    (∃ s, value.found.string expected = .ok s) ↔ IsText value :=
  exists_congr fun _ => string_eq_ok_iff

theorem boolean_ok_iff (value : Value) :
    (∃ b, value.found.boolean = .ok b) ↔ IsBoolean value := by
  cases value <;> simp [IsBoolean, Value.found, Found.boolean]

theorem integer_ok_iff (low high : Int) (expected : String) (value : Value) :
    (∃ n, value.found.integer low high expected = .ok n) ↔ IsIntegerWithin low high value := by
  cases value with
  | number n =>
    cases n with
    | integer n =>
      by_cases within : low ≤ n ∧ n ≤ high
      · exact iff_of_true ⟨n, if_pos within⟩ ⟨n, rfl, within⟩
      · refine iff_of_false ?_ ?_
        · rintro ⟨m, read⟩
          rw [Value.found, Found.integer, if_neg within] at read
          cases read
        · rintro ⟨m, ⟨⟩, within'⟩
          exact within within'
    | real negative x => exact iff_of_false (by rintro ⟨_, ⟨⟩⟩) (by rintro ⟨_, ⟨⟩, -⟩)
  | null | bool | text | array | object =>
    exact iff_of_false (by rintro ⟨_, ⟨⟩⟩) (by rintro ⟨_, ⟨⟩, -⟩)

theorem decodeI32_ok_iff (value : Value) :
    (∃ n, decodeI32 value.found = .ok n) ↔ IsIntegerWithin (-2 ^ 31) (2 ^ 31 - 1) value :=
  map_ok_iff.trans (integer_ok_iff _ _ _ value)

theorem decodeI64_ok_iff (value : Value) :
    (∃ n, decodeI64 value.found = .ok n) ↔ IsIntegerWithin (-2 ^ 63) (2 ^ 63 - 1) value :=
  map_ok_iff.trans (integer_ok_iff _ _ _ value)

theorem decodeU64_ok_iff (value : Value) :
    (∃ n, decodeU64 value.found = .ok n) ↔ IsIntegerWithin 0 (2 ^ 64 - 1) value :=
  map_ok_iff.trans (integer_ok_iff _ _ _ value)

theorem decodeExitCode_ok_iff (value : Value) :
    (∃ code, decodeExitCode value = .ok code) ↔ IsExitCode value := by
  by_cases null : value = .null
  · subst null
    exact iff_of_true ⟨none, rfl⟩ (.inl rfl)
  · have number : decodeExitCode value = (decodeI32 value.found).map some := by
      cases value <;> first | rfl | exact absurd rfl null
    rw [number, map_ok_iff, decodeI32_ok_iff]
    exact (or_iff_right null).symm

theorem Font.decode_ok_iff (value : Value) :
    (∃ font, decode value.draft = .ok font) ↔ IsText value := by
  rw [← string_ok_iff "path string", ← value.one_draft (Found.string "path string")]
  exact map_ok_iff.trans map_ok_iff

theorem Status.ofName?_eq_some_iff {name : String} {status : Status} :
    ofName? name = some status ↔ name = status.name := by
  constructor
  · intro found
    unfold ofName? at found
    have named := List.find?_some found
    exact (beq_iff_eq.mp named).symm
  · rintro rfl
    cases status <;> rfl

theorem Status.decode_eq_ok_iff {value : Value} {status : Status} :
    decode value.draft = .ok status ↔ value = .text status.name := by
  constructor
  · intro h
    rw [decode, value.one_draft] at h
    obtain ⟨name, read, h⟩ := bind_eq_ok.mp h
    split at h
    · rename_i found
      cases h
      rw [string_eq_ok_iff.mp read, ofName?_eq_some_iff.mp found]
    · cases h
  · rintro rfl
    cases status <;> rfl

/-! The slots of the records. -/

theorem OutcomeFields.exitCodeSlot_accepts (value : Value) :
    exitCodeSlot.Accepts value ↔ IsExitCode value :=
  (Slot.accepts_iff (fun _ _ => rfl) .none).trans (decodeExitCode_ok_iff value)

theorem OutcomeFields.stderrSlot_accepts (value : Value) :
    stderrSlot.Accepts value ↔ IsText value :=
  (Slot.accepts_iff (fun _ _ => rfl) .none).trans (string_ok_iff _ value)

theorem OutcomeFields.reasonSlot_accepts (value : Value) :
    reasonSlot.Accepts value ↔ IsText value :=
  (Slot.accepts_iff (fun _ _ => rfl) .none).trans (string_ok_iff _ value)

theorem OutcomeFields.timeoutSlot_accepts (value : Value) :
    timeoutSlot.Accepts value ↔ IsIntegerWithin 0 (2 ^ 64 - 1) value :=
  (Slot.accepts_iff (fun _ _ => rfl) .none).trans (decodeU64_ok_iff value)

theorem OutcomeFields.lawful :
    Lawful [exitCodeSlot, stderrSlot, reasonSlot, timeoutSlot] := by
  refine .of_stores (by decide) fun slot member => ?_
  simp only [List.mem_cons, List.not_mem_nil, or_false] at member
  obtain rfl | rfl | rfl | rfl := member
  · exact ⟨_, _, fun fields code => { fields with exitCode := some code }, fun _ _ => rfl,
      fun _ _ => ⟨rfl, by simp [exitCodeSlot, stderrSlot, reasonSlot, timeoutSlot]⟩⟩
  · exact ⟨_, _, fun fields text => { fields with stderr := some text }, fun _ _ => rfl,
      fun _ _ => ⟨rfl, by simp [exitCodeSlot, stderrSlot, reasonSlot, timeoutSlot]⟩⟩
  · exact ⟨_, _, fun fields text => { fields with reason := some text }, fun _ _ => rfl,
      fun _ _ => ⟨rfl, by simp [exitCodeSlot, stderrSlot, reasonSlot, timeoutSlot]⟩⟩
  · exact ⟨_, _, fun fields ms => { fields with timeout := some ms }, fun _ _ => rfl,
      fun _ _ => ⟨rfl, by simp [exitCodeSlot, stderrSlot, reasonSlot, timeoutSlot]⟩⟩

theorem Status.lawful_slots (status : Status) : Lawful status.slots :=
  OutcomeFields.lawful.of_subset (by cases status <;> simp [slots])
    (by cases status <;> decide)

theorem FileFields.lawful_slots (depth : Nat) : Lawful (slots depth) := by
  refine .of_stores (show ["font", "outcome", "duration_ms"].Nodup by decide) fun slot member => ?_
  simp only [slots, List.mem_cons, List.not_mem_nil, or_false] at member
  obtain rfl | rfl | rfl := member
  · exact ⟨_, _, fun fields font => { fields with font := some font }, fun _ _ => rfl,
      fun _ _ => ⟨rfl, by simp [slots]⟩⟩
  · exact ⟨_, _, fun fields outcome => { fields with outcome := some outcome }, fun _ _ => rfl,
      fun _ _ => ⟨rfl, by simp [slots]⟩⟩
  · exact ⟨_, _, fun fields duration => { fields with duration := some duration }, fun _ _ => rfl,
      fun _ _ => ⟨rfl, by simp [slots]⟩⟩

theorem ReportFields.lawful_slots (depth : Nat) : Lawful (slots depth) := by
  refine .of_stores (show ["files", "dry_run"].Nodup by decide) fun slot member => ?_
  simp only [slots, List.mem_cons, List.not_mem_nil, or_false] at member
  obtain rfl | rfl := member
  · exact ⟨_, _, fun fields files => { fields with files := some files }, fun _ _ => rfl,
      fun _ _ => ⟨rfl, by simp [slots]⟩⟩
  · exact ⟨_, _, fun fields b => { fields with dryRun := some b }, fun _ _ => rfl,
      fun _ _ => ⟨rfl, by simp [slots]⟩⟩

/-! Records of fields. -/

theorem required_ok_iff {α : Type} {name : String} {field : Option α} :
    (∃ a, required name field = .ok a) ↔ field.isSome = true := by
  cases field <;> simp [required]

/-- Only the exit code may be left out. -/
theorem Status.outcome_ok_iff (status : Status) (fields : OutcomeFields) :
    (∃ outcome, status.outcome fields = .ok outcome) ↔
      ∀ slot ∈ status.slots, slot.name ≠ "exit_code" → slot.isFilled fields = true := by
  cases status with
  | succeeded | skipped => exact iff_of_true ⟨_, rfl⟩ (by simp [slots, OutcomeFields.exitCodeSlot])
  | failed | spawnFailed | timedOut =>
    rw [outcome, map_ok_iff, required_ok_iff]
    simp [slots, OutcomeFields.exitCodeSlot, OutcomeFields.stderrSlot, OutcomeFields.reasonSlot,
      OutcomeFields.timeoutSlot]

theorem Status.ofMembers_ok_iff (status : Status) (members : List (String × Value)) :
    (∃ outcome, status.ofMembers members = .ok outcome) ↔
      ∀ slot ∈ status.slots, AtMostOne members slot.name slot.Accepts ∧
        (slot.name ≠ "exit_code" → valuesOf slot.name members ≠ []) := by
  have empty : ∀ slot ∈ status.slots, slot.isFilled .none = false := by
    cases status <;> simp [slots, OutcomeFields.exitCodeSlot, OutcomeFields.stderrSlot,
      OutcomeFields.reasonSlot, OutcomeFields.timeoutSlot, OutcomeFields.none]
  rw [← status.lawful_slots.fillFromValues_needed_iff members empty]
  simp only [ofMembers, exists_bind_eq_ok, status.outcome_ok_iff]

def Status.HasFields (members : List (String × Value)) : Status → Prop
  | succeeded => AtMostOne members "exit_code" IsExitCode
  | failed => AtMostOne members "exit_code" IsExitCode ∧ ExactlyOne members "stderr" IsText
  | spawnFailed => ExactlyOne members "reason" IsText
  | timedOut => ExactlyOne members "timeout_ms" (IsIntegerWithin 0 (2 ^ 64 - 1))
  | skipped => True

theorem Status.ofMembers_ok_iff_hasFields (status : Status) (members : List (String × Value)) :
    (∃ outcome, status.ofMembers members = .ok outcome) ↔ status.HasFields members := by
  have exitCode : AtMostOne members "exit_code" OutcomeFields.exitCodeSlot.Accepts ↔
      AtMostOne members "exit_code" IsExitCode :=
    AtMostOne.congr fun value _ => OutcomeFields.exitCodeSlot_accepts value
  have stderr : ExactlyOne members "stderr" OutcomeFields.stderrSlot.Accepts ↔
      ExactlyOne members "stderr" IsText :=
    ExactlyOne.congr fun value _ => OutcomeFields.stderrSlot_accepts value
  have reason : ExactlyOne members "reason" OutcomeFields.reasonSlot.Accepts ↔
      ExactlyOne members "reason" IsText :=
    ExactlyOne.congr fun value _ => OutcomeFields.reasonSlot_accepts value
  have timeout : ExactlyOne members "timeout_ms" OutcomeFields.timeoutSlot.Accepts ↔
      ExactlyOne members "timeout_ms" (IsIntegerWithin 0 (2 ^ 64 - 1)) :=
    ExactlyOne.congr fun value _ => OutcomeFields.timeoutSlot_accepts value
  have needed (slot : Slot Value OutcomeFields) (other : slot.name ≠ "exit_code") :
      (AtMostOne members slot.name slot.Accepts ∧
        (slot.name ≠ "exit_code" → valuesOf slot.name members ≠ [])) ↔
        ExactlyOne members slot.name slot.Accepts := by
    rw [← atMostOne_and_ne_nil, imp_iff_right other]
  have optional (slot : Slot Value OutcomeFields) (exitCode : slot.name = "exit_code") :
      (AtMostOne members slot.name slot.Accepts ∧
        (slot.name ≠ "exit_code" → valuesOf slot.name members ≠ [])) ↔
        AtMostOne members slot.name slot.Accepts :=
    and_iff_left fun other => absurd exitCode other
  rw [ofMembers_ok_iff]
  cases status with
  | succeeded =>
    rw [slots, List.forall_mem_singleton, optional _ rfl]
    exact exitCode
  | failed =>
    rw [slots, List.forall_mem_cons, List.forall_mem_singleton, optional _ rfl,
      needed OutcomeFields.stderrSlot (by decide)]
    exact and_congr exitCode stderr
  | spawnFailed =>
    rw [slots, List.forall_mem_singleton, needed OutcomeFields.reasonSlot (by decide)]
    exact reason
  | timedOut =>
    rw [slots, List.forall_mem_singleton, needed OutcomeFields.timeoutSlot (by decide)]
    exact timeout
  | skipped => exact iff_of_true (by simp [slots]) trivial

end FontSubset
