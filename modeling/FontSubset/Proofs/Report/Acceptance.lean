import FontSubset.Proofs.Json.Grammar
import FontSubset.Proofs.Report.Records
/-! Which texts are read as reports. Members may stand in any order and unknown ones are passed
over, but every field is there as often as the format says. -/
namespace FontSubset
open Json

/-! An outcome is read in two rounds: the status first, then the other members. -/

namespace Outcome

def others (members : List (String × Value)) : List (String × Value) :=
  members.filter (·.1 != "status")

theorem valuesOf_others {name : String} (h : name ≠ "status") (members : List (String × Value)) :
    valuesOf name (others members) = valuesOf name members := by
  rw [valuesOf, others, List.filter_filter]
  congr 2
  funext member
  by_cases named : member.1 = name <;> simp [named, h]

theorem hasFields_others (status : Status) (members : List (String × Value)) :
    status.HasFields (others members) ↔ status.HasFields members := by
  have exitCode := valuesOf_others (by decide : "exit_code" ≠ "status") members
  have stderr := valuesOf_others (by decide : "stderr" ≠ "status") members
  have reason := valuesOf_others (by decide : "reason" ≠ "status") members
  have timeout := valuesOf_others (by decide : "timeout_ms" ≠ "status") members
  cases status <;>
    simp only [Status.HasFields, AtMostOne, ExactlyOne, exitCode, stderr, reason, timeout]

theorem others_cons_status (value : Value) (rest : List (String × Value)) :
    others (("status", value) :: rest) = others rest := rfl

theorem others_cons_of_ne {name : String} (h : name ≠ "status") (value : Value)
    (rest : List (String × Value)) :
    others ((name, value) :: rest) = (name, value) :: others rest :=
  List.filter_cons_of_pos (by simpa using h)

section

variable {depth : Nat} {before : List (String × Value)}

theorem gather_cons_status (value : Value) (rest : List (String × Value)) :
    gather depth (Value.memberDrafts (("status", value) :: rest)) none before =
      (Status.decode value.draft).bind fun status =>
        gather depth (Value.memberDrafts rest) (some status) before := rfl

theorem gather_cons_second_status (status : Status) (value : Value)
    (rest : List (String × Value)) :
    gather depth (Value.memberDrafts (("status", value) :: rest)) (some status) before =
      .error (.duplicateField "status") := rfl

theorem gather_cons_other {name : String} (h : name ≠ "status") {value : Value}
    (shallow : value.nesting < depth) (rest : List (String × Value)) (found : Option Status) :
    gather depth (Value.memberDrafts ((name, value) :: rest)) found before =
      gather depth (Value.memberDrafts rest) found (before ++ [(name, value)]) := by
  simp only [Value.memberDrafts, gather, Draft.keyText?, orMalformed, Value.value?_draft shallow]
  exact if_neg h

/-- Members are gathered just when one of them, and only one, is a status. -/
theorem gather_ok_iff {members : List (String × Value)}
    (shallow : ∀ member ∈ members, member.2.nesting < depth) {found : Option Status}
    {gathered : List (String × Value)} {status : Status} :
    gather depth (Value.memberDrafts members) found before = .ok (some status, gathered) ↔
      gathered = before ++ others members ∧
        ((found = some status ∧ valuesOf "status" members = []) ∨
          (found = none ∧ ExactlyOne members "status" (· = .text status.name))) := by
  induction members generalizing found before with
  | nil =>
    have none : ¬ExactlyOne [] "status" (· = Value.text status.name) := by
      rintro ⟨_, ⟨⟩, -⟩
    rw [Value.memberDrafts, gather]
    simp [others, valuesOf, none, eq_comm, and_comm]
  | cons member rest ih =>
    obtain ⟨name, value⟩ := member
    obtain ⟨shallowValue, shallowRest⟩ := List.forall_mem_cons.mp shallow
    by_cases named : name = "status"
    · subst named
      rw [valuesOf_cons_self, others_cons_status, exactlyOne_cons_self]
      cases found with
      | some first =>
        rw [gather_cons_second_status]
        exact iff_of_false (by rintro ⟨⟩) (by simp)
      | none =>
        rw [gather_cons_status, bind_eq_ok]
        simp only [ih shallowRest, Status.decode_eq_ok_iff]
        constructor
        · rintro ⟨first, named, gathered, ⟨⟨⟩, alone⟩ | ⟨none, -⟩⟩
          · exact ⟨gathered, .inr ⟨trivial, alone, named⟩⟩
          · cases none
        · rintro ⟨gathered, ⟨none, -⟩ | ⟨-, alone, named⟩⟩
          · cases none
          · exact ⟨status, named, gathered, .inl ⟨rfl, alone⟩⟩
    · rw [gather_cons_other named shallowValue, ih shallowRest, others_cons_of_ne named,
        valuesOf_cons_of_ne named, exactlyOne_cons_of_ne named, List.append_assoc,
        List.singleton_append]

theorem decode_object {members : List (String × Value)} (deep : 1 < depth) :
    decode depth (Value.object members).draft =
      (gather (depth - 1) (Value.memberDrafts members) none []).bind fun gathered =>
        (required "status" gathered.1).bind fun status => status.ofMembers gathered.2 := by
  simp only [Value.draft, decode, enter_of_lt deep]
  rfl

theorem decode_ok_iff {value : Value} (shallow : value.nesting < depth)
    (object : ∃ members, value = .object members) :
    (∃ outcome, decode depth value.draft = .ok outcome) ↔ IsRecord value := by
  obtain ⟨members, rfl⟩ := object
  obtain ⟨deep, inner⟩ := Value.nesting_member_lt shallow
  have read : (∃ outcome, decode depth (Value.object members).draft = .ok outcome) ↔
      ∃ status : Status, ExactlyOne members "status" (· = .text status.name) ∧
        status.HasFields members := by
    simp only [decode_object deep, bind_eq_ok, required_eq_ok]
    constructor
    · rintro ⟨outcome, ⟨_, gathered⟩, taken, status, ⟨⟩, h⟩
      obtain ⟨rfl, ⟨⟨⟩, -⟩ | ⟨-, named⟩⟩ := (gather_ok_iff inner).mp taken
      exact ⟨status, named,
        (hasFields_others status members).mp ((status.ofMembers_ok_iff_hasFields _).mp ⟨_, h⟩)⟩
    · rintro ⟨status, named, fields⟩
      obtain ⟨outcome, h⟩ := (status.ofMembers_ok_iff_hasFields _).mpr
        ((hasFields_others status members).mpr fields)
      exact ⟨outcome, (some status, _), (gather_ok_iff inner).mpr ⟨rfl, .inr ⟨rfl, named⟩⟩,
        status, rfl, h⟩
  rw [read]
  constructor
  · rintro ⟨status, named, fields⟩
    cases status with
    | succeeded => exact .succeeded named fields
    | failed => exact .failed named fields.1 fields.2
    | spawnFailed => exact .spawnFailed named fields
    | timedOut => exact .timedOut named fields
    | skipped => exact .skipped named
  · rintro (⟨named, exitCode⟩ | ⟨named, exitCode, stderr⟩ | ⟨named, reason⟩ | ⟨named, timeout⟩ |
      named)
    · exact ⟨.succeeded, named, exitCode⟩
    · exact ⟨.failed, named, exitCode, stderr⟩
    · exact ⟨.spawnFailed, named, reason⟩
    · exact ⟨.timedOut, named, timeout⟩
    · exact ⟨.skipped, named, trivial⟩

end

end Outcome

namespace FileReport

variable {depth : Nat}

theorem isRecord_object_iff {members : List (String × Value)} :
    IsRecord (.object members) ↔ ExactlyOne members "font" IsText ∧
      ExactlyOne members "outcome" Outcome.IsRecord ∧
      ExactlyOne members "duration_ms" (IsIntegerWithin (-2 ^ 63) (2 ^ 63 - 1)) :=
  ⟨by rintro ⟨_, ⟨⟩, h⟩; exact h, fun h => ⟨members, rfl, h⟩⟩

theorem decode_ok_iff {value : Value} (shallow : value.nesting < depth)
    (objects : OfObjects value) :
    (∃ file, decode depth value.draft = .ok file) ↔ IsRecord value := by
  obtain ⟨members, rfl, outcomes⟩ := objects
  obtain ⟨deep, inner⟩ := Value.nesting_member_lt shallow
  have read : (∃ file, decode depth (Value.object members).draft = .ok file) ↔
      ∀ slot ∈ FileFields.slots (depth - 1),
        ExactlyOne members slot.name fun value => slot.Accepts value.draft := by
    simp only [Value.draft, decode, enter_of_lt deep]
    refine (FileFields.lawful_slots _).finish_ok_iff members (by simp [FileFields.slots]) ?_
    rintro ⟨_ | font, _ | outcome, _ | duration⟩ <;>
      simp [FileFields.slots, required, bind, Except.bind, pure, Except.pure]
  rw [read, FileFields.slots, List.forall_mem_cons, List.forall_mem_cons,
    List.forall_mem_singleton, isRecord_object_iff]
  refine and_congr (ExactlyOne.congr fun value _ => ?_)
    (and_congr (ExactlyOne.congr fun value here => ?_) (ExactlyOne.congr fun value _ => ?_))
  · exact (Slot.accepts_iff (fun _ _ => rfl) ⟨none, none, none⟩).trans (Font.decode_ok_iff value)
  · exact (Slot.accepts_iff (fun _ _ => rfl) ⟨none, none, none⟩).trans
      (Outcome.decode_ok_iff (inner _ here) (outcomes value here))
  · refine (Slot.accepts_iff (fun _ _ => rfl) ⟨none, none, none⟩).trans ?_
    simp only [value.one_draft, decodeI64_ok_iff]

end FileReport

namespace Report

variable {depth : Nat}

theorem isRecord_object_iff {members : List (String × Value)} :
    IsRecord (.object members) ↔
      ExactlyOne members "files" (fun files =>
        ∃ items, files = .array items ∧ ∀ item ∈ items, FileReport.IsRecord item) ∧
      ExactlyOne members "dry_run" IsBoolean :=
  ⟨by rintro ⟨_, ⟨⟩, h⟩; exact h, fun h => ⟨members, rfl, h⟩⟩

theorem decodeFiles_ok_iff {value : Value} (shallow : value.nesting < depth)
    (objects : ∀ items, value = .array items → ∀ item ∈ items, FileReport.OfObjects item) :
    (∃ files, decodeFiles depth value.draft = .ok files) ↔
      ∃ items, value = .array items ∧ ∀ item ∈ items, FileReport.IsRecord item := by
  cases value with
  | array items =>
    obtain ⟨deep, inner⟩ := Value.nesting_item_lt shallow
    have read : (∃ files, decodeFiles depth (Value.array items).draft = .ok files) ↔
        ∃ files, decodeItems (FileReport.decode (depth - 1)) (Value.drafts items) = .ok files := by
      simp only [Value.draft, decodeFiles, enter_of_lt deep]
      constructor
      · rintro ⟨files, h⟩
        obtain ⟨_, ⟨⟩, h⟩ := bind_eq_ok.mp h
        obtain ⟨files, h, -⟩ := bind_eq_ok.mp h
        exact ⟨files, h⟩
      · rintro ⟨files, h⟩
        exact ⟨files, bind_eq_ok.mpr ⟨depth - 1, rfl, bind_eq_ok.mpr ⟨files, h, rfl⟩⟩⟩
    rw [read, decodeItems_ok_iff, Value.drafts_eq_map, List.forall_mem_map]
    have lines (item : Value) (here : item ∈ items) :=
      FileReport.decode_ok_iff (inner item here) (objects items rfl item here)
    constructor
    · exact fun all => ⟨items, rfl, fun item here => (lines item here).mp (all item here)⟩
    · rintro ⟨_, ⟨⟩, all⟩ item here
      exact (lines item here).mpr (all item here)
  | null | bool | number | text | object =>
    exact iff_of_false (by rintro ⟨_, ⟨⟩⟩) (by rintro ⟨_, ⟨⟩, -⟩)

theorem decode_ok_iff {value : Value} (shallow : value.nesting < depth)
    (objects : OfObjects value) :
    (∃ report, decode depth value.draft = .ok report) ↔ IsRecord value := by
  obtain ⟨members, rfl, lines⟩ := objects
  obtain ⟨deep, inner⟩ := Value.nesting_member_lt shallow
  have read : (∃ report, decode depth (Value.object members).draft = .ok report) ↔
      ∀ slot ∈ ReportFields.slots (depth - 1),
        ExactlyOne members slot.name fun value => slot.Accepts value.draft := by
    simp only [Value.draft, decode, enter_of_lt deep]
    refine (ReportFields.lawful_slots _).finish_ok_iff members (by simp [ReportFields.slots]) ?_
    rintro ⟨_ | files, _ | dryRun⟩ <;>
      simp [ReportFields.slots, required, bind, Except.bind, pure, Except.pure]
  rw [read, ReportFields.slots, List.forall_mem_cons, List.forall_mem_singleton,
    isRecord_object_iff]
  refine and_congr (ExactlyOne.congr fun value here => ?_) (ExactlyOne.congr fun value _ => ?_)
  · refine (Slot.accepts_iff (fun _ _ => rfl) ⟨none, none⟩).trans
      (decodeFiles_ok_iff (inner _ here) ?_)
    rintro items rfl
    exact lines items here
  · refine (Slot.accepts_iff (fun _ _ => rfl) ⟨none, none⟩).trans ?_
    simp only [value.one_draft, boolean_ok_iff]

/-- A text that spells a value, not nested too deep and with every record written as an object,
is read as a report just when the value is the record of one. -/
theorem decodeText_ok_iff_isRecord {value : Value} {source : String}
    (spelled : SpellsPadded value source.toList) (shallow : value.nesting < depthLimit)
    (objects : OfObjects value) :
    (∃ report, decodeText (decode depthLimit) source = .ok report) ↔ IsRecord value := by
  rw [← decode_ok_iff shallow objects, decodeText, spelled.read]
  constructor
  · rintro ⟨report, h⟩
    obtain ⟨report, h, -⟩ := bind_eq_ok.mp h
    exact ⟨report, h⟩
  · rintro ⟨report, h⟩
    exact ⟨report, bind_eq_ok.mpr ⟨report, h, rfl⟩⟩

/-- Members in an order of their own, the status last, and members that no record has. -/
theorem decodeText_ok_iff_isRecord_reordered :
    let outcome : Value := .object [("stderr", .text "lost"), ("seen", .array [.int 1, .null]),
      ("status", .text "FAILED")]
    let line : Value := .object [("outcome", outcome), ("duration_ms", .int (-7)),
      ("font", .text "a.ttf")]
    let value : Value := .object [("dry_run", .bool false), ("note", .object [("files", .null)]),
      ("files", .array [line])]
    SpellsPadded value value.write.toList ∧ value.nesting < depthLimit ∧ OfObjects value ∧
      ∃ report, decodeText (decode depthLimit) value.write = .ok report := by
  intro outcome line value
  have plain : value.Plain := by
    have one : (Value.int 1).Plain := .int ⟨by decide, by decide⟩
    have lost : (Value.int (-7)).Plain := .int ⟨by decide, by decide⟩
    have seen : (Value.array [.int 1, .null]).Plain := .array (by simp [one, Value.Plain.null])
    have note : (Value.object [("files", .null)]).Plain := .object (by simp [Value.Plain.null])
    have outcomePlain : outcome.Plain := .object (by simp [Value.Plain.text, seen])
    have linePlain : line.Plain := .object (by simp [Value.Plain.text, outcomePlain, lost])
    have lines : (Value.array [line]).Plain := .array (by simp [linePlain])
    exact .object (by simp [Value.Plain.bool, note, lines])
  have spelled : SpellsPadded value value.write.toList := by
    rw [Value.write, String.toList_ofList]
    exact (Value.spells_compact plain).padded
  have shallow : value.nesting < depthLimit := by decide
  have objects : OfObjects value := by
    refine ⟨_, rfl, fun items here => ?_⟩
    obtain rfl : items = [line] := by simpa [value] using here
    refine List.forall_mem_singleton.mpr ⟨_, rfl, fun other here => ?_⟩
    obtain rfl : other = outcome := by simpa [line] using here
    exact ⟨_, rfl⟩
  have outcomeIs : Outcome.IsRecord outcome :=
    .failed ⟨_, rfl, rfl⟩ (.inl rfl) ⟨_, rfl, _, rfl⟩
  have lineIs : FileReport.IsRecord line :=
    ⟨_, rfl, ⟨_, rfl, _, rfl⟩, ⟨_, rfl, outcomeIs⟩, ⟨_, rfl, _, rfl, by decide, by decide⟩⟩
  have valueIs : IsRecord value :=
    ⟨_, rfl, ⟨_, rfl, _, rfl, List.forall_mem_singleton.mpr lineIs⟩, ⟨_, rfl, _, rfl⟩⟩
  exact ⟨spelled, shallow, objects,
    (decodeText_ok_iff_isRecord spelled shallow objects).mpr valueIs⟩

end Report

end FontSubset
