import FontSubset.Proofs.Json.Writing
import FontSubset.Proofs.Report.Paths
/-! Encoded values have plain numbers and are read back: paths by their texts, integers at
their limits, outcomes by their status. -/
namespace FontSubset
open Json

theorem enter_of_lt {depth : Nat} (h : 1 < depth) : enter depth = .ok (depth - 1) :=
  if_neg (by omega)

theorem decodeI32_toInt (n : Int32) : decodeI32 (.number (.integer n.toInt)) = .ok n := by
  have low := n.le_toInt
  have high := n.toInt_lt
  rw [decodeI32, Found.integer, if_pos (by omega)]
  exact congrArg Except.ok n.ofInt_toInt

theorem decodeI64_toInt (n : Int64) : decodeI64 (.number (.integer n.toInt)) = .ok n := by
  have low := n.le_toInt
  have high := n.toInt_lt
  rw [decodeI64, Found.integer, if_pos (by omega)]
  exact congrArg Except.ok n.ofInt_toInt

theorem decodeU64_toNat (n : UInt64) : decodeU64 (.number (.integer n.toNat)) = .ok n := by
  have high := n.toNat_lt
  rw [decodeU64, Found.integer, if_pos (by omega)]
  exact congrArg Except.ok n.ofNat_toNat

theorem decodeExitCode_encode (code : Option Int32) :
    decodeExitCode (encodeExitCode code) = .ok code := by
  cases code with
  | none => rfl
  | some code => exact congrArg (Except.map some) (decodeI32_toInt code)

namespace Outcome

/-- Members other than the status are gathered in their order. -/
theorem gather_others {depth : Nat} {others : List (String × Value)}
    (names : ∀ member ∈ others, member.1 ≠ "status")
    (values : ∀ member ∈ others, member.2.draft.value? depth = some member.2)
    (status : Option Status) (before : List (String × Value)) :
    gather depth (Value.memberDrafts others) status before = .ok (status, before ++ others) := by
  induction others generalizing before with
  | nil =>
    rw [List.append_nil]
    rfl
  | cons member rest ih =>
    obtain ⟨name, value⟩ := member
    obtain ⟨named, names⟩ := List.forall_mem_cons.mp names
    obtain ⟨whole, values⟩ := List.forall_mem_cons.mp values
    have step : gather depth (Value.memberDrafts ((name, value) :: rest)) status before =
        gather depth (Value.memberDrafts rest) status (before ++ [(name, value)]) := by
      simp only [Value.memberDrafts, gather, Draft.keyText?, orMalformed, whole]
      exact if_neg named
    rw [step, ih names values, List.append_assoc, List.singleton_append]

theorem gather_status (depth : Nat) (status : Status) (rest : List (Draft × Draft))
    (before : List (String × Value)) :
    gather depth ((.text (some "status"), .text (some status.name)) :: rest) none before =
      gather depth rest (some status) before := by
  cases status <;> rfl

/-- An outcome is read by the members that go with its status. -/
theorem decode_tagged {depth : Nat} (deep : 1 < depth) (status : Status)
    {others : List (String × Value)} (names : ∀ member ∈ others, member.1 ≠ "status")
    (values : ∀ member ∈ others, member.2.draft.value? (depth - 1) = some member.2) :
    decode depth (Value.object (status.encode :: others)).draft = status.ofMembers others := by
  simp only [Value.draft, Status.encode, Value.memberDrafts, decode, enter_of_lt deep, bind,
    Except.bind, gather_status, gather_others names values, required, if_true, List.nil_append]

theorem value?_text (depth : Nat) (s : String) :
    (Value.text s).draft.value? depth = some (.text s) := rfl

theorem value?_int (depth : Nat) (n : Int) :
    (Value.int n).draft.value? depth = some (.int n) := rfl

theorem value?_exitCode (depth : Nat) (code : Option Int32) :
    (encodeExitCode code).draft.value? depth = some (encodeExitCode code) := by
  cases code <;> rfl

theorem plain_exitCode (code : Option Int32) : (encodeExitCode code).Plain := by
  cases code with
  | none => exact .null
  | some code =>
    have low := code.le_toInt
    have high := code.toInt_lt
    exact .int ⟨by omega, by omega⟩

theorem plain_encode (outcome : Outcome) : outcome.encode.Plain := by
  cases outcome with
  | succeeded code | failed code =>
    refine .object ?_
    simp [Status.encode, Value.Plain.text, plain_exitCode]
  | spawnFailed | skipped =>
    refine .object ?_
    simp [Status.encode, Value.Plain.text]
  | timedOut ms =>
    have high := ms.toNat_lt
    refine .object (List.forall_mem_cons.mpr ⟨.text _, ?_⟩)
    exact List.forall_mem_singleton.mpr (.int ⟨by omega, by omega⟩)

theorem fill_exitCode (code : Option Int32) :
    OutcomeFields.exitCodeSlot.fill (encodeExitCode code) .none =
      .ok { OutcomeFields.none with exitCode := some code } :=
  congrArg (Except.map _) (decodeExitCode_encode code)

theorem fill_timeout (ms : UInt64) :
    OutcomeFields.timeoutSlot.fill (.int ms.toNat) .none =
      .ok { OutcomeFields.none with timeout := some ms } :=
  congrArg (Except.map _) (decodeU64_toNat ms)

theorem decode_draft {depth : Nat} (deep : 1 < depth) (outcome : Outcome) :
    decode depth outcome.encode.draft = .ok outcome := by
  cases outcome with
  | succeeded code =>
    rw [encode, decode_tagged deep .succeeded (by simp) (by simp [value?_exitCode])]
    rw [Status.ofMembers, fillFromValues, List.map, fillSlots_slot rfl rfl (fill_exitCode code)]
    rfl
  | failed code stderr =>
    rw [encode, decode_tagged deep .failed (by simp) (by simp [value?_exitCode, value?_text])]
    rw [Status.ofMembers, fillFromValues, List.map, fillSlots_slot rfl rfl (fill_exitCode code)]
    rfl
  | spawnFailed reason =>
    rw [encode, decode_tagged deep .spawnFailed (by simp) (by simp [value?_text])]
    rfl
  | timedOut ms =>
    rw [encode, decode_tagged deep .timedOut (by simp) (by simp [value?_int])]
    rw [Status.ofMembers, fillFromValues, List.map, fillSlots_slot rfl rfl (fill_timeout ms)]
    rfl
  | skipped => exact decode_tagged deep .skipped nofun nofun

end Outcome

theorem Font.plain_encode {font : Font} {value : Value} (h : font.encode = .ok value) :
    value.Plain := by
  obtain ⟨text, -, rfl⟩ := Path.encode_eq_ok_iff.mp h
  exact .text text

theorem Font.decode_draft {font : Font} {value : Value} (h : font.encode = .ok value) :
    decode value.draft = .ok font := by
  obtain ⟨text, eq, rfl⟩ := Path.encode_eq_ok_iff.mp h
  cases font
  cases eq
  rfl

theorem Options.plain_encode {options : Options} {value : Value}
    (h : options.encode = .ok value) : value.Plain := by
  obtain ⟨file, path, ⟨⟩⟩ := bind_eq_ok.mp h
  obtain ⟨text, -, rfl⟩ := Path.encode_eq_ok_iff.mp path
  refine .object ?_
  simp [Value.Plain.text, Value.Plain.bool, Flavor.encode]

theorem Options.decode_draft {depth : Nat} (deep : 1 < depth) {options : Options} {value : Value}
    (h : options.encode = .ok value) : decode depth value.draft = .ok options := by
  obtain ⟨file, path, ⟨⟩⟩ := bind_eq_ok.mp h
  obtain ⟨text, eq, rfl⟩ := Path.encode_eq_ok_iff.mp path
  obtain ⟨flavor, zopfli, textFile⟩ := options
  obtain rfl : textFile = .ofString text := eq
  simp only [Value.draft, Value.memberDrafts, decode, enter_of_lt deep]
  cases flavor <;> rfl

theorem FileReport.plain_encode {file : FileReport} {value : Value}
    (h : file.encode = .ok value) : value.Plain := by
  obtain ⟨font, encoded, ⟨⟩⟩ := bind_eq_ok.mp h
  have low := file.duration.le_toInt
  have high := file.duration.toInt_lt
  refine .object (List.forall_mem_cons.mpr ⟨Font.plain_encode encoded, ?_⟩)
  refine List.forall_mem_cons.mpr ⟨file.outcome.plain_encode, ?_⟩
  exact List.forall_mem_singleton.mpr (.int ⟨by omega, by omega⟩)

/-- The fields of a line, in the order in which they are written. -/
theorem FileFields.fill_encoded {depth : Nat} (deep : 1 < depth) {file : FileReport}
    {font : Value} (encoded : file.font.encode = .ok font) :
    fillFromDraft (slots depth)
        (Value.memberDrafts [("font", font), ("outcome", file.outcome.encode),
          ("duration_ms", .int file.duration.toInt)]) true ⟨none, none, none⟩ =
      .ok ⟨some file.font, some file.outcome, some file.duration⟩ := by
  have fillFont := congrArg (Except.map fun font => FileFields.mk (some font) none none)
    (Font.decode_draft encoded)
  have fillOutcome := congrArg
    (Except.map fun outcome => FileFields.mk (some file.font) (some outcome) none)
    (Outcome.decode_draft deep file.outcome)
  have fillDuration := congrArg
    (Except.map fun duration => FileFields.mk (some file.font) (some file.outcome) (some duration))
    (decodeI64_toInt file.duration)
  simp only [fillFromDraft, Value.memberDrafts, List.map, Draft.keyText?]
  rw [fillSlots_slot rfl rfl fillFont, fillSlots_slot rfl rfl fillOutcome,
    fillSlots_slot rfl rfl fillDuration]
  rfl

theorem FileReport.decode_draft {depth : Nat} (deep : 2 < depth) {file : FileReport}
    {value : Value} (h : file.encode = .ok value) : decode depth value.draft = .ok file := by
  obtain ⟨font, encoded, ⟨⟩⟩ := bind_eq_ok.mp h
  have inner : 1 < depth - 1 := by omega
  simp only [Value.draft, decode, enter_of_lt (by omega : 1 < depth), bind, Except.bind,
    FileFields.fill_encoded inner encoded, required]
  rfl

theorem encodeFiles_plain {files : List FileReport} {values : List Value}
    (h : encodeFiles files = .ok values) : ∀ value ∈ values, value.Plain := by
  have each := (encodeFiles_eq_ok_iff.mp h).flip.imp fun _ _ h =>
    And.intro (FileReport.plain_encode h) h
  exact ((List.forall₂_and_left _ _).mp each).1

theorem decodeFiles_draft {depth : Nat} (deep : 3 < depth) {files : List FileReport}
    {values : List Value} (h : encodeFiles files = .ok values) :
    decodeFiles depth (Value.array values).draft = .ok files := by
  have inner : 2 < depth - 1 := by omega
  have items : decodeItems (FileReport.decode (depth - 1)) (Value.drafts values) = .ok files := by
    rw [Value.drafts_eq_map, decodeItems_eq_ok_iff, List.forall₂_map_left_iff]
    exact (encodeFiles_eq_ok_iff.mp h).flip.imp fun _ _ => FileReport.decode_draft inner
  simp only [Value.draft, decodeFiles, enter_of_lt (by omega : 1 < depth), bind, Except.bind,
    items]
  rfl

theorem Report.plain_encode {report : Report} {value : Value} (h : report.encode = .ok value) :
    value.Plain := by
  obtain ⟨values, encoded, ⟨⟩⟩ := bind_eq_ok.mp h
  refine .object (List.forall_mem_cons.mpr ⟨.array (encodeFiles_plain encoded), ?_⟩)
  exact List.forall_mem_singleton.mpr (.bool report.dryRun)

theorem Report.decode_draft {depth : Nat} (deep : 4 < depth) {report : Report} {value : Value}
    (h : report.encode = .ok value) : decode depth value.draft = .ok report := by
  obtain ⟨values, encoded, ⟨⟩⟩ := bind_eq_ok.mp h
  have inner : 3 < depth - 1 := by omega
  have fillFiles := congrArg (Except.map fun files => ReportFields.mk (some files) none)
    (decodeFiles_draft inner encoded)
  have filled : fillFromDraft (ReportFields.slots (depth - 1))
      (Value.memberDrafts [("files", .array values), ("dry_run", .bool report.dryRun)]) true
      ⟨none, none⟩ = .ok ⟨some report.files, some report.dryRun⟩ := by
    simp only [fillFromDraft, Value.memberDrafts, List.map, Draft.keyText?]
    rw [fillSlots_slot rfl rfl fillFiles]
    rfl
  simp only [Value.draft, decode, enter_of_lt (by omega : 1 < depth), bind, Except.bind, filled,
    required]
  rfl

end FontSubset
