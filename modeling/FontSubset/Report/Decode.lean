import FontSubset.Json.Decode
import FontSubset.Report.Encode
/-! Reading options, outcomes and reports back from JSON. Members may come in any
order, unknown ones are passed over, and records may also be written as lists. A
mistake is reported where it stands, before anything that follows it. -/
namespace FontSubset
open Json

def depthLimit : Nat := 128

def enter (depth : Nat) : Decoded Nat := if depth ≤ 1 then .error .malformed else .ok (depth - 1)

def decodeI32 (found : Found) : Decoded Int32 :=
  (found.integer (-2147483648) 2147483647 "i32").map Int32.ofInt

def decodeI64 (found : Found) : Decoded Int64 :=
  (found.integer (-9223372036854775808) 9223372036854775807 "i64").map Int64.ofInt

def decodeU64 (found : Found) : Decoded UInt64 :=
  (found.integer 0 18446744073709551615 "u64").map fun n => UInt64.ofNat n.toNat

def decodePath (draft : Draft) : Decoded Path :=
  (draft.one (Found.string "path string")).map Path.ofString

def Font.decode (draft : Draft) : Decoded Font := (decodePath draft).map Font.mk

/-- Any text: it is not asked whether the command is blank. -/
def Tool.decode (draft : Draft) : Decoded Tool :=
  (draft.one (Found.string "a string")).map Tool.mk

namespace Flavor

def ofName (name : String) : Decoded Flavor :=
  match all.find? (·.name == name) with
  | some flavor => .ok flavor
  | none => .error (.unknownVariant name (all.map Flavor.name))

/-- A flavor is its name, or an object with its name as the only key and null in it. -/
def decode (depth : Nat) (draft : Draft) : Decoded Flavor :=
  match draft with
  | .text content => (orMalformed content).bind ofName
  | .object ((key, value) :: rest) closed => do
    let _ ← enter depth
    let flavor ← (orMalformed key.keyText?).bind ofName
    match value with
    | .null => if rest.isEmpty && closed then .ok flavor else .error .malformed
    | value => value.refuse "unit"
  | _ => .error .malformed

end Flavor

structure OptionFields where
  flavor : Option Flavor
  withZopfli : Option Bool
  textFile : Option Path

def OptionFields.slots (depth : Nat) : List (Slot Draft OptionFields) := [
  ⟨"flavor", (·.flavor.isSome), fun value fields =>
    (Flavor.decode depth value).map fun flavor => { fields with flavor := some flavor }⟩,
  ⟨"with_zopfli", (·.withZopfli.isSome), fun value fields =>
    (value.one Found.boolean).map fun b => { fields with withZopfli := some b }⟩,
  ⟨"text_file", (·.textFile.isSome), fun value fields =>
    (decodePath value).map fun path => { fields with textFile := some path }⟩]

def Options.decode (depth : Nat) (draft : Draft) : Decoded Options :=
  match draft with
  | .object members closed => do
    let depth ← enter depth
    let fields ← fillFromDraft (OptionFields.slots depth) members closed ⟨none, none, none⟩
    let flavor ← required "flavor" fields.flavor
    let withZopfli ← required "with_zopfli" fields.withZopfli
    let textFile ← required "text_file" fields.textFile
    return ⟨flavor, withZopfli, textFile⟩
  | .array items closed => do
    let depth ← enter depth
    let expected := "struct SubsetOptions with 3 elements"
    let flavor ← Flavor.decode depth (← itemAt items closed 0 expected)
    let withZopfli ← (← itemAt items closed 1 expected).one Found.boolean
    let textFile ← decodePath (← itemAt items closed 2 expected)
    endAt items closed 3
    return ⟨flavor, withZopfli, textFile⟩
  | draft => draft.refuse "struct SubsetOptions"

namespace Status

def decode (draft : Draft) : Decoded Status :=
  (draft.one (Found.string "variant identifier")).bind fun name =>
    match ofName? name with
    | some status => .ok status
    | none => .error (.unknownVariant name (all.map Status.name))

end Status

def decodeExitCode : Value → Decoded (Option Int32)
  | .null => .ok none
  | value => (decodeI32 value.found).map some

structure OutcomeFields where
  exitCode : Option (Option Int32)
  stderr : Option String
  reason : Option String
  timeout : Option UInt64

namespace OutcomeFields

def none : OutcomeFields := ⟨.none, .none, .none, .none⟩

def exitCodeSlot : Slot Value OutcomeFields :=
  ⟨"exit_code", (·.exitCode.isSome), fun value fields =>
    (decodeExitCode value).map fun code => { fields with exitCode := some code }⟩

def stderrSlot : Slot Value OutcomeFields :=
  ⟨"stderr", (·.stderr.isSome), fun value fields =>
    (value.found.string "a string").map fun text => { fields with stderr := some text }⟩

def reasonSlot : Slot Value OutcomeFields :=
  ⟨"reason", (·.reason.isSome), fun value fields =>
    (value.found.string "a string").map fun text => { fields with reason := some text }⟩

def timeoutSlot : Slot Value OutcomeFields :=
  ⟨"timeout_ms", (·.timeout.isSome), fun value fields =>
    (decodeU64 value.found).map fun ms => { fields with timeout := some ms }⟩

end OutcomeFields

namespace Status

def slots : Status → List (Slot Value OutcomeFields)
  | succeeded => [OutcomeFields.exitCodeSlot]
  | failed => [OutcomeFields.exitCodeSlot, OutcomeFields.stderrSlot]
  | spawnFailed => [OutcomeFields.reasonSlot]
  | timedOut => [OutcomeFields.timeoutSlot]
  | skipped => []

/-- The outcome of the fields. Only the exit code may be left out. -/
def outcome (fields : OutcomeFields) : Status → Decoded Outcome
  | succeeded => .ok (.succeeded (fields.exitCode.getD none))
  | failed => (required "stderr" fields.stderr).map fun stderr =>
      .failed (fields.exitCode.getD none) stderr
  | spawnFailed => (required "reason" fields.reason).map .spawnFailed
  | timedOut => (required "timeout_ms" fields.timeout).map .timedOut
  | skipped => .ok .skipped

def record : Status → String
  | succeeded => "Succeeded"
  | failed => "Failed"
  | spawnFailed => "SpawnFailed"
  | timedOut => "TimedOut"
  | skipped => "Skipped"

def ofMembers (status : Status) (members : List (String × Value)) : Decoded Outcome :=
  (fillFromValues status.slots members .none).bind status.outcome

def elements (n : Nat) : String := toString n ++ (if n = 1 then " element" else " elements")

/-- Fills the slots from a list, one item each, and counts the items left over. -/
def fillInOrder : List (Slot Value OutcomeFields) → Nat → String → List Value →
    OutcomeFields → Decoded (OutcomeFields × Nat)
  | [], _, _, items, fields => .ok (fields, items.length)
  | _ :: _, place, expected, [], _ => .error (.wrongLength place expected)
  | slot :: slots, place, expected, item :: items, fields =>
    (slot.fill item fields).bind (fillInOrder slots (place + 1) expected items)

def ofItems (status : Status) (items : List Value) : Decoded Outcome := do
  let count := status.slots.length
  let expected := "struct variant InvocationOutcome::" ++ status.record ++ " with " ++ elements count
  let (fields, left) ← fillInOrder status.slots 0 expected items .none
  if left = 0 then status.outcome fields
  else .error (.wrongLength (count + left) (elements count ++ " in sequence"))

end Status

namespace Outcome

def gather (depth : Nat) : List (Draft × Draft) → Option Status → List (String × Value) →
    Decoded (Option Status × List (String × Value))
  | [], status, others => .ok (status, others)
  | (key, value) :: rest, status, others => do
    let name ← orMalformed key.keyText?
    if name = "status" then
      if status.isSome then .error (.duplicateField "status")
      else
        let status ← Status.decode value
        gather depth rest (some status) others
    else
      let value ← orMalformed (value.value? depth)
      gather depth rest status (others ++ [(name, value)])

def decode (depth : Nat) (draft : Draft) : Decoded Outcome :=
  match draft with
  | .object members closed => do
    let depth ← enter depth
    let (status, others) ← gather depth members none []
    if closed then
      let status ← required "status" status
      status.ofMembers others
    else .error .malformed
  | .array items closed => do
    let depth ← enter depth
    match items with
    | [] => .error (if closed then .missingField "status" else .malformed)
    | first :: rest =>
      let status ← Status.decode first
      let rest ← orMalformed (Draft.values? depth rest)
      if closed then status.ofItems rest else .error .malformed
  | draft => draft.refuse "internally tagged enum InvocationOutcome"

end Outcome

structure FileFields where
  font : Option Font
  outcome : Option Outcome
  duration : Option Int64

def FileFields.slots (depth : Nat) : List (Slot Draft FileFields) := [
  ⟨"font", (·.font.isSome), fun value fields =>
    (Font.decode value).map fun font => { fields with font := some font }⟩,
  ⟨"outcome", (·.outcome.isSome), fun value fields =>
    (Outcome.decode depth value).map fun outcome => { fields with outcome := some outcome }⟩,
  ⟨"duration_ms", (·.duration.isSome), fun value fields =>
    (value.one decodeI64).map fun duration => { fields with duration := some duration }⟩]

def FileReport.decode (depth : Nat) (draft : Draft) : Decoded FileReport :=
  match draft with
  | .object members closed => do
    let depth ← enter depth
    let fields ← fillFromDraft (FileFields.slots depth) members closed ⟨none, none, none⟩
    let font ← required "font" fields.font
    let outcome ← required "outcome" fields.outcome
    let duration ← required "duration_ms" fields.duration
    return ⟨font, outcome, duration⟩
  | .array items closed => do
    let depth ← enter depth
    let expected := "struct FileReport with 3 elements"
    let font ← Font.decode (← itemAt items closed 0 expected)
    let outcome ← Outcome.decode depth (← itemAt items closed 1 expected)
    let duration ← (← itemAt items closed 2 expected).one decodeI64
    endAt items closed 3
    return ⟨font, outcome, duration⟩
  | draft => draft.refuse "struct FileReport"

def decodeItems {α : Type} (decode : Draft → Decoded α) : List Draft → Decoded (List α)
  | [] => .ok []
  | item :: rest => do
    let item ← decode item
    let rest ← decodeItems decode rest
    return item :: rest

def decodeFiles (depth : Nat) (draft : Draft) : Decoded (List FileReport) :=
  match draft with
  | .array items closed => do
    let depth ← enter depth
    let files ← decodeItems (FileReport.decode depth) items
    if closed then return files else .error .malformed
  | draft => draft.refuse "a sequence"

structure ReportFields where
  files : Option (List FileReport)
  dryRun : Option Bool

def ReportFields.slots (depth : Nat) : List (Slot Draft ReportFields) := [
  ⟨"files", (·.files.isSome), fun value fields =>
    (decodeFiles depth value).map fun files => { fields with files := some files }⟩,
  ⟨"dry_run", (·.dryRun.isSome), fun value fields =>
    (value.one Found.boolean).map fun b => { fields with dryRun := some b }⟩]

def Report.decode (depth : Nat) (draft : Draft) : Decoded Report :=
  match draft with
  | .object members closed => do
    let depth ← enter depth
    let fields ← fillFromDraft (ReportFields.slots depth) members closed ⟨none, none⟩
    let files ← required "files" fields.files
    let dryRun ← required "dry_run" fields.dryRun
    return ⟨files, dryRun⟩
  | .array items closed => do
    let depth ← enter depth
    let expected := "struct CutReport with 2 elements"
    let files ← decodeFiles depth (← itemAt items closed 0 expected)
    let dryRun ← (← itemAt items closed 1 expected).one Found.boolean
    endAt items closed 2
    return ⟨files, dryRun⟩
  | draft => draft.refuse "struct CutReport"

def decodeText {α : Type} (decode : Draft → Decoded α) (source : String) : Decoded α := do
  let (draft, complete) := Draft.read source
  let value ← decode draft
  if complete then return value else .error .malformed

end FontSubset
