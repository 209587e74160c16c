import FontSubset.CommandLine.Reader
import FontSubset.Proofs.Json.Decoding
import FontSubset.Proofs.Text.Utf8
/-! What the words of a command line give: settings with their values, switches, and roots. A
command line that is read to its end gives something, and the reader comes to what it gives, one
after the other, however it was spelled. -/
namespace FontSubset

namespace CommandLine

inductive Given
  | value (setting : Setting) (bytes : Bytes)
  | switch (switch : Switch)
  deriving DecidableEq, Repr

/-- A word that is no option. A dash alone is none. -/
def IsPlain (word : Bytes) : Prop := ∀ c rest, word ≠ Reader.dash :: c :: rest

/-- The words of a command line, and what they give. Two dashes end the options. -/
inductive Gives : List Bytes → List Given → Prop
  | nil : Gives [] []
  | attached {setting : Setting} {value : Bytes} {words : List Bytes} {given : List Given}
    (named : setting ≠ .root) (rest : Gives words given) :
    Gives ((Text.encode setting.option ++ 0x3D :: value) :: words) (.value setting value :: given)
  | separate {setting : Setting} {value : Bytes} {words : List Bytes} {given : List Given}
    (named : setting ≠ .root) (plain : IsPlain value) (rest : Gives words given) :
    Gives (Text.encode setting.option :: value :: words) (.value setting value :: given)
  | switch {switch : Switch} {words : List Bytes} {given : List Given}
    (rest : Gives words given) :
    Gives (Text.encode switch.display :: words) (.switch switch :: given)
  | root {word : Bytes} {words : List Bytes} {given : List Given}
    (plain : IsPlain word) (rest : Gives words given) :
    Gives (word :: words) (.value .root word :: given)
  | ended (roots : List Bytes) :
    Gives (Text.encode "--" :: roots) (roots.map (.value .root))

def Selection.give (selection : Selection) : Given → Except Interruption Selection
  | .value setting bytes => Reader.orRefuse (selection.takeOnce setting bytes)
  | .switch switch => selection.turnOn switch

theorem Setting.encode_option (setting : Setting) :
    Text.encode setting.option = Reader.dash :: Reader.dash :: Text.encode setting.name :=
  Text.encode_append "--" setting.name

theorem Switch.encode_display (switch : Switch) :
    Text.encode switch.display = Reader.dash :: Reader.dash :: Text.encode switch.name :=
  Text.encode_append "--" switch.name

theorem Setting.named?_eq_some_iff {name : String} {setting : Setting} :
    named? name = some setting ↔ setting ≠ .root ∧ name = setting.name := by
  constructor
  · intro found
    unfold named? at found
    have listed := List.mem_of_find?_eq_some found
    have same : setting.name = name := by simpa using List.find?_some found
    refine ⟨?_, same.symm⟩
    rintro rfl
    exact absurd listed (by decide)
  · rintro ⟨named, rfl⟩
    cases setting with
    | root => exact absurd rfl named
    | _ => rfl

theorem Switch.named?_eq_some_iff {name : String} {switch : Switch} :
    named? name = some switch ↔ name = switch.name := by
  constructor
  · intro found
    unfold named? at found
    have same := List.find?_some found
    exact (eq_of_beq same).symm
  · rintro rfl
    cases switch <;> rfl

theorem Setting.named?_switch (switch : Switch) : Setting.named? switch.name = none := by
  cases switch <;> rfl

namespace Reader

theorem ne_sign_of_bare {name : Bytes} (bare : 0x3D ∉ name) :
    ∀ b ∈ name, decide (b ≠ 0x3D) = true := by
  intro b member
  exact decide_eq_true (ne_of_mem_of_not_mem member bare)

theorem atEquals_of_notMem {name : Bytes} (bare : 0x3D ∉ name) : atEquals name = (name, none) := by
  have all := ne_sign_of_bare bare
  unfold atEquals
  rw [List.takeWhile_eq_self_iff.mpr all, List.dropWhile_eq_nil_iff.mpr all]
  rfl

theorem atEquals_append {name : Bytes} (bare : 0x3D ∉ name) (value : Bytes) :
    atEquals (name ++ 0x3D :: value) = (name, some value) := by
  have all := ne_sign_of_bare bare
  unfold atEquals
  rw [List.takeWhile_append_of_pos all, List.dropWhile_append_of_pos all]
  simp

theorem atEquals_joined (bytes : Bytes) :
    (atEquals bytes).1 ++ ((atEquals bytes).2.map (0x3D :: ·)).getD [] = bytes := by
  conv_rhs => rw [← List.takeWhile_append_dropWhile (p := (· ≠ (0x3D : UInt8))) (l := bytes)]
  unfold atEquals
  cases rest : bytes.dropWhile (· ≠ (0x3D : UInt8)) with
  | nil => rfl
  | cons b more =>
    have stops := List.head?_dropWhile_not (fun b : UInt8 => decide (b ≠ 0x3D)) bytes
    rw [rest] at stops
    have sign : b = 0x3D := by simpa using stops
    rw [sign]
    rfl

/-- No setting waits for its value. -/
def IsFree (reader : Reader) : Prop := ∀ setting, reader.pending ≠ some (setting, none)

/-- What a reader was given, the value that is still to be looked at included. -/
def taken (reader : Reader) : Except Interruption Selection := reader.settle.map (·.selection)

variable {reader after settled : Reader} {word value : Bytes} {setting : Setting}

theorem start_isFree : start.IsFree := fun _ => nofun

theorem orRefuse_eq_ok_iff {α : Type} {result : Except UsageError α} {a : α} :
    orRefuse result = .ok a ↔ result = .ok a := by
  cases result <;> simp [orRefuse, refuse]

theorem free_of_settle (h : reader.settle = .ok settled) : reader.IsFree := by
  intro setting waits
  simp [settle, waits, refuse] at h

theorem settle_eq_ok (h : reader.settle = .ok settled) :
    settled = { reader with selection := settled.selection, pending := none } := by
  obtain ⟨selection, pending, rootSeen, ended⟩ := reader
  cases pending with
  | none => cases h; rfl
  | some waiting =>
    obtain ⟨setting, _ | value⟩ := waiting
    · cases h
    · obtain ⟨selection, -, h⟩ := bind_eq_ok.mp h
      cases h
      rfl

theorem taken_of_settle (h : reader.settle = .ok settled) : reader.taken = .ok settled.selection := by
  rw [taken, h]
  rfl

theorem taken_of_pending_none (h : reader.pending = none) : reader.taken = .ok reader.selection := by
  simp [taken, settle, h, Except.map]

theorem taken_of_value (h : reader.pending = some (setting, some value)) :
    reader.taken = reader.selection.give (.value setting value) := by
  simp only [taken, settle, h, Selection.give]
  cases orRefuse (reader.selection.takeOnce setting value) <;> rfl

/-- A reader was given one thing more. No setting waits for its value before or after. -/
structure Adds (reader after : Reader) (given : Given) : Prop where
  before : reader.IsFree
  free : after.IsFree
  ended : after.ended = reader.ended
  taken : after.taken = reader.taken.bind (·.give given)

theorem adds_of_root (h : reader.root word = .ok after) : reader.Adds after (.value .root word) := by
  unfold root at h
  split at h
  · cases h
  obtain ⟨settled, settles, h⟩ := bind_eq_ok.mp h
  cases h
  refine ⟨free_of_settle settles, nofun, ?_, ?_⟩
  · rw [settle_eq_ok settles]
  · rw [taken_of_settle settles]
    exact taken_of_value rfl

/-- Something is given to a reader for which no value waits any more. -/
theorem adds_of_give {selection : Selection} {item : Given} (settles : reader.settle = .ok settled)
    (gave : settled.selection.give item = .ok selection) :
    reader.Adds { settled with selection } item := by
  rw [settle_eq_ok settles]
  refine ⟨free_of_settle settles, nofun, rfl, ?_⟩
  rw [taken_of_settle settles, taken_of_pending_none rfl]
  exact gave.symm

theorem adds_of_switchOn {switch : Switch} (h : reader.switchOn switch = .ok after) :
    reader.Adds after (.switch switch) := by
  obtain ⟨settled, settles, h⟩ := bind_eq_ok.mp h
  obtain ⟨selection, turned, h⟩ := bind_eq_ok.mp h
  cases h
  exact adds_of_give settles turned

theorem short_ne_ok (letters : Bytes) : reader.short letters ≠ .ok after := by
  intro h
  unfold short at h
  split at h
  · obtain ⟨settled, -, h⟩ := bind_eq_ok.mp h
    cases h
  · obtain ⟨settled, -, h⟩ := bind_eq_ok.mp h
    cases h
  · cases h
  · cases h

/-- What a word of two dashes and more has to be. -/
theorem known_of_long {name : Bytes} {value? : Option Bytes}
    (h : reader.long name value? = .ok after) :
    (∃ setting ≠ Setting.root, name = Text.encode setting.name) ∨
      ∃ switch : Switch, name = Text.encode switch.name ∧ value? = none := by
  unfold long at h
  cases read : Text.decode? name with
  | none =>
    rw [read] at h
    cases h
  | some text =>
    rw [Text.decode?_eq_some_iff.mp read]
    simp only [read, Option.bind_some] at h
    cases ofSetting : Setting.named? text with
    | some setting =>
      obtain ⟨named, rfl⟩ := Setting.named?_eq_some_iff.mp ofSetting
      exact .inl ⟨setting, named, rfl⟩
    | none =>
      cases ofSwitch : Switch.named? text with
      | some switch =>
        rw [ofSetting, ofSwitch] at h
        cases value? with
        | some value => cases h
        | none => exact .inr ⟨switch, by rw [Switch.named?_eq_some_iff.mp ofSwitch], rfl⟩
      | none =>
        rw [ofSetting, ofSwitch] at h
        cases h

variable (isOpen : reader.ended = false)
include isOpen

theorem next_of_isPlain (plain : IsPlain word) : reader.next word = reader.plain word := by
  unfold next
  rw [isOpen]
  match word with
  | [] => rfl
  | [b] => rfl
  | b :: c :: rest =>
    have other : b ≠ dash := by
      rintro rfl
      exact plain c rest rfl
    exact if_pos other

theorem next_of_long {word : Bytes} (nonempty : word ≠ []) :
    reader.next (dash :: dash :: word) = reader.long (atEquals word).1 (atEquals word).2 := by
  simp only [next, isOpen, Bool.false_eq_true, if_false, ne_eq, not_true_eq_false, nonempty]

theorem next_of_short {c : UInt8} {rest : Bytes} (single : c ≠ dash) :
    reader.next (dash :: c :: rest) = reader.short (c :: rest) := by
  simp only [next, isOpen, Bool.false_eq_true, if_false, ne_eq, not_true_eq_false, single,
    not_false_eq_true, if_true]

theorem next_of_dashes : reader.next (Text.encode "--") = .ok { reader with ended := true } := by
  simp only [next, isOpen]
  rfl

theorem next_of_attached :
    reader.next (Text.encode setting.option ++ 0x3D :: value) =
      reader.long (Text.encode setting.name) (some value) := by
  have bare : 0x3D ∉ Text.encode setting.name := by cases setting <;> decide
  rw [Setting.encode_option, List.cons_append, List.cons_append, next_of_long isOpen (by simp),
    atEquals_append bare]

theorem next_of_option :
    reader.next (Text.encode setting.option) = reader.long (Text.encode setting.name) none := by
  have bare : 0x3D ∉ Text.encode setting.name := by cases setting <;> decide
  have nonempty : Text.encode setting.name ≠ [] := by cases setting <;> decide
  rw [Setting.encode_option, next_of_long isOpen nonempty, atEquals_of_notMem bare]

theorem next_of_switch {switch : Switch} :
    reader.next (Text.encode switch.display) = reader.switchOn switch := by
  have bare : 0x3D ∉ Text.encode switch.name := by cases switch <;> decide
  have nonempty : Text.encode switch.name ≠ [] := by cases switch <;> decide
  have known : Switch.named? switch.name = some switch := Switch.named?_eq_some_iff.mpr rfl
  rw [Switch.encode_display, next_of_long isOpen nonempty, atEquals_of_notMem bare]
  simp only [long, Text.decode?_encode, Option.bind_some, Setting.named?_switch, known]

theorem adds_of_isPlain (free : reader.IsFree) (plain : IsPlain word)
    (h : reader.next word = .ok after) : reader.Adds after (.value .root word) := by
  rw [next_of_isPlain isOpen plain, Reader.plain] at h
  split at h
  · exact absurd ‹_› (free _)
  · exact adds_of_root h

theorem adds_of_attached (named : setting ≠ .root)
    (h : reader.next (Text.encode setting.option ++ 0x3D :: value) = .ok after) :
    reader.Adds after (.value setting value) := by
  have known : Setting.named? setting.name = some setting :=
    Setting.named?_eq_some_iff.mpr ⟨named, rfl⟩
  rw [next_of_attached isOpen] at h
  simp only [long, Text.decode?_encode, Option.bind_some, known] at h
  obtain ⟨settled, settles, h⟩ := bind_eq_ok.mp h
  obtain ⟨selection, took, h⟩ := bind_eq_ok.mp h
  cases h
  exact adds_of_give settles took

/-- After the name of a setting its value is waited for. -/
theorem waits_of_option (named : setting ≠ .root)
    (h : reader.next (Text.encode setting.option) = .ok after) :
    reader.IsFree ∧ after.pending = some (setting, none) ∧ after.ended = false ∧
      reader.taken = .ok after.selection := by
  have known : Setting.named? setting.name = some setting :=
    Setting.named?_eq_some_iff.mpr ⟨named, rfl⟩
  rw [next_of_option isOpen] at h
  simp only [long, Text.decode?_encode, Option.bind_some, known] at h
  obtain ⟨settled, settles, h⟩ := bind_eq_ok.mp h
  cases h
  refine ⟨free_of_settle settles, rfl, ?_, (taken_of_settle settles :)⟩
  rw [settle_eq_ok settles]
  exact isOpen

theorem adds_of_separate {middle : Reader} (named : setting ≠ .root) (plain : IsPlain value)
    (first : reader.next (Text.encode setting.option) = .ok middle)
    (second : middle.next value = .ok after) : reader.Adds after (.value setting value) := by
  obtain ⟨before, waits, stillOpen, taken⟩ := waits_of_option isOpen named first
  rw [next_of_isPlain stillOpen plain, Reader.plain, waits] at second
  cases second
  refine ⟨before, nofun, stillOpen.trans isOpen.symm, ?_⟩
  rw [taken]
  exact taken_of_value rfl

/-- A word that is read is plain, or two dashes, or an option of one of three kinds. -/
theorem kinds_of_next (h : reader.next word = .ok after) :
    IsPlain word ∨ word = Text.encode "--" ∨
      (∃ setting ≠ Setting.root, word = Text.encode setting.option ∨
        ∃ value, word = Text.encode setting.option ++ 0x3D :: value) ∨
      ∃ switch : Switch, word = Text.encode switch.display := by
  by_cases plain : IsPlain word
  · exact .inl plain
  simp only [IsPlain, not_forall, not_not] at plain
  obtain ⟨c, rest, rfl⟩ := plain
  by_cases single : c ≠ dash
  · rw [next_of_short isOpen single] at h
    exact absurd h (short_ne_ok _)
  rw [not_not.mp single] at h ⊢
  by_cases bare : rest = []
  · rw [bare]
    exact .inr (.inl rfl)
  rw [next_of_long isOpen bare] at h
  have parts := atEquals_joined rest
  obtain ⟨setting, named, name⟩ | ⟨switch, name, unvalued⟩ := known_of_long h
  · refine .inr (.inr (.inl ⟨setting, named, ?_⟩))
    rw [Setting.encode_option, ← name]
    cases value : (atEquals rest).2 with
    | none =>
      rw [value] at parts
      exact .inl (congrArg (dash :: dash :: ·) (parts.symm.trans (List.append_nil _)))
    | some value =>
      rw [value] at parts
      exact .inr ⟨_, congrArg (dash :: dash :: ·) parts.symm⟩
  · refine .inr (.inr (.inr ⟨switch, ?_⟩))
    rw [name, unvalued] at parts
    rw [Switch.encode_display]
    exact congrArg (dash :: dash :: ·) (parts.symm.trans (List.append_nil _))

omit isOpen

/-- When the options have ended no setting waits, as it would find no value any more. -/
theorem free_of_ended {words : List Bytes} (isEnded : reader.ended = true)
    (run : words.foldlM next reader = .ok after) (settles : after.settle = .ok settled) :
    reader.IsFree := by
  cases words with
  | nil =>
    cases run
    exact free_of_settle settles
  | cons word rest =>
    obtain ⟨middle, step, -⟩ := bind_eq_ok.mp run
    simp only [next, isEnded, if_true] at step
    exact (adds_of_root step).before

theorem taken_of_ended (reader : Reader) : taken { reader with ended := true } = reader.taken := by
  unfold taken settle
  rcases reader.pending with _ | ⟨setting, _ | value⟩
  · rfl
  · rfl
  · dsimp only
    cases orRefuse (reader.selection.takeOnce setting value) <;> rfl

theorem Adds.run {middle : Reader} {item : Given} {given : List Given}
    (adds : reader.Adds middle item)
    (h : after.taken = middle.taken.bind (given.foldlM Selection.give)) :
    after.taken = reader.taken.bind ((item :: given).foldlM Selection.give) := by
  rw [h, adds.taken]
  exact bind_assoc reader.taken _ _

/-- Behind the words that end the options, every word is a root. -/
theorem run_of_ended {roots : List Bytes} (isEnded : reader.ended = true)
    (run : roots.foldlM next reader = .ok after) :
    after.taken = reader.taken.bind ((roots.map (Given.value .root)).foldlM Selection.give) := by
  induction roots generalizing reader with
  | nil =>
    cases run
    exact (bind_pure after.taken).symm
  | cons word rest ih =>
    obtain ⟨middle, step, run⟩ := bind_eq_ok.mp run
    simp only [next, isEnded, if_true] at step
    have adds := adds_of_root step
    exact adds.run (ih (adds.ended.trans isEnded) run)

end Reader

open Reader

/-- A reader comes to what is given. -/
theorem Gives.run {words : List Bytes} {given : List Given} (gives : Gives words given)
    {reader after : Reader} (isOpen : reader.ended = false) (free : reader.IsFree)
    (run : words.foldlM next reader = .ok after) :
    after.taken = reader.taken.bind (given.foldlM Selection.give) := by
  induction gives generalizing reader with
  | nil =>
    cases run
    exact (bind_pure after.taken).symm
  | attached named rest ih =>
    obtain ⟨middle, step, run⟩ := bind_eq_ok.mp run
    have adds := adds_of_attached isOpen named step
    exact adds.run (ih (adds.ended.trans isOpen) adds.free run)
  | separate named plain rest ih =>
    obtain ⟨middle, first, run⟩ := bind_eq_ok.mp run
    obtain ⟨last, second, run⟩ := bind_eq_ok.mp run
    have adds := adds_of_separate isOpen named plain first second
    exact adds.run (ih (adds.ended.trans isOpen) adds.free run)
  | switch rest ih =>
    obtain ⟨middle, step, run⟩ := bind_eq_ok.mp run
    rw [next_of_switch isOpen] at step
    have adds := adds_of_switchOn step
    exact adds.run (ih (adds.ended.trans isOpen) adds.free run)
  | root plain rest ih =>
    obtain ⟨middle, step, run⟩ := bind_eq_ok.mp run
    have adds := adds_of_isPlain isOpen free plain step
    exact adds.run (ih (adds.ended.trans isOpen) adds.free run)
  | ended roots =>
    obtain ⟨middle, step, run⟩ := bind_eq_ok.mp run
    rw [next_of_dashes isOpen] at step
    cases step
    rw [run_of_ended rfl run, taken_of_ended]

/-- The words that are still to be read give something, and if a setting waits for its value they
begin with that. -/
def Reader.Leads (reader : Reader) (words : List Bytes) : Prop :=
  (reader.IsFree → ∃ given, Gives words given) ∧
    ∀ setting, reader.pending = some (setting, none) →
      ∃ value rest given, words = value :: rest ∧ IsPlain value ∧ Gives rest given

theorem Reader.Adds.leads {reader middle : Reader} {item : Given} {words rest : List Bytes}
    (adds : reader.Adds middle item) (leads : middle.Leads rest)
    (grow : ∀ {given}, Gives rest given → Gives words (item :: given)) : reader.Leads words := by
  obtain ⟨given, gives⟩ := leads.1 adds.free
  exact ⟨fun _ => ⟨_, grow gives⟩, fun setting waits => absurd waits (adds.before setting)⟩

theorem leads_of_settle {words : List Bytes} {reader after settled : Reader}
    (isOpen : reader.ended = false) (run : words.foldlM next reader = .ok after)
    (settles : after.settle = .ok settled) : reader.Leads words := by
  induction words generalizing reader with
  | nil =>
    cases run
    exact ⟨fun _ => ⟨[], .nil⟩, fun setting waits => absurd waits (free_of_settle settles setting)⟩
  | cons word rest ih =>
    obtain ⟨middle, step, onward⟩ := bind_eq_ok.mp run
    obtain plain | rfl | ⟨setting, named, rfl | ⟨value, rfl⟩⟩ | ⟨switch, rfl⟩ :=
      kinds_of_next isOpen step
    · by_cases free : reader.IsFree
      · have adds := adds_of_isPlain isOpen free plain step
        exact adds.leads (ih (adds.ended.trans isOpen) onward) (.root plain)
      · -- The word is the value that was waited for.
        refine ⟨fun isFree => absurd isFree free, fun setting waits => ?_⟩
        rw [next_of_isPlain isOpen plain, Reader.plain, waits] at step
        cases step
        obtain ⟨given, gives⟩ := (ih (by exact isOpen) onward).1 nofun
        exact ⟨word, rest, given, rfl, plain, gives⟩
    · rw [next_of_dashes isOpen] at step
      cases step
      refine ⟨fun _ => ⟨_, .ended rest⟩, fun setting waits => ?_⟩
      exact absurd waits (free_of_ended rfl onward settles setting)
    · obtain ⟨before, waits, stillOpen, -⟩ := waits_of_option isOpen named step
      obtain ⟨value, others, given, rfl, plain, gives⟩ := (ih stillOpen onward).2 setting waits
      refine ⟨fun _ => ⟨_, .separate named plain gives⟩, fun other waits => ?_⟩
      exact absurd waits (before other)
    · have adds := adds_of_attached isOpen named step
      exact adds.leads (ih (adds.ended.trans isOpen) onward) (.attached named)
    · rw [next_of_switch isOpen] at step
      have adds := adds_of_switchOn step
      exact adds.leads (ih (adds.ended.trans isOpen) onward) .switch

/-- A command line that is read gives something. That is chosen, one after the other, before any
environment is asked. -/
theorem chosen_of_select {environment : Environment} {words : List Bytes} {selection : Selection}
    (accepted : select environment words = .ok selection) :
    (∃ given, Gives words given) ∧
      ∀ given, Gives words given → ∃ chosen,
        given.foldlM Selection.give .empty = .ok chosen ∧
          ∀ environment, select environment words = orRefuse (chosen.complete environment) := by
  obtain ⟨reader, run, onward⟩ := bind_eq_ok.mp accepted
  obtain ⟨settled, settles, -⟩ := bind_eq_ok.mp onward
  refine ⟨(leads_of_settle rfl run settles).1 start_isFree, fun given gives => ?_⟩
  refine ⟨settled.selection, ?_, fun environment => ?_⟩
  · have taken := gives.run rfl start_isFree run
    rw [taken_of_settle settles] at taken
    exact taken.symm
  · unfold select
    simp only [run, bind, Except.bind, settles]

end CommandLine
end FontSubset
