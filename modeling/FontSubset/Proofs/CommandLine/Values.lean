import FontSubset.CommandLine.Configuration
import FontSubset.Proofs.CommandLine.Words
/-! What a selection holds is told by the values that were taken for each setting and by the switches
that were turned on. Every step that takes a value keeps this so, wherever the value is from. -/
namespace FontSubset.CommandLine

/-- No value, or one, and what it is read as. -/
inductive ReadAs {α : Type} (read : String → α → Prop) : List Bytes → Option α → Prop
  | none : ReadAs read [] none
  | one {text : String} {a : α} (h : read text a) : ReadAs read [Text.encode text] (some a)

namespace ReadAs

variable {α β : Type} {read : String → α → Prop} {values : List Bytes} {held : Option α}

theorem isSome_iff (h : ReadAs read values held) : held.isSome = true ↔ values ≠ [] := by
  cases h <;> simp

theorem unique (functional : ∀ text a b, read text a → read text b → a = b) {other : Option α}
    (h : ReadAs read values held) (h' : ReadAs read values other) : held = other := by
  cases h with
  | none => cases h'; rfl
  | @one text a first =>
    generalize same : [Text.encode text] = again at h'
    cases h' with
    | none => cases same
    | @one text' b second =>
      rw [Text.encode_injective (List.cons.inj same).1] at first
      rw [functional text' a b first second]

theorem add (h : ReadAs read values held) (free : ¬ held.isSome = true) {text : String} {a : α}
    (first : read text a) : ReadAs read (values ++ [Text.encode text]) (some a) := by
  cases h with
  | none => exact .one first
  | one => exact absurd rfl free

theorem map {as : String → β → Prop} (h : ReadAs read values held) (f : α → β)
    (into : ∀ text a, read text a → as text (f a)) : ReadAs as values (held.map f) := by
  cases h with
  | none => exact .none
  | one first => exact .one (into _ _ first)

theorem text {held : Option String} (h : ReadAs Eq values held) (f : String → β) :
    ReadAs (fun text b => b = f text) values (held.map f) :=
  h.map f fun _ _ same => congrArg f same.symm

theorem eq_of_perm (h : ReadAs read values held) {others : List Bytes} (perm : others.Perm values) :
    others = values := by
  cases h with
  | none => exact perm.eq_nil
  | one => exact List.perm_singleton.mp perm

end ReadAs

/-- The names between the commas of some values, if there are any values. -/
inductive Lists : List Bytes → Option (List String) → Prop
  | none : Lists [] none
  | names {values : List Bytes} {names : List String} (given : values ≠ [])
    (split : names.map Text.encode = values.flatMap (·.splitOn 0x2C)) : Lists values (some names)

namespace Lists

variable {values : List Bytes} {held other : Option (List String)}

theorem isSome_iff (h : Lists values held) : held.isSome = true ↔ values ≠ [] := by
  cases h with
  | none => simp
  | names given => simp [given]

theorem unique (h : Lists values held) (h' : Lists values other) : held = other := by
  cases h with
  | none =>
    cases h' with
    | none => rfl
    | names given => exact absurd rfl given
  | names given split =>
    cases h' with
    | none => exact absurd rfl given
    | names _ split' =>
      rw [List.map_injective_iff.mpr Text.encode_injective (split.trans split'.symm)]

theorem add (h : Lists values held) {value : Bytes} {names : List String}
    (split : names.map Text.encode = value.splitOn 0x2C) :
    Lists (values ++ [value]) (some (held.getD [] ++ names)) := by
  refine .names (by simp) ?_
  cases h with
  | none => simpa using split
  | names _ before => simp [before, split]

end Lists

namespace Selection

theorem utf8_eq_ok {bytes : Bytes} {text : String} :
    utf8 bytes = .ok text ↔ bytes = Text.encode text := by
  rw [← Text.decode?_eq_some_iff, utf8]
  cases Text.decode? bytes <;> simp

theorem encode_of_mapM_utf8 {parts : List Bytes} {names : List String}
    (h : parts.mapM utf8 = .ok names) : names.map Text.encode = parts := by
  induction parts generalizing names with
  | nil =>
    cases h
    rfl
  | cons part rest ih =>
    rw [List.mapM_cons] at h
    obtain ⟨name, read, h⟩ := bind_eq_ok.mp h
    obtain ⟨others, reads, h⟩ := bind_eq_ok.mp h
    cases h
    rw [List.map_cons, ih reads, utf8_eq_ok.mp read]

theorem choose_eq_ok {α : Type} {setting : Setting} {choices : Choices α} {bytes : Bytes} {a : α} :
    choose setting choices bytes = .ok a ↔
      ∃ text, bytes = Text.encode text ∧ choices.find? text = some a := by
  simp only [← Text.decode?_eq_some_iff, ← Option.bind_eq_some_iff, choose]
  cases (Text.decode? bytes).bind choices.find? with
  | some found => simp
  | none =>
    simp only [reduceCtorEq, iff_false]
    split <;> exact nofun

theorem decimal_lt {value n : Nat} {digits : List Char} (small : value < UInt64.size)
    (h : decimal value digits = .ok n) : n < UInt64.size := by
  induction digits generalizing value with
  | nil =>
    cases h
    exact small
  | cons c rest ih =>
    unfold decimal at h
    split at h
    · dsimp only at h
      split at h
      · exact ih ‹_› h
      · cases h
    · cases h

theorem seconds_lt {text : String} {n : Nat} (h : seconds text = .ok n) : n < UInt64.size := by
  unfold seconds at h
  split at h
  · cases h
  · cases h
  · exact decimal_lt (by decide) h
  · exact decimal_lt (by decide) h

/-- What a selection holds of the values and switches that it was given. -/
structure Holds (selection : Selection) (values : Setting → List Bytes) (isOn : Switch → Bool) :
    Prop where
  root : ReadAs Eq (values .root) selection.root
  tool : ReadAs Eq (values .tool) selection.tool
  textFile : ReadAs Eq (values .textFile) selection.textFile
  flavor : ReadAs (fun text flavor => Flavor.parse text = .ok flavor) (values .flavor)
    selection.flavor
  allowlist : Lists (values .envAllowlist) selection.allowlist
  timeoutSecs : ReadAs (fun text n => seconds text = .ok n.toNat) (values .timeoutSecs)
    selection.timeoutSecs
  logFormat : ReadAs (fun text format => LogFormat.choices.find? text = some format)
    (values .logFormat) selection.logFormat
  report : ReadAs (fun text format => ReportFormat.choices.find? text = some format)
    (values .report) selection.report
  noZopfli : selection.noZopfli = isOn .noZopfli
  dryRun : selection.dryRun = isOn .dryRun
  strict : selection.strict = isOn .strict

namespace Holds

variable {selection after : Selection} {values : Setting → List Bytes} {isOn : Switch → Bool}

theorem empty : Selection.empty.Holds (fun _ => []) (fun _ => false) :=
  ⟨.none, .none, .none, .none, .none, .none, .none, .none, rfl, rfl, rfl⟩

theorem unique (holds : selection.Holds values isOn) (holds' : after.Holds values isOn) :
    selection = after := by
  have sameText (text a b : String) (first : text = a) (second : text = b) : a = b :=
    first.symm.trans second
  have sameFlavor (text : String) (a b : Flavor) (first : Flavor.parse text = .ok a)
      (second : Flavor.parse text = .ok b) : a = b :=
    Except.ok.inj (first.symm.trans second)
  have sameNumber (text : String) (a b : UInt64) (first : seconds text = .ok a.toNat)
      (second : seconds text = .ok b.toNat) : a = b :=
    UInt64.toNat.inj (Except.ok.inj (first.symm.trans second))
  have sameChoice {α : Type} (choices : Choices α) (text : String) (a b : α)
      (first : choices.find? text = some a) (second : choices.find? text = some b) : a = b :=
    Option.some.inj (first.symm.trans second)
  obtain ⟨root, tool, textFile, flavor, allowlist, timeoutSecs, logFormat, report, noZopfli,
    dryRun, strict⟩ := holds
  obtain ⟨root', tool', textFile', flavor', allowlist', timeoutSecs', logFormat', report',
    noZopfli', dryRun', strict'⟩ := holds'
  cases selection
  cases after
  simp only [mk.injEq]
  exact ⟨root.unique sameText root', tool.unique sameText tool',
    textFile.unique sameText textFile', flavor.unique sameFlavor flavor',
    allowlist.unique allowlist', timeoutSecs.unique sameNumber timeoutSecs',
    logFormat.unique (sameChoice _) logFormat', report.unique (sameChoice _) report',
    noZopfli.trans noZopfli'.symm, dryRun.trans dryRun'.symm, strict.trans strict'.symm⟩

theorem has_iff (holds : selection.Holds values isOn) (setting : Setting) :
    selection.has setting = true ↔ values setting ≠ [] := by
  cases setting with
  | root => exact holds.root.isSome_iff
  | tool => exact holds.tool.isSome_iff
  | textFile => exact holds.textFile.isSome_iff
  | flavor => exact holds.flavor.isSome_iff
  | envAllowlist => exact holds.allowlist.isSome_iff
  | timeoutSecs => exact holds.timeoutSecs.isSome_iff
  | logFormat => exact holds.logFormat.isSome_iff
  | report => exact holds.report.isSome_iff

/-- Of most settings a selection holds one value, so that their order is no matter. -/
theorem eq_of_perm (holds : selection.Holds values isOn) {values' : Setting → List Bytes}
    (perm : ∀ setting, (values' setting).Perm (values setting))
    (inOrder : values' .envAllowlist = values .envAllowlist) : values' = values := by
  funext setting
  cases setting with
  | root => exact holds.root.eq_of_perm (perm .root)
  | tool => exact holds.tool.eq_of_perm (perm .tool)
  | textFile => exact holds.textFile.eq_of_perm (perm .textFile)
  | flavor => exact holds.flavor.eq_of_perm (perm .flavor)
  | envAllowlist => exact inOrder
  | timeoutSecs => exact holds.timeoutSecs.eq_of_perm (perm .timeoutSecs)
  | logFormat => exact holds.logFormat.eq_of_perm (perm .logFormat)
  | report => exact holds.report.eq_of_perm (perm .report)

/-- A value that is taken for a setting is held, and nothing else changes. -/
theorem take (holds : selection.Holds values isOn) {setting : Setting} {bytes : Bytes}
    (free : selection.has setting = true → setting = .envAllowlist)
    (h : selection.take setting bytes = .ok after) :
    after.Holds (Function.update values setting (values setting ++ [bytes])) isOn := by
  cases setting with
  | root =>
    obtain ⟨text, read, rfl⟩ := map_eq_ok.mp h
    rw [utf8_eq_ok.mp read]
    exact { holds with root := holds.root.add (nomatch free ·) rfl }
  | tool =>
    obtain ⟨text, read, rfl⟩ := map_eq_ok.mp h
    rw [utf8_eq_ok.mp read]
    exact { holds with tool := holds.tool.add (nomatch free ·) rfl }
  | textFile =>
    obtain ⟨text, read, rfl⟩ := map_eq_ok.mp h
    rw [utf8_eq_ok.mp read]
    exact { holds with textFile := holds.textFile.add (nomatch free ·) rfl }
  | flavor =>
    obtain ⟨text, read, h⟩ := bind_eq_ok.mp h
    rw [utf8_eq_ok.mp read]
    split at h
    case h_1 flavor parses =>
      cases h
      exact { holds with flavor := holds.flavor.add (nomatch free ·) parses }
    case h_2 => cases h
  | envAllowlist =>
    obtain ⟨names, read, h⟩ := bind_eq_ok.mp h
    cases h
    exact { holds with allowlist := holds.allowlist.add (encode_of_mapM_utf8 read) }
  | timeoutSecs =>
    obtain ⟨text, read, h⟩ := bind_eq_ok.mp h
    rw [utf8_eq_ok.mp read]
    split at h
    case h_1 n counted =>
      cases h
      have whole : (UInt64.ofNat n).toNat = n := UInt64.toNat_ofNat_of_lt (seconds_lt counted)
      rw [← whole] at counted
      exact { holds with timeoutSecs := holds.timeoutSecs.add (nomatch free ·) counted }
    case h_2 => cases h
  | logFormat =>
    obtain ⟨format, chosen, rfl⟩ := map_eq_ok.mp h
    obtain ⟨text, rfl, found⟩ := choose_eq_ok.mp chosen
    exact { holds with logFormat := holds.logFormat.add (nomatch free ·) found }
  | report =>
    obtain ⟨format, chosen, rfl⟩ := map_eq_ok.mp h
    obtain ⟨text, rfl, found⟩ := choose_eq_ok.mp chosen
    exact { holds with report := holds.report.add (nomatch free ·) found }

end Holds
end Selection
end FontSubset.CommandLine
