import FontSubset.Proofs.CommandLine.Values
/-! Where the values of a configuration come from. The command line goes before the environment, and
the environment before what is assumed otherwise, for each setting apart from the others. -/
namespace FontSubset.CommandLine

def Given.valuesOf (setting : Setting) (given : List Given) : List Bytes :=
  given.filterMap fun
    | .value other bytes => if other = setting then some bytes else none
    | .switch _ => none

theorem Given.valuesOf_cons (setting : Setting) (item : Given) (given : List Given) :
    valuesOf setting (item :: given) = valuesOf setting [item] ++ valuesOf setting given :=
  List.filterMap_append (l := [item])

def Setting.inherited (environment : Environment) (setting : Setting) : Option Bytes :=
  setting.variableName?.bind fun name => environment.get? (Text.encode name)

/-- The values of the first of two sources that has any. -/
def preferred (values others : List Bytes) : List Bytes := if values = [] then others else values

def chosen (environment : Environment) (given : List Given) (setting : Setting) : List Bytes :=
  preferred (Given.valuesOf setting given) (setting.inherited environment).toList

/-- The values on the command line, or else that of the variable, or else the default. -/
def sources (environment : Environment) (given : List Given) (setting : Setting) : List Bytes :=
  preferred (chosen environment given setting) (setting.default?.map Text.encode).toList

/-- A configuration is read off the values of its settings and the switches that are given. -/
structure Configuration.ComesFrom (configuration : Configuration) (home : Option String)
    (values : Setting → List Bytes) (given : List Given) : Prop where
  root : ReadAs (fun text root => root = Path.ofString (expandHome home text)) (values .root)
    (some configuration.batch.root)
  tool : ReadAs (fun text tool => tool = expandHome home text) (values .tool)
    (some configuration.tool)
  textFile : ReadAs (fun text file => file = Path.ofString (expandHome home text))
    (values .textFile) (some configuration.batch.options.textFile)
  flavor : ReadAs (fun text flavor => Flavor.parse text = .ok flavor) (values .flavor)
    (some configuration.batch.options.flavor)
  allowed : Lists (values .envAllowlist) configuration.allowed
  timeout : ReadAs (fun text milliseconds =>
      ∃ n, Selection.seconds text = .ok n ∧ milliseconds = n * 1000)
    (values .timeoutSecs) configuration.timeout
  logFormat : ReadAs (fun text format => LogFormat.choices.find? text = some format)
    (values .logFormat) (some configuration.logFormat)
  report : ReadAs (fun text format => ReportFormat.choices.find? text = some format)
    (values .report) (some configuration.report)
  noZopfli : configuration.batch.options.withZopfli = false ↔ .switch .noZopfli ∈ given
  dryRun : configuration.batch.dryRun = true ↔ .switch .dryRun ∈ given
  strict : configuration.batch.strict = true ↔ .switch .strict ∈ given

/-- What the words of a command line and the environment come to. -/
def resolve (environment : Environment) (accountHome : Option String) (words : List Bytes) :
    Except Interruption Configuration :=
  (select environment words).map (Configuration.ofSelection (home? environment accountHome))

theorem preferred_nil (values : List Bytes) : preferred values [] = values := by
  unfold preferred
  split_ifs with none
  · exact none.symm
  · rfl

theorem sources_of_no_default {environment : Environment} {given : List Given} {setting : Setting}
    (h : setting.default? = none) :
    sources environment given setting = chosen environment given setting := by
  rw [sources, h]
  exact preferred_nil _

theorem preferred_preferred (values others : List Bytes) :
    preferred (preferred values others) others = preferred values others := by
  unfold preferred
  split_ifs <;> rfl

theorem eq_nil_of_preferred {values others : List Bytes} (h : preferred values others = []) :
    values = [] := by
  unfold preferred at h
  split_ifs at h with none
  · exact none
  · exact h

theorem ReadAs.preferred {α : Type} {read : String → α → Prop} {values : List Bytes}
    {held : Option α} (h : ReadAs read values held) {text : String} {a : α} (default : read text a) :
    ReadAs read (preferred values [Text.encode text]) (some (held.getD a)) := by
  cases h with
  | none => exact .one default
  | one first => exact .one first

namespace Selection

variable {environment environment' : Environment} {selection after : Selection}
variable {values : Setting → List Bytes} {isOn : Switch → Bool}

namespace Holds

theorem turnOn (holds : selection.Holds values isOn) {switch : Switch}
    (h : selection.turnOn switch = .ok after) :
    after.Holds values (Function.update isOn switch true) := by
  have once {isOn : Bool} {changed : Selection} {error : Interruption}
      (h : (if isOn = true then .error error else .ok changed) = Except.ok after) :
      after = changed := by
    split at h <;> cases h
    rfl
  cases switch with
  | noZopfli =>
    rw [once h]
    exact { holds with noZopfli := rfl }
  | dryRun =>
    rw [once h]
    exact { holds with dryRun := rfl }
  | strict =>
    rw [once h]
    exact { holds with strict := rfl }
  | help => cases h
  | version => cases h

theorem give (holds : selection.Holds values isOn) {item : Given}
    (h : selection.give item = .ok after) :
    after.Holds (fun setting => values setting ++ Given.valuesOf setting [item])
      (fun switch => isOn switch || decide (.switch switch = item)) := by
  cases item with
  | value setting bytes =>
    have taken := Reader.orRefuse_eq_ok_iff.mp h
    unfold takeOnce at taken
    split at taken
    case isTrue => cases taken
    case isFalse once =>
      have free : selection.has setting = true → setting = .envAllowlist := by simpa using once
      convert holds.take free taken using 1
      · funext other
        by_cases same : setting = other
        · simp [Given.valuesOf, same]
        · simp [Given.valuesOf, same, Ne.symm same]
      · simp
  | switch switch =>
    convert holds.turnOn h using 1
    · simp [Given.valuesOf]
    · funext other
      by_cases same : other = switch
      · simp [same]
      · simp [same]

/-- What is given one after the other is held in the end. -/
theorem gives (holds : selection.Holds values isOn) {given : List Given}
    (h : given.foldlM Selection.give selection = .ok after) :
    after.Holds (fun setting => values setting ++ Given.valuesOf setting given)
      (fun switch => isOn switch || decide (.switch switch ∈ given)) := by
  induction given generalizing selection values isOn with
  | nil =>
    cases h
    simpa [Given.valuesOf] using holds
  | cons item rest ih =>
    obtain ⟨middle, first, h⟩ := bind_eq_ok.mp h
    convert ih (holds.give first) h using 2
    · rw [List.append_assoc, ← Given.valuesOf_cons]
    · simp [Bool.or_assoc]

/-- A setting without a value takes that of its variable. -/
theorem ask (holds : selection.Holds values isOn) {setting : Setting}
    (h : selection.ask environment setting = .ok after) :
    after.Holds (Function.update values setting
      (CommandLine.preferred (values setting) (setting.inherited environment).toList)) isOn := by
  have given_iff := holds.has_iff setting
  have asked : (setting.variableName?.bind fun name => environment.get? (Text.encode name)) =
      setting.inherited environment := rfl
  rw [Selection.ask, asked] at h
  by_cases none : values setting = []
  · have isOpen : ¬ selection.has setting = true := by simp [given_iff, none]
    rw [if_neg isOpen] at h
    rw [CommandLine.preferred, if_pos none]
    cases value : setting.inherited environment with
    | none =>
      rw [value] at h
      cases h
      rw [Option.toList_none, ← none, Function.update_eq_self]
      exact holds
    | some bytes =>
      rw [value] at h
      have held := holds.take (absurd · isOpen) h
      rwa [none] at held
  · rw [if_pos (given_iff.mpr none)] at h
    cases h
    rw [CommandLine.preferred, if_neg none, Function.update_eq_self]
    exact holds

theorem asks (holds : selection.Holds values isOn) {settings : List Setting}
    (h : settings.foldlM (Selection.ask environment) selection = .ok after) :
    after.Holds (fun setting => if setting ∈ settings then
      CommandLine.preferred (values setting) (setting.inherited environment).toList
      else values setting) isOn := by
  induction settings generalizing selection values with
  | nil =>
    cases h
    simpa using holds
  | cons setting rest ih =>
    obtain ⟨middle, first, h⟩ := bind_eq_ok.mp h
    convert ih (holds.ask first) h using 2 with other
    by_cases same : other = setting
    · subst same
      simp [preferred_preferred]
    · simp [same]

theorem complete (holds : selection.Holds values isOn)
    (h : selection.complete environment = .ok after) :
    after.Holds (fun setting =>
      CommandLine.preferred (values setting) (setting.inherited environment).toList) isOn := by
  convert holds.asks h using 2 with setting
  rw [if_pos]
  cases setting <;> decide

theorem ask_congr (holds : selection.Holds values isOn) {setting : Setting}
    (alike : values setting = [] →
      setting.inherited environment' = setting.inherited environment) :
    selection.ask environment' setting = selection.ask environment setting := by
  unfold Selection.ask
  by_cases isOpen : selection.has setting = true
  · rw [if_pos isOpen, if_pos isOpen]
  · have none : values setting = [] := by simpa [holds.has_iff] using isOpen
    have same : (setting.variableName?.bind fun name => environment'.get? (Text.encode name)) =
        setting.variableName?.bind fun name => environment.get? (Text.encode name) := alike none
    rw [same]

/-- Only the variables of settings without a value are looked at. -/
theorem asks_congr (holds : selection.Holds values isOn)
    (alike : ∀ setting, values setting = [] →
      setting.inherited environment' = setting.inherited environment) (settings : List Setting) :
    settings.foldlM (Selection.ask environment') selection =
      settings.foldlM (Selection.ask environment) selection := by
  induction settings generalizing selection values with
  | nil => rfl
  | cons setting rest ih =>
    rw [List.foldlM_cons, List.foldlM_cons, holds.ask_congr (alike setting)]
    cases asked : selection.ask environment setting with
    | error => rfl
    | ok middle =>
      apply ih (holds.ask asked)
      intro other none
      apply alike other
      rw [Function.update_apply] at none
      split_ifs at none with same
      · rw [same]
        exact eq_nil_of_preferred none
      · exact none

end Holds

/-- Defaults take the place of what is not chosen. -/
theorem comesFrom_ofSelection {given : List Given} (home : Option String)
    (holds : selection.Holds (chosen environment given) fun switch => .switch switch ∈ given) :
    (Configuration.ofSelection home selection).ComesFrom home (sources environment given) given where
  root := (holds.root.preferred rfl).text fun text => Path.ofString (expandHome home text)
  tool := (holds.tool.preferred rfl).text (expandHome home)
  textFile := (holds.textFile.preferred rfl).text fun text => Path.ofString (expandHome home text)
  flavor := holds.flavor.preferred rfl
  allowed := by
    rw [sources_of_no_default rfl]
    exact holds.allowlist
  timeout := by
    rw [sources_of_no_default rfl]
    exact holds.timeoutSecs.map _ fun _ n counted => ⟨n.toNat, counted, rfl⟩
  logFormat := holds.logFormat.preferred rfl
  report := holds.report.preferred rfl
  noZopfli := by
    simp [Configuration.ofSelection, holds.noZopfli]
  dryRun := by
    simp [Configuration.ofSelection, holds.dryRun]
  strict := by
    simp [Configuration.ofSelection, holds.strict]

end Selection

theorem Setting.eq_of_variableName? {setting other : Setting} {name : String}
    (h : setting.variableName? = some name) (h' : other.variableName? = some name) :
    other = setting := by
  have same : other.variableName? = setting.variableName? := h'.trans h.symm
  cases setting <;> cases other <;> first | rfl | exact absurd same (by decide)

/-- The environments differ in variables of settings that are given, if at all. -/
def AgreeBut (given : List Given) (environment environment' : Environment) : Prop :=
  ∀ name, (∀ setting, Given.valuesOf setting given ≠ [] →
      setting.variableName?.map Text.encode ≠ some name) →
    environment'.get? name = environment.get? name

namespace AgreeBut

variable {given : List Given} {environment environment' : Environment}

theorem inherited (agree : AgreeBut given environment environment') {setting : Setting}
    (isOpen : Given.valuesOf setting given = []) :
    setting.inherited environment' = setting.inherited environment := by
  unfold Setting.inherited
  cases named : setting.variableName? with
  | none => rfl
  | some name =>
    apply agree
    intro other some same
    obtain ⟨name', named', encoded⟩ := Option.map_eq_some_iff.mp same
    rw [Text.encode_injective encoded] at named'
    rw [Setting.eq_of_variableName? named named'] at some
    exact some isOpen

theorem home? (agree : AgreeBut given environment environment') (accountHome : Option String) :
    home? environment' accountHome = CommandLine.home? environment accountHome := by
  unfold CommandLine.home?
  rw [agree]
  intro setting _
  cases setting <;> decide

end AgreeBut

variable {environment environment' : Environment} {words : List Bytes} {given : List Given}
variable {selection : Selection}

theorem holds_of_gives {taken : Selection} (took : given.foldlM Selection.give .empty = .ok taken) :
    taken.Holds (fun setting => Given.valuesOf setting given)
      fun switch => .switch switch ∈ given := by
  simpa using Selection.Holds.empty.gives took

theorem holds_of_select (gives : Gives words given)
    (accepted : select environment words = .ok selection) :
    selection.Holds (chosen environment given) fun switch => .switch switch ∈ given := by
  obtain ⟨taken, took, selects⟩ := (chosen_of_select accepted).2 given gives
  rw [selects, Reader.orRefuse_eq_ok_iff] at accepted
  exact (holds_of_gives took).complete accepted

theorem select_of_agreeBut (gives : Gives words given)
    (agree : AgreeBut given environment environment')
    (accepted : select environment words = .ok selection) :
    select environment' words = .ok selection := by
  obtain ⟨taken, took, selects⟩ := (chosen_of_select accepted).2 given gives
  rw [selects] at accepted ⊢
  have asked := (holds_of_gives took).asks_congr (fun _ => agree.inherited) Setting.all
  rw [Selection.complete, asked]
  exact accepted

theorem select_of_perm {words' : List Bytes} {given' : List Given} {selection' : Selection}
    (gives : Gives words given) (gives' : Gives words' given') (perm : given'.Perm given)
    (inOrder : Given.valuesOf .envAllowlist given' = Given.valuesOf .envAllowlist given)
    (accepted : select environment words = .ok selection)
    (accepted' : select environment words' = .ok selection') : selection' = selection := by
  obtain ⟨taken, took, -⟩ := (chosen_of_select accepted).2 given gives
  have values : (fun setting => Given.valuesOf setting given') = fun setting =>
      Given.valuesOf setting given :=
    (holds_of_gives took).eq_of_perm (fun _ => perm.filterMap _) inOrder
  have same : chosen environment given' = chosen environment given := by
    funext setting
    unfold chosen
    rw [congrFun values setting]
  have holds' := holds_of_select gives' accepted'
  simp only [same, perm.mem_iff] at holds'
  exact holds'.unique (holds_of_select gives accepted)

/-- The report's format and the switches have no variables. -/
theorem holds_without_environment {selection' : Selection} {isOn : Switch → Bool}
    (holds : selection.Holds (chosen environment given) isOn)
    (holds' : selection'.Holds (chosen environment' given) isOn) :
    selection'.report = selection.report ∧ selection'.noZopfli = selection.noZopfli ∧
      selection'.dryRun = selection.dryRun ∧ selection'.strict = selection.strict := by
  have unasked (environment : Environment) :
      chosen environment given .report = Given.valuesOf .report given :=
    preferred_nil _
  have report := holds.report
  have report' := holds'.report
  rw [unasked] at report report'
  refine ⟨report'.unique (fun text a b first second => ?_) report,
    holds'.noZopfli.trans holds.noZopfli.symm, holds'.dryRun.trans holds.dryRun.symm,
    holds'.strict.trans holds.strict.symm⟩
  exact Option.some.inj (first.symm.trans second)

variable {accountHome : Option String} {configuration : Configuration}

end FontSubset.CommandLine
