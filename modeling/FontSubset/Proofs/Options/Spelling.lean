import FontSubset.Proofs.Json.Unquoting
import FontSubset.Proofs.Report.Paths
import FontSubset.Proofs.Text.Case
/-! Settings that are given as texts. A tool is parsed from any text that is not blank, but read
from JSON whatever its text is. A flavor goes by its name, in letters of either case and between
blanks, and all that is written for a flavor is such a name. -/
namespace FontSubset
open Json Text

theorem decodeText_eq_ok_iff {α : Type} {decode : Draft → Decoded α} {source : String} {a : α} :
    decodeText decode source = .ok a ↔
      ∃ draft, Draft.read source = (draft, true) ∧ decode draft = .ok a := by
  unfold decodeText
  rcases Draft.read source with ⟨draft, complete⟩
  constructor
  · intro h
    obtain ⟨value, decoded, h⟩ := bind_eq_ok.mp h
    split_ifs at h with whole
    cases h
    exact ⟨draft, by rw [whole], decoded⟩
  · rintro ⟨_, ⟨⟩, decoded⟩
    exact bind_eq_ok.mpr ⟨a, decoded, if_pos rfl⟩

theorem Json.Draft.one_string_eq_ok_iff {draft : Draft} {expected s : String} :
    draft.one (Found.string expected) = .ok s ↔ draft = .text (some s) := by
  unfold Draft.one Draft.found?
  cases draft with
  | text content => cases content <;> simp [orMalformed, Found.string, Except.bind]
  | number n => cases n <;> simp [orMalformed, Found.string, Except.bind]
  | broken | null | bool | array | object => simp [orMalformed, Found.string, Except.bind]

namespace Tool

def NamesSomething (tool : Tool) : Prop := ∃ c ∈ tool.command.toList, isBlank c = false

theorem parse_eq_ok_iff {text : String} {tool : Tool} :
    parse text = .ok tool ↔ tool.command = text ∧ tool.NamesSomething := by
  obtain ⟨command⟩ := tool
  unfold parse NamesSomething
  constructor
  · intro h
    split_ifs at h with blank
    cases h
    exact ⟨rfl, by simpa using blank⟩
  · rintro ⟨rfl, something⟩
    exact if_neg (by simpa using something)

theorem parse_eq_error_iff {text : String} :
    parse text = .error .emptyTool ↔ ¬ (Tool.mk text).NamesSomething := by
  unfold parse NamesSomething
  split_ifs with blank <;> simpa using blank

theorem decode_eq_ok_iff {draft : Draft} {tool : Tool} :
    decode draft = .ok tool ↔ draft = .text (some tool.command) := by
  unfold decode
  rw [map_eq_ok]
  simp only [Draft.one_string_eq_ok_iff]
  constructor
  · rintro ⟨s, rfl, rfl⟩
    rfl
  · rintro rfl
    exact ⟨_, rfl, rfl⟩

theorem read_eq_ok_iff {source : String} {tool : Tool} :
    decodeText decode source = .ok tool ↔ SpellsPadded (.text tool.command) source.toList := by
  rw [← Draft.read_eq_text_iff]
  simp [decodeText_eq_ok_iff, decode_eq_ok_iff]

/-- A tool is parsed just from a text with something in it besides blanks, and read just from the
JSON spellings of its text. So the two agree on a text just when it has something in it. -/
theorem read_agrees_iff_names_something (text source : String) :
    (∀ tool, parse text = .ok tool ↔ tool.command = text ∧ tool.NamesSomething) ∧
    (parse text = .error .emptyTool ↔ ¬ (Tool.mk text).NamesSomething) ∧
    (∀ tool, decodeText decode source = .ok tool ↔
      SpellsPadded (.text tool.command) source.toList) ∧
    (SpellsPadded (.text text) source.toList →
      decodeText decode source = .ok ⟨text⟩ ∧
      (((∃ tool, decodeText decode source = .ok tool) ↔ ∃ tool, parse text = .ok tool) ↔
        (Tool.mk text).NamesSomething)) := by
  refine ⟨fun _ => parse_eq_ok_iff, parse_eq_error_iff, fun _ => read_eq_ok_iff, ?_⟩
  intro spelled
  have read : decodeText decode source = .ok ⟨text⟩ := read_eq_ok_iff.mpr spelled
  have reads : ∃ tool, decodeText decode source = .ok tool := ⟨_, read⟩
  refine ⟨read, ?_⟩
  rw [iff_true_left reads]
  constructor
  · rintro ⟨tool, parsed⟩
    obtain ⟨rfl, something⟩ := parse_eq_ok_iff.mp parsed
    exact something
  · intro something
    exact ⟨_, parse_eq_ok_iff.mpr ⟨rfl, something⟩⟩

/-- An escaped blank within a command. -/
theorem read_agrees_iff_names_something_escaped :
    SpellsPadded (.text "sh -c") "\"sh\\u0020-c\"".toList ∧
      decodeText decode "\"sh\\u0020-c\"" = .ok ⟨"sh -c"⟩ := by
  have spelled : SpellsPadded (.text "sh -c") "\"sh\\u0020-c\"".toList :=
    Draft.read_eq_text_iff.mp (by cbv)
  exact ⟨spelled, ((read_agrees_iff_names_something _ _).2.2.2 spelled).1⟩

/-- A blank text is read as a tool from which none is parsed. -/
theorem blank_tool_is_read :
    decodeText decode "\"  \"" = .ok ⟨"  "⟩ ∧ parse "  " = .error .emptyTool := by
  constructor <;> cbv

end Tool

namespace Flavor

/-- The name in letters of either case, with blanks around it. -/
inductive Spelled (flavor : Flavor) : List Char → Prop
  | mk {before core after : List Char} (leading : AreBlank before)
    (letters : List.Forall₂ SameLetter core flavor.name.toList) (trailing : AreBlank after) :
    Spelled flavor (before ++ (core ++ after))

/-- The same but for blanks around and the case of letters. -/
inductive Alike : List Char → List Char → Prop
  | mk {before core after before' core' after' : List Char} (leading : AreBlank before)
    (trailing : AreBlank after) (leading' : AreBlank before') (trailing' : AreBlank after')
    (letters : List.Forall₂ SameLetter core core') :
    Alike (before ++ (core ++ after)) (before' ++ (core' ++ after'))

/-- What a text is compared by. -/
def key (chars : List Char) : List Char := lowercase (trim chars)

theorem key_padded {before after : List Char} (leading : AreBlank before)
    (trailing : AreBlank after) (chars : List Char) :
    key (before ++ (chars ++ after)) = key chars := by
  unfold key
  rw [trim_padded leading trailing]

theorem Alike.key_eq {chars chars' : List Char} (h : Alike chars chars') :
    key chars = key chars' := by
  obtain ⟨leading, trailing, leading', trailing', letters⟩ := h
  rw [key_padded leading trailing, key_padded leading' trailing']
  unfold key
  rw [lowercase_trim, lowercase_trim, lowercase_eq_iff.mpr letters]

theorem trim_name (flavor : Flavor) : trim flavor.name.toList = flavor.name.toList := by
  cases flavor <;> decide

theorem lowercase_name (flavor : Flavor) : lowercase flavor.name.toList = flavor.name.toList := by
  cases flavor <;> decide

theorem key_eq_name_iff {flavor : Flavor} {chars : List Char} :
    key chars = flavor.name.toList ↔ flavor.Spelled chars := by
  constructor
  · intro named
    obtain ⟨before, after, leading, trailing, split⟩ := exists_padding chars
    rw [split]
    apply Spelled.mk leading _ trailing
    rwa [← lowercase_eq_iff, lowercase_name]
  · rintro ⟨leading, letters, trailing⟩
    rw [key_padded leading trailing]
    unfold key
    rw [lowercase_trim, lowercase_eq_iff.mpr letters, lowercase_name, trim_name]

theorem parse_eq_ok_iff {text : String} {flavor : Flavor} :
    parse text = .ok flavor ↔ flavor.Spelled text.toList := by
  rw [← key_eq_name_iff]
  unfold parse
  constructor
  · intro h
    split at h
    · rename_i found
      cases h
      have named := List.find?_some found
      exact beq_iff_eq.mp named
    · cases h
  · intro named
    unfold key at named
    rw [named]
    cases flavor <;> rfl

/-- Texts of one key are parsed alike, but for the text that a refusal cites. -/
theorem parse_of_key_eq {text text' : String} (same : key text.toList = key text'.toList) :
    parse text' = (parse text).mapError fun _ => .unknownFlavor text' := by
  unfold parse
  unfold key at same
  rw [same]
  split <;> rfl

theorem parse_eq_error_iff {text : String} {cause : SettingError} :
    parse text = .error cause ↔
      cause = .unknownFlavor text ∧ ∀ flavor : Flavor, ¬ flavor.Spelled text.toList := by
  simp only [← parse_eq_ok_iff]
  cases h : parse text with
  | ok flavor => simp
  | error other =>
    have cited : Except.error other = _ := h.symm.trans (parse_of_key_eq rfl)
    rw [h] at cited
    simp only [Except.mapError, Except.error.injEq] at cited
    simp [cited, eq_comm]

theorem parse_name (flavor : Flavor) : parse flavor.name = .ok flavor := by
  cases flavor <;> rfl

theorem ofName_eq_ok_iff {name : String} {flavor : Flavor} :
    ofName name = .ok flavor ↔ name = flavor.name := by
  unfold ofName
  constructor
  · intro h
    split at h
    · rename_i found
      cases h
      have named := List.find?_some found
      exact (beq_iff_eq.mp named).symm
    · cases h
  · rintro rfl
    cases flavor <;> rfl

/-- A text is read as a flavor just when it is the flavor's name. -/
theorem read_text_iff {text source : String} (spelled : SpellsPadded (.text text) source.toList)
    (flavor : Flavor) :
    decodeText (decode depthLimit) source = .ok flavor ↔ text = flavor.name := by
  rw [← ofName_eq_ok_iff, decodeText_eq_ok_iff, spelled.read]
  constructor
  · rintro ⟨_, ⟨⟩, h⟩
    exact h
  · intro h
    exact ⟨_, rfl, h⟩

/-- The switches for a font have the flavor's name behind `--flavor=`, and no other value. -/
theorem flavor_argument_iff {options : Options} {font : Font} {value : String} :
    Text.encode ("--flavor=" ++ value) ∈ (options.arguments font).tail ↔
      value = options.flavor.name := by
  have ne_zopfli : Text.encode ("--flavor=" ++ value) ≠ Text.encode "--with-zopfli" := by
    intro same
    have chars := congrArg String.toList (Text.encode_injective same)
    simp [String.toList_append] at chars
  have ne_textFile : Text.encode ("--flavor=" ++ value) ≠
      Text.encode "--text-file=" ++ options.textFile.bytes := by
    intro same
    rw [Text.encode_append] at same
    have begun := congrArg (List.take 3) same
    rw [List.take_append_of_le_length (by decide),
      List.take_append_of_le_length (by decide)] at begun
    exact absurd begun (by decide)
  unfold Options.arguments
  rw [List.tail_cons, List.mem_cons, Text.encode_injective.eq_iff, String.append_right_inj]
  cases options.withZopfli <;> simp [ne_zopfli, ne_textFile]

/-- A flavor is parsed just from its name in letters of either case between blanks, whatever
else is refused with its text cited, and a flavor comes back from all that is written for it: a
JSON text that is read as the flavor, its name, and its switch among the arguments. -/
theorem parse_accepts_spellings :
    (∀ text flavor, parse text = .ok flavor ↔ flavor.Spelled text.toList) ∧
    (∀ text cause, parse text = .error cause ↔
      cause = .unknownFlavor text ∧ ∀ flavor : Flavor, ¬ flavor.Spelled text.toList) ∧
    (∀ text text', Alike text.toList text'.toList →
      parse text' = (parse text).mapError fun _ => .unknownFlavor text') ∧
    (∀ text source flavor, SpellsPadded (.text text) source.toList →
      decodeText (decode depthLimit) source = .ok flavor → parse text = .ok flavor) ∧
    (∀ flavor, parse flavor.name = .ok flavor) ∧
    ∀ options : Options, ∀ font,
      (∃ value, (options.arguments font)[1]? = some (Text.encode ("--flavor=" ++ value))) ∧
      ∀ value, Text.encode ("--flavor=" ++ value) ∈ (options.arguments font).tail →
        parse value = .ok options.flavor := by
  refine ⟨fun _ _ => parse_eq_ok_iff, fun _ _ => parse_eq_error_iff,
    fun _ _ alike => parse_of_key_eq alike.key_eq, ?_, parse_name, ?_⟩
  · intro text source flavor spelled read
    rw [(read_text_iff spelled flavor).mp read]
    exact parse_name flavor
  · intro options font
    refine ⟨⟨_, rfl⟩, ?_⟩
    intro value member
    rw [flavor_argument_iff.mp member]
    exact parse_name options.flavor

/-- Capitals between a wide blank and a line end, an escape in JSON, and a switch. -/
theorem parse_accepts_spellings_padded :
    let source := "\"w\\u006fff2\""
    let arguments := (Options.ofTextFile "chars.txt").arguments ⟨"a.ttf"⟩
    Alike "woff2".toList "\u3000WOFF2\n".toList ∧ parse "\u3000WOFF2\n" = .ok .woff2 ∧
      SpellsPadded (.text "woff2") source.toList ∧
      decodeText (decode depthLimit) source = .ok .woff2 ∧
      Text.encode ("--flavor=" ++ "woff2") ∈ arguments.tail ∧ parse "woff2" = .ok .woff2 := by
  intro source arguments
  have alike : Alike ([] ++ ("woff2".toList ++ [])) (['\u3000'] ++ ("WOFF2".toList ++ ['\n'])) :=
    .mk nofun nofun (List.forall_mem_singleton.mpr rfl) (List.forall_mem_singleton.mpr rfl)
      (lowercase_eq_iff.mp (by decide))
  have spelled : SpellsPadded (.text "woff2") source.toList :=
    Draft.read_eq_text_iff.mp (by cbv)
  have read : decodeText (decode depthLimit) source = .ok .woff2 := by cbv
  have member : Text.encode ("--flavor=" ++ "woff2") ∈ arguments.tail := List.mem_cons_self
  obtain ⟨-, -, padded, agrees, -, switches⟩ := parse_accepts_spellings
  have parsed : parse "woff2" = .ok .woff2 := agrees _ _ _ spelled read
  refine ⟨alike, ?_, spelled, read, member, (switches _ _).2 _ member⟩
  rw [padded "woff2" "\u3000WOFF2\n" alike, parsed]
  rfl

end Flavor
end FontSubset
