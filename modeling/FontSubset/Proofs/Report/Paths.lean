import FontSubset.Proofs.Json.Decoding
import FontSubset.Proofs.Text.Utf8
import FontSubset.Report.Decode
/-! The paths of options and reports. What holds paths has an encoding just when they are
UTF-8, and paths that were read always are. -/
namespace FontSubset
open Json

namespace Path

/-- Spelled by the characters of some text. -/
def IsUtf8 (path : Path) : Prop := ∃ text, path = ofString text

theorem text?_eq_some_iff {path : Path} {text : String} :
    path.text? = some text ↔ path = ofString text := by
  cases path
  simp [text?, ofString, Text.decode?_eq_some_iff]

theorem encode_eq_ok_iff {path : Path} {value : Value} :
    path.encode = .ok value ↔ ∃ text, path = ofString text ∧ value = .text text := by
  simp only [← text?_eq_some_iff]
  cases h : path.text? with
  | none => simp [encode, h]
  | some text => simp [encode, h, eq_comm]

theorem encodes_iff (path : Path) : (∃ value, path.encode = .ok value) ↔ path.IsUtf8 := by
  constructor
  · rintro ⟨value, h⟩
    obtain ⟨text, eq, -⟩ := encode_eq_ok_iff.mp h
    exact ⟨text, eq⟩
  · rintro ⟨text, eq⟩
    exact ⟨_, encode_eq_ok_iff.mpr ⟨text, eq, rfl⟩⟩

end Path

/-! What has an encoding. -/

theorem bind_ok_iff {ε α β : Type} (x : Except ε α) (f : α → β) :
    (∃ b, (x.bind fun a => .ok (f a)) = .ok b) ↔ ∃ a, x = .ok a := by
  cases x <;> simp [Except.bind]

theorem Options.encodes_iff (options : Options) :
    (∃ value, options.encode = .ok value) ↔ options.textFile.IsUtf8 :=
  (bind_ok_iff _ _).trans options.textFile.encodes_iff

theorem FileReport.encodes_iff (file : FileReport) :
    (∃ value, file.encode = .ok value) ↔ file.font.path.IsUtf8 :=
  (bind_ok_iff _ _).trans file.font.path.encodes_iff

theorem encodeFiles_eq_ok_iff {files : List FileReport} {values : List Value} :
    encodeFiles files = .ok values ↔
      List.Forall₂ (fun file value => file.encode = .ok value) files values := by
  induction files generalizing values with
  | nil => simp [encodeFiles, eq_comm]
  | cons file rest ih =>
    rw [List.forall₂_cons_left_iff]
    constructor
    · intro h
      obtain ⟨value, first, h⟩ := bind_eq_ok.mp h
      obtain ⟨values, others, ⟨⟩⟩ := bind_eq_ok.mp h
      exact ⟨value, values, first, ih.mp others, rfl⟩
    · rintro ⟨value, values, first, others, rfl⟩
      exact bind_eq_ok.mpr ⟨value, first, bind_eq_ok.mpr ⟨values, ih.mpr others, rfl⟩⟩

theorem exists_forall₂_iff {α β : Type} {R : α → β → Prop} {l : List α} :
    (∃ l', List.Forall₂ R l l') ↔ ∀ a ∈ l, ∃ b, R a b := by
  induction l with
  | nil => simp
  | cons a rest ih =>
    rw [List.forall_mem_cons, ← ih]
    simp only [List.forall₂_cons_left_iff]
    constructor
    · rintro ⟨_, b, l, first, others, -⟩
      exact ⟨⟨b, first⟩, l, others⟩
    · rintro ⟨⟨b, first⟩, l, others⟩
      exact ⟨_, b, l, first, others, rfl⟩

theorem encodeFiles_ok_iff (files : List FileReport) :
    (∃ values, encodeFiles files = .ok values) ↔ ∀ file ∈ files, file.font.path.IsUtf8 := by
  simp only [encodeFiles_eq_ok_iff, ← FileReport.encodes_iff]
  exact exists_forall₂_iff

theorem Report.encodes_iff (report : Report) :
    (∃ value, report.encode = .ok value) ↔ ∀ file ∈ report.files, file.font.path.IsUtf8 :=
  (bind_ok_iff _ _).trans (encodeFiles_ok_iff report.files)

/-! What was read. -/

theorem decodePath_isUtf8 {draft : Draft} {path : Path} (h : decodePath draft = .ok path) :
    path.IsUtf8 := by
  obtain ⟨text, -, rfl⟩ := map_eq_ok.mp h
  exact ⟨text, rfl⟩

theorem Font.decode_isUtf8 {draft : Draft} {font : Font} (h : decode draft = .ok font) :
    font.path.IsUtf8 := by
  obtain ⟨path, read, rfl⟩ := map_eq_ok.mp h
  exact decodePath_isUtf8 read

theorem Options.decode_isUtf8 {depth : Nat} {draft : Draft} {options : Options}
    (h : decode depth draft = .ok options) : options.textFile.IsUtf8 := by
  cases draft with
  | object members closed =>
    obtain ⟨depth, -, h⟩ := bind_eq_ok.mp h
    obtain ⟨fields, filled, h⟩ := bind_eq_ok.mp h
    obtain ⟨flavor, -, h⟩ := bind_eq_ok.mp h
    obtain ⟨zopfli, -, h⟩ := bind_eq_ok.mp h
    obtain ⟨path, found, ⟨⟩⟩ := bind_eq_ok.mp h
    have decoded : ∃ value, decodePath value = .ok path := by
      refine fillFromDraft_field ?_ filled rfl (required_eq_ok.mp found)
      grind [OptionFields.slots, map_eq_ok]
    exact decodePath_isUtf8 decoded.choose_spec
  | array items closed =>
    obtain ⟨depth, -, h⟩ := bind_eq_ok.mp h
    obtain ⟨first, -, h⟩ := bind_eq_ok.mp h
    obtain ⟨flavor, -, h⟩ := bind_eq_ok.mp h
    obtain ⟨second, -, h⟩ := bind_eq_ok.mp h
    obtain ⟨zopfli, -, h⟩ := bind_eq_ok.mp h
    obtain ⟨third, -, h⟩ := bind_eq_ok.mp h
    obtain ⟨path, read, h⟩ := bind_eq_ok.mp h
    obtain ⟨-, -, ⟨⟩⟩ := bind_eq_ok.mp h
    exact decodePath_isUtf8 read
  | broken | null | bool => cases h
  | number | text => exact absurd h (Draft.refuse_ne_ok _ _ _)

theorem FileReport.decode_isUtf8 {depth : Nat} {draft : Draft} {file : FileReport}
    (h : decode depth draft = .ok file) : file.font.path.IsUtf8 := by
  cases draft with
  | object members closed =>
    obtain ⟨depth, -, h⟩ := bind_eq_ok.mp h
    obtain ⟨fields, filled, h⟩ := bind_eq_ok.mp h
    obtain ⟨font, found, h⟩ := bind_eq_ok.mp h
    obtain ⟨outcome, -, h⟩ := bind_eq_ok.mp h
    obtain ⟨duration, -, ⟨⟩⟩ := bind_eq_ok.mp h
    have decoded : ∃ value, Font.decode value = .ok font := by
      refine fillFromDraft_field ?_ filled rfl (required_eq_ok.mp found)
      grind [FileFields.slots, map_eq_ok]
    exact Font.decode_isUtf8 decoded.choose_spec
  | array items closed =>
    obtain ⟨depth, -, h⟩ := bind_eq_ok.mp h
    obtain ⟨first, -, h⟩ := bind_eq_ok.mp h
    obtain ⟨font, read, h⟩ := bind_eq_ok.mp h
    obtain ⟨second, -, h⟩ := bind_eq_ok.mp h
    obtain ⟨outcome, -, h⟩ := bind_eq_ok.mp h
    obtain ⟨third, -, h⟩ := bind_eq_ok.mp h
    obtain ⟨duration, -, h⟩ := bind_eq_ok.mp h
    obtain ⟨-, -, ⟨⟩⟩ := bind_eq_ok.mp h
    exact Font.decode_isUtf8 read
  | broken | null | bool => cases h
  | number | text => exact absurd h (Draft.refuse_ne_ok _ _ _)

theorem decodeItems_eq_ok_iff {α : Type} {decode : Draft → Decoded α} {items : List Draft}
    {decoded : List α} :
    decodeItems decode items = .ok decoded ↔
      List.Forall₂ (fun item a => decode item = .ok a) items decoded := by
  induction items generalizing decoded with
  | nil => simp [decodeItems, eq_comm]
  | cons item rest ih =>
    rw [List.forall₂_cons_left_iff]
    constructor
    · intro h
      obtain ⟨a, first, h⟩ := bind_eq_ok.mp h
      obtain ⟨others, following, ⟨⟩⟩ := bind_eq_ok.mp h
      exact ⟨a, others, first, ih.mp following, rfl⟩
    · rintro ⟨a, others, first, following, rfl⟩
      exact bind_eq_ok.mpr ⟨a, first, bind_eq_ok.mpr ⟨others, ih.mpr following, rfl⟩⟩

theorem decodeItems_ok_iff {α : Type} {decode : Draft → Decoded α} {items : List Draft} :
    (∃ decoded, decodeItems decode items = .ok decoded) ↔
      ∀ item ∈ items, ∃ a, decode item = .ok a := by
  simp only [decodeItems_eq_ok_iff]
  exact exists_forall₂_iff

theorem decodeFiles_isUtf8 {depth : Nat} {draft : Draft} {files : List FileReport}
    (h : decodeFiles depth draft = .ok files) : ∀ file ∈ files, file.font.path.IsUtf8 := by
  cases draft with
  | array items closed =>
    obtain ⟨depth, -, h⟩ := bind_eq_ok.mp h
    obtain ⟨decoded, read, h⟩ := bind_eq_ok.mp h
    split_ifs at h
    cases h
    have each := (decodeItems_eq_ok_iff.mp read).flip.imp fun _ _ h =>
      And.intro (FileReport.decode_isUtf8 h) h
    exact ((List.forall₂_and_left _ _).mp each).1
  | broken | null | bool | object => cases h
  | number | text => exact absurd h (Draft.refuse_ne_ok _ _ _)

theorem Report.decode_isUtf8 {depth : Nat} {draft : Draft} {report : Report}
    (h : decode depth draft = .ok report) : ∀ file ∈ report.files, file.font.path.IsUtf8 := by
  cases draft with
  | object members closed =>
    obtain ⟨depth, -, h⟩ := bind_eq_ok.mp h
    obtain ⟨fields, filled, h⟩ := bind_eq_ok.mp h
    obtain ⟨files, found, h⟩ := bind_eq_ok.mp h
    obtain ⟨dryRun, -, ⟨⟩⟩ := bind_eq_ok.mp h
    have decoded : ∃ value, decodeFiles depth value = .ok files := by
      refine fillFromDraft_field ?_ filled rfl (required_eq_ok.mp found)
      grind [ReportFields.slots, map_eq_ok]
    exact decodeFiles_isUtf8 decoded.choose_spec
  | array items closed =>
    obtain ⟨depth, -, h⟩ := bind_eq_ok.mp h
    obtain ⟨first, -, h⟩ := bind_eq_ok.mp h
    obtain ⟨files, read, h⟩ := bind_eq_ok.mp h
    obtain ⟨second, -, h⟩ := bind_eq_ok.mp h
    obtain ⟨dryRun, -, h⟩ := bind_eq_ok.mp h
    obtain ⟨-, -, ⟨⟩⟩ := bind_eq_ok.mp h
    exact decodeFiles_isUtf8 read
  | broken | null | bool => cases h
  | number | text => exact absurd h (Draft.refuse_ne_ok _ _ _)

end FontSubset
