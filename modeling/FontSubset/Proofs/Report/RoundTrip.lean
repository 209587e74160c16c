import FontSubset.Proofs.Report.Reading
/-! Encoding loses nothing. What has an encoding is read back from it as it was, in either
layout, and what was read has an encoding. -/
namespace FontSubset
open Json

/-- A kind of value as JSON, and the paths in it. -/
structure Format (α : Type) where
  encode : α → Encoded
  decode : Draft → Decoded α
  paths : α → List Path

namespace Format

variable {α : Type}

/-- The laws of a format between values and drafts. Numbers are plain, so that they keep
their spelling. -/
structure Faithful (format : Format α) : Prop where
  plain : ∀ {a value}, format.encode a = .ok value → value.Plain
  decode_draft : ∀ {a value}, format.encode a = .ok value → format.decode value.draft = .ok a
  encodes_iff : ∀ a, (∃ value, format.encode a = .ok value) ↔
    ∀ path ∈ format.paths a, path.IsUtf8
  decoded : ∀ {a draft}, format.decode draft = .ok a → ∀ path ∈ format.paths a, path.IsUtf8

end Format

/-! The formats, each for what stands less than `depth` deep. -/

def Font.format : Format Font := ⟨encode, decode, fun font => [font.path]⟩

def Options.format (depth : Nat) : Format Options :=
  ⟨encode, decode depth, fun options => [options.textFile]⟩

def Outcome.format (depth : Nat) : Format Outcome := ⟨.ok ∘ encode, decode depth, fun _ => []⟩

def FileReport.format (depth : Nat) : Format FileReport :=
  ⟨encode, decode depth, fun file => [file.font.path]⟩

def Report.format (depth : Nat) : Format Report :=
  ⟨encode, decode depth, fun report => report.files.map (·.font.path)⟩

theorem Font.faithful : format.Faithful where
  plain := plain_encode
  decode_draft := decode_draft
  encodes_iff font := (Path.encodes_iff font.path).trans List.forall_mem_singleton.symm
  decoded h := List.forall_mem_singleton.mpr (decode_isUtf8 h)

theorem Options.faithful {depth : Nat} (deep : 1 < depth) : (format depth).Faithful where
  plain := plain_encode
  decode_draft := decode_draft deep
  encodes_iff options := options.encodes_iff.trans List.forall_mem_singleton.symm
  decoded h := List.forall_mem_singleton.mpr (decode_isUtf8 h)

theorem Outcome.faithful {depth : Nat} (deep : 1 < depth) : (format depth).Faithful where
  plain {outcome value} h := by
    cases h
    exact plain_encode outcome
  decode_draft {outcome value} h := by
    cases h
    exact decode_draft deep outcome
  encodes_iff outcome := iff_of_true ⟨_, rfl⟩ nofun
  decoded _ := nofun

theorem FileReport.faithful {depth : Nat} (deep : 2 < depth) : (format depth).Faithful where
  plain := plain_encode
  decode_draft := decode_draft deep
  encodes_iff file := file.encodes_iff.trans List.forall_mem_singleton.symm
  decoded h := List.forall_mem_singleton.mpr (decode_isUtf8 h)

theorem Report.faithful {depth : Nat} (deep : 4 < depth) : (format depth).Faithful where
  plain := plain_encode
  decode_draft := decode_draft deep
  encodes_iff report := report.encodes_iff.trans List.forall_mem_map.symm
  decoded h := List.forall_mem_map.mpr (decode_isUtf8 h)

/-- One line without blanks, or a line a member. -/
inductive Layout
  | compact
  | pretty

def Layout.write : Layout → Value → String
  | compact => Value.write
  | pretty => Value.writePretty

namespace Format

variable {α : Type} (format : Format α)

def text (layout : Layout) (a : α) : Except EncodeError String :=
  (format.encode a).map layout.write

def read (source : String) : Decoded α := decodeText format.decode source

/-- The laws of a format between values and texts. -/
structure Lossless : Prop where
  writes_iff : ∀ layout a,
    (∃ source, format.text layout a = .ok source) ↔ ∀ path ∈ format.paths a, path.IsUtf8
  reads_back : ∀ layout a source, format.text layout a = .ok source →
    format.read source = .ok a
  writes_again : ∀ source a, format.read source = .ok a → ∀ layout,
    ∃ again, format.text layout a = .ok again ∧ format.read again = .ok a

variable {format}

theorem Faithful.read_write (faithful : format.Faithful) {a : α} {value : Value}
    (h : format.encode a = .ok value) (layout : Layout) :
    format.read (layout.write value) = .ok a := by
  have whole : Draft.read (layout.write value) = (value.draft, true) := by
    cases layout with
    | compact => exact Value.read_write (faithful.plain h)
    | pretty => exact Value.read_writePretty (faithful.plain h)
  rw [read, decodeText, whole]
  simp only [faithful.decode_draft h]
  rfl

theorem Faithful.lossless (faithful : format.Faithful) : format.Lossless where
  writes_iff layout a := by
    rw [← faithful.encodes_iff]
    constructor
    · rintro ⟨source, h⟩
      obtain ⟨value, encoded, -⟩ := map_eq_ok.mp h
      exact ⟨value, encoded⟩
    · rintro ⟨value, encoded⟩
      exact ⟨_, map_eq_ok.mpr ⟨value, encoded, rfl⟩⟩
  reads_back layout a source h := by
    obtain ⟨value, encoded, rfl⟩ := map_eq_ok.mp h
    exact faithful.read_write encoded layout
  writes_again source a h layout := by
    obtain ⟨decoded, read, h⟩ := bind_eq_ok.mp h
    split_ifs at h
    cases h
    obtain ⟨value, encoded⟩ := (faithful.encodes_iff a).mpr (faithful.decoded read)
    exact ⟨_, map_eq_ok.mpr ⟨value, encoded, rfl⟩, faithful.read_write encoded layout⟩

end Format

/-- Reports, their lines, outcomes, fonts and options are written in both layouts just when
their paths are UTF-8, and then read back as they were. -/
theorem formats_lossless :
    (Report.format depthLimit).Lossless ∧ (FileReport.format depthLimit).Lossless ∧
      (Outcome.format depthLimit).Lossless ∧ Font.format.Lossless ∧
      (Options.format depthLimit).Lossless :=
  ⟨(Report.faithful (by decide)).lossless, (FileReport.faithful (by decide)).lossless,
    (Outcome.faithful (by decide)).lossless, Font.faithful.lossless,
    (Options.faithful (by decide)).lossless⟩

example : Font.format.text .compact ⟨⟨[0xFF]⟩⟩ = .error .pathNotUtf8 := rfl

end FontSubset
