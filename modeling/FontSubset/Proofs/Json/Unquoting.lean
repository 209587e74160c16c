import FontSubset.Proofs.Json.Writing
/-! How a text that was read stood in its source. The reader takes no text that is not spelled in
quotes, so the ways to write a text are just those that the grammar has. -/
namespace FontSubset.Json

/-! Digits and short escapes. -/

theorem isHexDigit_of_hexValue? {n : Nat} {c : Char} (h : Token.hexValue? c = some n) :
    IsHexDigit n c := by
  rw [← Char.ofNat_toNat c]
  unfold Token.hexValue? at h
  simp only [Char.le_def, UInt32.le_iff_toNat_le, Char.toNat_val, Char.reduceToNat] at h
  generalize c.toNat = code at h ⊢
  unfold IsHexDigit
  split_ifs at h with digit small capital
  all_goals cases h
  · obtain ⟨low, high⟩ := digit
    interval_cases code <;> decide
  · obtain ⟨low, high⟩ := small
    interval_cases code <;> decide
  · obtain ⟨low, high⟩ := capital
    interval_cases code <;> decide

theorem spellsHex_of_hex4? {n : Nat} {a b c d : Char} (h : Token.hex4? a b c d = some n) :
    SpellsHex n [a, b, c, d] := by
  unfold Token.hex4? at h
  simp only [Option.bind_eq_bind, Option.bind_eq_some_iff, Option.pure_def] at h
  obtain ⟨p, first, q, second, r, third, s, fourth, ⟨⟩⟩ := h
  exact .four (isHexDigit_of_hexValue? first) (isHexDigit_of_hexValue? second)
    (isHexDigit_of_hexValue? third) (isHexDigit_of_hexValue? fourth)

theorem SpellsHex.lt {n : Nat} {digits : List Char} (h : SpellsHex n digits) : n < 0x10000 := by
  cases h with
  | four first second third fourth =>
    have := first.1
    have := second.1
    have := third.1
    have := fourth.1
    omega

theorem mem_shortEscapes_of_escaped? {letter c : Char} (h : Token.escaped? letter = some c) :
    (letter, c) ∈ shortEscapes := by
  unfold Token.escaped? at h
  split_ifs at h with self b f n r t
  all_goals cases h
  · obtain rfl | rfl | rfl := self <;> decide
  all_goals
    subst letter
    decide

/-! Units. -/

/-- The ways to write a unit: those of its character, or the code of a half. -/
inductive SpellsUnit : Token.CodeUnit → List Char → Prop
  | char {c : Char} {front : List Char} (h : SpellsChar c front) : SpellsUnit (.char c) front
  | half {n : Nat} {digits : List Char} (h : SpellsHex n digits) :
    SpellsUnit (.half n) ('\\' :: 'u' :: digits)

inductive SpellsUnits : List Token.CodeUnit → List Char → Prop
  | nil : SpellsUnits [] []
  | cons {unit : Token.CodeUnit} {rest : List Token.CodeUnit} {front back : List Char}
    (first : SpellsUnit unit front) (others : SpellsUnits rest back) :
    SpellsUnits (unit :: rest) (front ++ back)

theorem spellsUnit_ofNat {n : Nat} {digits : List Char} (h : SpellsHex n digits) :
    SpellsUnit (Token.CodeUnit.ofNat n) ('\\' :: 'u' :: digits) := by
  have small := h.lt
  unfold Token.CodeUnit.ofNat
  split_ifs with half
  · exact .half h
  · apply SpellsUnit.char
    apply SpellsChar.code
    have valid : n.isValidChar := by
      simp only [Token.isHighSurrogate, Token.isLowSurrogate, Bool.or_eq_true, Bool.and_eq_true,
        decide_eq_true_eq] at half
      unfold Nat.isValidChar
      omega
    rwa [Char.toNat_ofNat, if_pos valid]

theorem spellsChar_of_halves {high low : Nat} {front back : List Char}
    (first : SpellsHex high front) (second : SpellsHex low back)
    (halves : (Token.isHighSurrogate high && Token.isLowSurrogate low) = true) :
    SpellsChar (Char.ofNat (0x10000 + (high - 0xD800) * 0x400 + (low - 0xDC00)))
      ('\\' :: 'u' :: front ++ '\\' :: 'u' :: back) := by
  simp only [Token.isHighSurrogate, Token.isLowSurrogate, Bool.and_eq_true,
    decide_eq_true_eq] at halves
  obtain ⟨⟨high_ge, high_le⟩, low_ge, low_le⟩ := halves
  generalize code : 0x10000 + (high - 0xD800) * 0x400 + (low - 0xDC00) = n
  have valid : n.isValidChar := by
    unfold Nat.isValidChar
    omega
  have whole : (Char.ofNat n).toNat = n := by rw [Char.toNat_ofNat, if_pos valid]
  apply SpellsChar.halves
  · omega
  · rwa [whole, show 0xD800 + (n - 0x10000) / 0x400 = high by omega]
  · rwa [whole, show 0xDC00 + (n - 0x10000) % 0x400 = low by omega]

/-- What is read as units up to a quote is a spelling of them. -/
theorem spellsUnits_of_units? {chars rest : List Char} {units : List Token.CodeUnit}
    (h : Token.units? chars = some (units, rest)) :
    ∃ inner, chars = inner ++ '"' :: rest ∧ SpellsUnits units inner := by
  -- The closing quote, an escape by code, one by letter, and a character that stands for itself;
  -- the other two cases read nothing.
  fun_induction Token.units? chars generalizing units rest with
  | case1 =>
    cases h
    exact ⟨[], rfl, .nil⟩
  | case2 a b c d chars ih =>
    simp only [Option.bind_eq_bind, Option.bind_eq_some_iff, Option.pure_def] at h
    obtain ⟨n, code, ⟨more, after⟩, further, ⟨⟩⟩ := h
    obtain ⟨inner, rfl, others⟩ := ih further
    exact ⟨_, rfl, .cons (spellsUnit_ofNat (spellsHex_of_hex4? code)) others⟩
  | case3 c chars _ ih =>
    simp only [Option.bind_eq_bind, Option.bind_eq_some_iff, Option.pure_def] at h
    obtain ⟨meant, escaped, ⟨more, after⟩, further, ⟨⟩⟩ := h
    obtain ⟨inner, rfl, others⟩ := ih further
    exact ⟨_, rfl, .cons (.char (.short (mem_shortEscapes_of_escaped? escaped))) others⟩
  | case4 => cases h
  | case5 c chars quote _ _ plain ih =>
    simp only [Option.bind_eq_bind, Option.bind_eq_some_iff, Option.pure_def] at h
    obtain ⟨⟨more, after⟩, further, ⟨⟩⟩ := h
    obtain ⟨inner, rfl, others⟩ := ih further
    obtain ⟨backslash, visible⟩ := not_or.mp plain
    exact ⟨_, rfl, .cons (.char (.plain (not_lt.mp visible) quote backslash)) others⟩
  | case6 => cases h

/-- Halves that pair up spell the character that they are halves of. -/
theorem SpellsUnits.paired {units : List Token.CodeUnit} {inner content : List Char}
    (h : SpellsUnits units inner) (paired : Token.paired? units = some content) :
    SpellsChars content inner := by
  fun_induction Token.paired? units generalizing inner content with
  | case1 =>
    cases h
    cases paired
    exact .nil
  | case2 c rest ih =>
    obtain ⟨others, pairs, rfl⟩ := Option.map_eq_some_iff.mp paired
    rcases h with - | ⟨⟨first⟩, back⟩
    exact .cons first (ih back pairs)
  | case3 high low rest halves ih =>
    obtain ⟨others, pairs, rfl⟩ := Option.map_eq_some_iff.mp paired
    rcases h with - | ⟨- | first, - | ⟨- | second, back⟩⟩
    have spelled := SpellsChars.cons (spellsChar_of_halves first second halves) (ih back pairs)
    simpa using spelled
  | case4 => cases paired
  | case5 => cases paired

theorem spellsText_of_text? {chars rest : List Char} {s : String}
    (h : Token.text? chars = some (.text (some s), rest)) :
    ∃ front, '"' :: chars = front ++ rest ∧ SpellsText s front := by
  obtain ⟨⟨units, after⟩, read, h⟩ := Option.map_eq_some_iff.mp h
  simp only [Prod.mk.injEq, Token.text.injEq, Option.map_eq_some_iff] at h
  obtain ⟨⟨content, paired, rfl⟩, rfl⟩ := h
  obtain ⟨inner, rfl, spelled⟩ := spellsUnits_of_units? read
  refine ⟨'"' :: (inner ++ ['"']), by simp, inner, ?_, rfl⟩
  rw [String.toList_ofList]
  exact spelled.paired paired

/-! Whole sources. -/

theorem isSpace_iff {c : Char} :
    Token.isSpace c = true ↔ c = ' ' ∨ c = '\n' ∨ c = '\t' ∨ c = '\r' := by
  simp [Token.isSpace, or_assoc]

theorem isBlank_of_ofChars {chars : List Char} (h : Token.ofChars chars = []) : IsBlank chars := by
  induction chars with
  | nil => exact nofun
  | cons c rest ih =>
    rw [Token.ofChars_cons] at h
    split_ifs at h with space
    · exact List.forall_mem_cons.mpr ⟨isSpace_iff.mp space, ih h⟩
    · split at h <;> cases h

theorem unsigned?_ne_text {negative : Bool} {chars rest : List Char} {content : Option String} :
    Token.unsigned? negative chars ≠ some (.text content, rest) := by
  intro h
  unfold Token.unsigned? at h
  split at h
  split_ifs at h
  simp only [Option.bind_eq_bind, Option.bind_eq_some_iff, Option.pure_def] at h
  obtain ⟨-, -, -, -, ⟨⟩⟩ := h

/-- Only a quote begins a text. -/
theorem text?_of_next? {c : Char} {chars rest : List Char} {content : Option String}
    (h : Token.next? c chars = some (.text content, rest)) :
    c = '"' ∧ Token.text? chars = some (.text content, rest) := by
  have word_ne {word : Token} {letters : List Char} (other : word ≠ .text content) :
      Token.word? word letters chars ≠ some (.text content, rest) := by
    intro h
    unfold Token.word? at h
    split_ifs at h
    exact other (Prod.mk.inj (Option.some.inj h)).1
  unfold Token.next? at h
  split at h
  case h_7 => exact ⟨rfl, h⟩
  case h_8 | h_9 | h_10 => exact absurd h (word_ne Token.noConfusion)
  case h_11 => exact absurd h unsigned?_ne_text
  case h_12 =>
    split_ifs at h
    exact absurd h unsigned?_ne_text
  all_goals cases h

/-- A source that is cut into a text and nothing else. -/
theorem spellsPadded_of_ofChars {chars : List Char} {s : String}
    (h : Token.ofChars chars = [.text (some s)]) : SpellsPadded (.text s) chars := by
  induction chars with
  | nil => cases h
  | cons c rest ih =>
    rw [Token.ofChars_cons] at h
    split_ifs at h with space
    · have blank : IsBlank [c] := List.forall_mem_singleton.mpr (isSpace_iff.mp space)
      exact (ih h).after_blank blank
    · split at h
      · rename_i token after next
        obtain ⟨rfl, ended⟩ := List.cons.inj h
        obtain ⟨rfl, read⟩ := text?_of_next? next
        obtain ⟨front, split, spelled⟩ := spellsText_of_text? read
        rw [split]
        exact (Spells.text spelled).padded.before_blank (isBlank_of_ofChars ended)
      · cases h

theorem Draft.ofTokens_eq_text {steps : Nat} {tokens : List Token} {content : Option String}
    (h : ofTokens steps tokens = (text content, [])) : tokens = [.text content] := by
  cases steps with
  | zero => cases h
  | succ steps =>
    unfold ofTokens at h
    split at h <;> cases h
    rfl

/-- The sources that are read as a text are those that spell it. -/
theorem Draft.read_eq_text_iff {source : String} {s : String} :
    Draft.read source = (.text (some s), true) ↔ SpellsPadded (.text s) source.toList := by
  refine ⟨fun h => ?_, SpellsPadded.read⟩
  simp only [read, Prod.mk.injEq, List.isEmpty_iff] at h
  obtain ⟨draft, ended⟩ := h
  exact spellsPadded_of_ofChars (ofTokens_eq_text (Prod.ext draft ended))

end FontSubset.Json
