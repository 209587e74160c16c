import FontSubset.Proofs.Json.Lexing
/-! Texts in quotes. A character stands for itself or is escaped, by a letter or by its code,
and however a text is written, it is one token. -/
namespace FontSubset.Json

def IsHexDigit (n : Nat) (c : Char) : Prop := n < 16 ∧ (c = n.digitChar ∨ c = n.digitChar.toUpper)

/-- Four hexadecimal digits, in either case. -/
inductive SpellsHex : Nat → List Char → Prop
  | four {p q r s : Nat} {a b c d : Char} (first : IsHexDigit p a) (second : IsHexDigit q b)
      (third : IsHexDigit r c) (fourth : IsHexDigit s d) :
    SpellsHex (((p * 16 + q) * 16 + r) * 16 + s) [a, b, c, d]

def shortEscapes : List (Char × Char) :=
  [('"', '"'), ('\\', '\\'), ('/', '/'), ('b', '\x08'), ('f', '\x0c'), ('n', '\n'), ('r', '\r'),
    ('t', '\t')]

/-- The ways to write a character inside quotes. Beyond 16 bits it has two escapes, one for
each half. -/
inductive SpellsChar (c : Char) : List Char → Prop
  | plain (visible : 0x20 ≤ c.toNat) (quote : c ≠ '"') (backslash : c ≠ '\\') : SpellsChar c [c]
  | short {letter : Char} (means : (letter, c) ∈ shortEscapes) : SpellsChar c ['\\', letter]
  | code {digits : List Char} (code : SpellsHex c.toNat digits) :
    SpellsChar c ('\\' :: 'u' :: digits)
  | halves {high low : List Char} (beyond : 0x10000 ≤ c.toNat)
      (first : SpellsHex (0xD800 + (c.toNat - 0x10000) / 0x400) high)
      (second : SpellsHex (0xDC00 + (c.toNat - 0x10000) % 0x400) low) :
    SpellsChar c ('\\' :: 'u' :: high ++ '\\' :: 'u' :: low)

inductive SpellsChars : List Char → List Char → Prop
  | nil : SpellsChars [] []
  | cons {c : Char} {rest front back : List Char} (first : SpellsChar c front)
      (others : SpellsChars rest back) : SpellsChars (c :: rest) (front ++ back)

def SpellsText (s : String) (chars : List Char) : Prop :=
  ∃ inner, SpellsChars s.toList inner ∧ chars = '"' :: (inner ++ ['"'])

end FontSubset.Json

namespace FontSubset.Json.Token

/-! Escapes by a letter and by a code. -/

theorem units?_plain {c : Char} (rest : List Char) (quote : c ≠ '"') (backslash : c ≠ '\\')
    (visible : 0x20 ≤ c.toNat) :
    units? (c :: rest) = (units? rest).map fun (units, after) => (.char c :: units, after) := by
  rw [units?.eq_4 _ _ quote (fun _ _ _ _ _ h => absurd h backslash)
    (fun _ _ h => absurd h backslash), if_neg (by simp [backslash, visible])]
  cases units? rest <;> rfl

theorem units?_escaped {c d : Char} (rest : List Char) (letter : c ≠ 'u')
    (means : escaped? c = some d) :
    units? ('\\' :: c :: rest) =
      (units? rest).map fun (units, after) => (.char d :: units, after) := by
  rw [units?.eq_3 _ _ (fun _ _ _ _ _ h => absurd h letter), means]
  cases units? rest <;> rfl

theorem hexValue?_of_isHexDigit {n : Nat} {c : Char} (h : IsHexDigit n c) :
    hexValue? c = some n := by
  obtain ⟨small, rfl | rfl⟩ := h <;> interval_cases n <;> decide

theorem hex4?_of_spellsHex {n : Nat} {a b c d : Char} (h : SpellsHex n [a, b, c, d]) :
    hex4? a b c d = some n := by
  cases h with
  | four first second third fourth =>
    simp only [hex4?, hexValue?_of_isHexDigit first, hexValue?_of_isHexDigit second,
      hexValue?_of_isHexDigit third, hexValue?_of_isHexDigit fourth, Option.bind_eq_bind,
      Option.bind_some, Option.pure_def]

theorem units?_code {n : Nat} {digits : List Char} (h : SpellsHex n digits) (rest : List Char) :
    units? ('\\' :: 'u' :: (digits ++ rest)) =
      (units? rest).map fun (units, after) => (CodeUnit.ofNat n :: units, after) := by
  obtain ⟨a, b, c, d, rfl⟩ : ∃ a b c d, digits = [a, b, c, d] := by
    cases h
    exact ⟨_, _, _, _, rfl⟩
  simp only [List.cons_append, List.nil_append, units?, hex4?_of_spellsHex h]
  cases units? rest <;> rfl

theorem escaped?_of_mem {letter c : Char} (h : (letter, c) ∈ shortEscapes) :
    escaped? letter = some c ∧ letter ≠ 'u' := by
  have all : ∀ pair ∈ shortEscapes, escaped? pair.1 = some pair.2 ∧ pair.1 ≠ 'u' := by decide
  exact all _ h

theorem codeUnit_ofNat_toNat (c : Char) : CodeUnit.ofNat c.toNat = .char c := by
  have scalar : c.toNat < 0xD800 ∨ 0xDFFF < c.toNat ∧ c.toNat < 0x110000 := c.valid
  rw [CodeUnit.ofNat, if_neg, Char.ofNat_toNat]
  simp only [isHighSurrogate, isLowSurrogate, Bool.or_eq_true, Bool.and_eq_true, decide_eq_true_eq]
  omega

theorem codeUnit_ofNat_high {n : Nat} (small : n < 0x400) :
    CodeUnit.ofNat (0xD800 + n) = .half (0xD800 + n) := by
  refine if_pos ?_
  simp only [isHighSurrogate, Bool.or_eq_true, Bool.and_eq_true, decide_eq_true_eq]
  omega

theorem codeUnit_ofNat_low {n : Nat} (small : n < 0x400) :
    CodeUnit.ofNat (0xDC00 + n) = .half (0xDC00 + n) := by
  refine if_pos ?_
  simp only [isLowSurrogate, Bool.or_eq_true, Bool.and_eq_true, decide_eq_true_eq]
  omega

theorem paired?_halves {high low : Nat} (first : high < 0x400) (second : low < 0x400)
    (more : List CodeUnit) :
    paired? (.half (0xD800 + high) :: .half (0xDC00 + low) :: more) =
      (paired? more).map (Char.ofNat (0x10000 + high * 0x400 + low) :: ·) := by
  have matching : (isHighSurrogate (0xD800 + high) && isLowSurrogate (0xDC00 + low)) = true := by
    simp only [isHighSurrogate, isLowSurrogate, Bool.and_eq_true, decide_eq_true_eq]
    omega
  rw [paired?, if_pos matching, Nat.add_sub_cancel_left, Nat.add_sub_cancel_left]

/-- However a character is written, its units are read as the character. -/
theorem units?_spellsChar {c : Char} {front : List Char} (h : SpellsChar c front) :
    ∃ units, (∀ rest, units? (front ++ rest) =
        (units? rest).map fun (more, after) => (units ++ more, after)) ∧
      ∀ more, paired? (units ++ more) = (paired? more).map (c :: ·) := by
  cases h with
  | plain visible quote backslash =>
    exact ⟨[.char c], fun rest => units?_plain rest quote backslash visible, fun more => rfl⟩
  | short means =>
    obtain ⟨means, letter⟩ := escaped?_of_mem means
    exact ⟨[.char c], fun rest => units?_escaped rest letter means, fun more => rfl⟩
  | code code =>
    refine ⟨[.char c], fun rest => ?_, fun more => rfl⟩
    rw [← codeUnit_ofNat_toNat c]
    exact units?_code code rest
  | @halves high low beyond first second =>
    have top : c.toNat < 0xD800 ∨ 0xDFFF < c.toNat ∧ c.toNat < 0x110000 := c.valid
    generalize offset : c.toNat - 0x10000 = n at first second
    have inHigh : n / 0x400 < 0x400 := by omega
    have inLow : n % 0x400 < 0x400 := Nat.mod_lt _ (by decide)
    refine ⟨[.half (0xD800 + n / 0x400), .half (0xDC00 + n % 0x400)],
      fun rest => ?_, fun more => ?_⟩
    · rw [← codeUnit_ofNat_high inHigh, ← codeUnit_ofNat_low inLow]
      simp only [List.cons_append, List.append_assoc, units?_code first, units?_code second]
      cases units? rest <;> rfl
    · have whole : 0x10000 + n / 0x400 * 0x400 + n % 0x400 = c.toNat := by omega
      refine (paired?_halves inHigh inLow more).trans ?_
      rw [whole, Char.ofNat_toNat]

theorem units?_spellsChars {content chars : List Char} (h : SpellsChars content chars) :
    ∃ units, (∀ rest, units? (chars ++ '"' :: rest) = some (units, rest)) ∧
      paired? units = some content := by
  induction h with
  | nil => exact ⟨[], fun rest => rfl, rfl⟩
  | cons first others ih =>
    obtain ⟨front, readFront, pairFront⟩ := units?_spellsChar first
    obtain ⟨back, readBack, pairBack⟩ := ih
    refine ⟨front ++ back, fun rest => ?_, ?_⟩
    · rw [List.append_assoc, readFront, readBack]
      rfl
    · rw [pairFront, pairBack]
      rfl

theorem lexes_spellsText {s : String} {chars : List Char} (h : SpellsText s chars) :
    Lexes chars [text (some s)] := by
  obtain ⟨inner, spelled, rfl⟩ := h
  obtain ⟨units, read, paired⟩ := units?_spellsChars spelled
  refine Lexes.single _ (fun rest _ => ?_) rfl
  show text? _ = _
  rw [text?, List.append_assoc, List.singleton_append, read, Option.map_some]
  simp only [paired, Option.map_some, String.ofList_toList]

end FontSubset.Json.Token

namespace FontSubset.Json

/-! The way that is chosen for writing. -/

theorem spellsHex_control {n : Nat} (control : n < 0x20) :
    SpellsHex n ['0', '0', Value.hexDigit (n / 16), Value.hexDigit (n % 16)] := by
  have zero : IsHexDigit 0 '0' := ⟨by decide, .inl rfl⟩
  have high : IsHexDigit (n / 16) (Value.hexDigit (n / 16)) := ⟨by omega, .inl rfl⟩
  have low : IsHexDigit (n % 16) (Value.hexDigit (n % 16)) := ⟨by omega, .inl rfl⟩
  have spelled := SpellsHex.four zero zero high low
  rwa [show ((0 * 16 + 0) * 16 + n / 16) * 16 + n % 16 = n by omega] at spelled

theorem spells_escape (c : Char) : SpellsChar c (Value.escape c) := by
  unfold Value.escape
  split_ifs with quoted b f n r t control
  · refine .short ?_
    obtain rfl | rfl := quoted <;> decide
  · exact .short (by rw [b]; decide)
  · exact .short (by rw [f]; decide)
  · exact .short (by rw [n]; decide)
  · exact .short (by rw [r]; decide)
  · exact .short (by rw [t]; decide)
  · exact .code (spellsHex_control control)
  · exact .plain (not_lt.mp control) (not_or.mp quoted).1 (not_or.mp quoted).2

theorem spells_flatMap_escape (chars : List Char) :
    SpellsChars chars (chars.flatMap Value.escape) := by
  induction chars with
  | nil => exact .nil
  | cons c chars ih => exact .cons (spells_escape c) ih

theorem spells_quoted (s : String) : SpellsText s (Value.quoted s) :=
  ⟨_, spells_flatMap_escape s.toList, rfl⟩

end FontSubset.Json
