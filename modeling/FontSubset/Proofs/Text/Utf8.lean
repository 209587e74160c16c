import Mathlib
import FontSubset.Text.Utf8
/-! UTF-8 both ways. Reading loses nothing, so bytes that read as characters throughout are the
spelling of these characters, and the spelling of any text reads back. -/
namespace FontSubset.Text

def Piece.bytes : Piece → Bytes
  | char c => String.utf8EncodeChar c
  | stray bytes => bytes

namespace Utf8State

/-- The bytes behind a state that no piece was made of yet. -/
def seen : Utf8State → Bytes
  | between => []
  | inside _ _ _ _ seen => seen

/-- Whatever may come next, the character that comes out is spelled by the bytes behind and
those to come. -/
def Completes : Nat → UInt8 → UInt8 → Nat → Bytes → Prop
  | 0, low, high, bits, seen => ∀ b, low ≤ b → b ≤ high →
    String.utf8EncodeChar (Char.ofNat (bits * 64 + (b.toNat - 0x80))) = seen ++ [b]
  | owed + 1, low, high, bits, seen => ∀ b, low ≤ b → b ≤ high →
    Completes owed 0x80 0xBF (bits * 64 + (b.toNat - 0x80)) (seen ++ [b])

def Sound : Utf8State → Prop
  | between => True
  | inside owed low high bits seen => Completes owed low high bits seen

theorem toNat_ofNat {n : Nat} (h : n < 0xD800 ∨ 0xDFFF < n ∧ n < 0x110000) :
    (Char.ofNat n).toNat = n := by
  have valid : n.isValidChar := by simpa [Nat.isValidChar] using h
  rw [Char.ofNat, dif_pos valid]
  rfl

/-- The spelling of a code point, by its size. -/
theorem encode_ofNat {n : Nat} (h : n < 0xD800 ∨ 0xDFFF < n ∧ n < 0x110000) :
    String.utf8EncodeChar (Char.ofNat n) =
      if n ≤ 0x7F then [UInt8.ofNat n]
      else if n ≤ 0x7FF then [UInt8.ofNat (n / 64 % 32 + 0xC0), UInt8.ofNat (n % 64 + 0x80)]
      else if n ≤ 0xFFFF then
        [UInt8.ofNat (n / 4096 % 16 + 0xE0), UInt8.ofNat (n / 64 % 64 + 0x80),
          UInt8.ofNat (n % 64 + 0x80)]
      else
        [UInt8.ofNat (n / 262144 % 8 + 0xF0), UInt8.ofNat (n / 4096 % 64 + 0x80),
          UInt8.ofNat (n / 64 % 64 + 0x80), UInt8.ofNat (n % 64 + 0x80)] := by
  simp only [String.utf8EncodeChar, Char.toNat_val, toNat_ofNat h]

theorem byte_eq {n : Nat} {b : UInt8} (h : n = b.toNat) : UInt8.ofNat n = b := by
  rw [h, UInt8.ofNat_toNat]

theorem completes_two {a : UInt8} (low : 0xC2 ≤ a) (high : a ≤ 0xDF) :
    Completes 0 0x80 0xBF (a.toNat - 0xC0) [a] := by
  intro b lowB highB
  simp only [UInt8.le_iff_toNat_le, UInt8.reduceToNat] at low high lowB highB
  rw [encode_ofNat (by omega), if_neg (by omega), if_pos (by omega),
    byte_eq (b := a) (by omega), byte_eq (b := b) (by omega)]
  rfl

/-- Three bytes spell a character if it needs three and is no half of one. -/
theorem completes_three {a low high : UInt8} {bits : Nat} (value : bits + 0xE0 = a.toNat)
    (last : a ≤ 0xEF)
    (lowest : 0x80 ≤ low) (highest : high ≤ 0xBF)
    (needed : a = 0xE0 → 0xA0 ≤ low) (whole : a = 0xED → high ≤ 0x9F) :
    Completes 1 low high bits [a] := by
  intro b lowB highB c lowC highC
  simp only [UInt8.le_iff_toNat_le, UInt8.reduceToNat, ← UInt8.toNat_inj] at *
  rw [encode_ofNat (by omega), if_neg (by omega), if_neg (by omega), if_pos (by omega),
    byte_eq (b := a) (by omega), byte_eq (b := b) (by omega), byte_eq (b := c) (by omega)]
  rfl

/-- Four bytes spell a character if it needs four and is none beyond the last. -/
theorem completes_four {a low high : UInt8} {bits : Nat} (value : bits + 0xF0 = a.toNat)
    (last : a ≤ 0xF4)
    (lowest : 0x80 ≤ low) (highest : high ≤ 0xBF)
    (needed : a = 0xF0 → 0x90 ≤ low) (within : a = 0xF4 → high ≤ 0x8F) :
    Completes 2 low high bits [a] := by
  intro b lowB highB c lowC highC d lowD highD
  simp only [UInt8.le_iff_toNat_le, UInt8.reduceToNat, ← UInt8.toNat_inj] at *
  rw [encode_ofNat (by omega), if_neg (by omega), if_neg (by omega), if_neg (by omega),
    byte_eq (b := a) (by omega), byte_eq (b := b) (by omega), byte_eq (b := c) (by omega),
    byte_eq (b := d) (by omega)]
  rfl

/-- Nothing is lost and the state is sound. -/
structure Keeps (before : Bytes) (after : List Piece × Utf8State) : Prop where
  bytes : after.1.flatMap Piece.bytes ++ after.2.seen = before
  sound : after.2.Sound

/-! What a first byte begins. -/

theorem first_ascii {a : UInt8} (h : a ≤ 0x7F) :
    first a = ([.char (Char.ofNat a.toNat)], between) := by
  rw [first, if_pos h]

theorem first_two {a : UInt8} (low : 0xC2 ≤ a) (high : a ≤ 0xDF) :
    first a = ([], inside 0 0x80 0xBF (a.toNat - 0xC0) [a]) := by
  unfold first
  simp only [UInt8.le_iff_toNat_le, UInt8.lt_iff_toNat_lt, UInt8.reduceToNat] at *
  rw [if_neg (by omega), if_neg (by omega), if_pos high]

/-- The second of three bytes is bound from below after the least first byte, and from above
where halves of characters would be. -/
theorem first_three {a : UInt8} (low : 0xE0 ≤ a) (high : a ≤ 0xEF) :
    first a = ([], inside 1 (if a = 0xE0 then 0xA0 else 0x80) (if a = 0xED then 0x9F else 0xBF)
      (a.toNat - 0xE0) [a]) := by
  unfold first
  simp only [UInt8.le_iff_toNat_le, UInt8.lt_iff_toNat_lt, UInt8.reduceToNat] at *
  rw [if_neg (by omega), if_neg (by omega), if_neg (by omega)]
  split_ifs with e0 ed ed
  · subst e0; cases ed
  · subst e0; rfl
  · subst ed; rfl
  · rfl

/-- The second of four bytes is bound after the least first byte and after the greatest. -/
theorem first_four {a : UInt8} (low : 0xF0 ≤ a) (high : a ≤ 0xF4) :
    first a = ([], inside 2 (if a = 0xF0 then 0x90 else 0x80) (if a = 0xF4 then 0x8F else 0xBF)
      (a.toNat - 0xF0) [a]) := by
  unfold first
  simp only [UInt8.le_iff_toNat_le, UInt8.lt_iff_toNat_lt, UInt8.reduceToNat,
    ← UInt8.toNat_inj] at *
  rw [if_neg (by omega), if_neg (by omega), if_neg (by omega), if_neg (by omega),
    if_neg (by omega), if_neg (by omega)]
  split_ifs <;> first | omega | simp_all

theorem first_stray {a : UInt8} (h : 0x80 ≤ a ∧ a ≤ 0xC1 ∨ 0xF5 ≤ a) :
    first a = ([.stray [a]], between) := by
  unfold first
  simp only [UInt8.le_iff_toNat_le, UInt8.lt_iff_toNat_lt, UInt8.reduceToNat,
    ← UInt8.toNat_inj] at *
  obtain inner | beyond := h
  · rw [if_neg (by omega), if_pos (by omega)]
  · repeat rw [if_neg (by omega)]

theorem first_keeps (b : UInt8) : Keeps [b] (first b) := by
  have kinds : b ≤ 0x7F ∨ 0xC2 ≤ b ∧ b ≤ 0xDF ∨ 0xE0 ≤ b ∧ b ≤ 0xEF ∨ 0xF0 ≤ b ∧ b ≤ 0xF4 ∨
      (0x80 ≤ b ∧ b ≤ 0xC1 ∨ 0xF5 ≤ b) := by
    simp only [UInt8.le_iff_toNat_le, UInt8.reduceToNat]
    omega
  obtain ascii | ⟨low, high⟩ | ⟨low, high⟩ | ⟨low, high⟩ | stray := kinds
  · rw [first_ascii ascii]
    refine ⟨?_, trivial⟩
    simp only [UInt8.le_iff_toNat_le, UInt8.reduceToNat] at ascii
    simp [Piece.bytes, seen, encode_ofNat (n := b.toNat) (by omega), ascii]
  · rw [first_two low high]
    exact ⟨rfl, completes_two low high⟩
  · rw [first_three low high]
    refine ⟨rfl, completes_three ?_ high ?_ ?_ (fun e0 => by simp [e0])
      (fun ed => by simp [ed])⟩
    · simp only [UInt8.le_iff_toNat_le, UInt8.reduceToNat] at low
      omega
    all_goals split_ifs <;> decide
  · rw [first_four low high]
    refine ⟨rfl, completes_four ?_ high ?_ ?_ (fun f0 => by simp [f0])
      (fun f4 => by simp [f4])⟩
    · simp only [UInt8.le_iff_toNat_le, UInt8.reduceToNat] at low
      omega
    all_goals split_ifs <;> decide
  · rw [first_stray stray]
    exact ⟨rfl, trivial⟩

theorem step_keeps {state : Utf8State} (sound : state.Sound) (b : UInt8) :
    Keeps (state.seen ++ [b]) (state.step b) := by
  cases state with
  | between => exact first_keeps b
  | inside owed low high bits seen =>
    rw [step]
    split_ifs with within
    · cases owed with
      | zero =>
        refine ⟨?_, trivial⟩
        simpa [Piece.bytes, Utf8State.seen] using sound b within.1 within.2
      | succ owed => exact ⟨rfl, sound b within.1 within.2⟩
    · obtain ⟨bytes, sound⟩ := first_keeps b
      exact ⟨by simp [Piece.bytes, Utf8State.seen, ← bytes], sound⟩

/-- A run splits the bytes behind its state and those it is given, and leaves none out. -/
theorem flatMap_run {state : Utf8State} (sound : state.Sound) (bytes : Bytes) :
    (state.run bytes).flatMap Piece.bytes = state.seen ++ bytes := by
  induction bytes generalizing state with
  | nil => cases state <;> simp [run, finish, Piece.bytes, seen]
  | cons b rest ih =>
    obtain ⟨kept, sound⟩ := step_keeps sound b
    rw [run, List.flatMap_append, ih sound, ← List.append_assoc, kept]
    simp

end Utf8State

theorem flatMap_pieces (bytes : Bytes) : (pieces bytes).flatMap Piece.bytes = bytes := by
  have sound : Utf8State.between.Sound := trivial
  rw [pieces_eq_run, Utf8State.flatMap_run sound]
  rfl

namespace Utf8State

theorem run_last {low high b : UInt8} (bits : Nat) (seen rest : Bytes) (lowest : low ≤ b)
    (highest : b ≤ high) :
    run (inside 0 low high bits seen) (b :: rest) =
      .char (Char.ofNat (bits * 64 + (b.toNat - 0x80))) :: run between rest := by
  simp [run, step, lowest, highest]

theorem run_inner {low high b : UInt8} (owed bits : Nat) (seen rest : Bytes) (lowest : low ≤ b)
    (highest : b ≤ high) :
    run (inside (owed + 1) low high bits seen) (b :: rest) =
      run (inside owed 0x80 0xBF (bits * 64 + (b.toNat - 0x80)) (seen ++ [b])) rest := by
  simp [run, step, lowest, highest]

theorem run_first {b : UInt8} {state : Utf8State} (rest : Bytes) (h : first b = ([], state)) :
    run between (b :: rest) = run state rest := by
  simp [run, step, h]

/-- A character's bytes are read as this character, whatever follows them. -/
theorem run_encodeChar (c : Char) (rest : Bytes) :
    run between (String.utf8EncodeChar c ++ rest) = .char c :: run between rest := by
  have valid : c.toNat < 0xD800 ∨ 0xDFFF < c.toNat ∧ c.toNat < 0x110000 := c.valid
  have spelled := encode_ofNat valid
  rw [Char.ofNat_toNat] at spelled
  rw [spelled]
  have same {n : Nat} (h : n = c.toNat) : Char.ofNat n = c := by rw [h, Char.ofNat_toNat]
  -- By size. What is left each time is arithmetic: the bytes are within the bounds of the
  -- states they meet, and their bits make up the character's number.
  split_ifs with one two three
  · rw [List.singleton_append, run, step, first_ascii, same]
    · rfl
    · simp; omega
    · simp [UInt8.le_iff_toNat_le]; omega
  · simp only [List.cons_append, List.nil_append]
    rw [run_first _ (first_two _ _), run_last, same]
    all_goals
      simp [UInt8.le_iff_toNat_le]
      omega
  · simp only [List.cons_append, List.nil_append]
    rw [run_first _ (first_three _ _), run_inner, run_last, same]
    all_goals
      try split_ifs
      all_goals
        simp [UInt8.le_iff_toNat_le, ← UInt8.toNat_inj] at *
        omega
  · simp only [List.cons_append, List.nil_append]
    rw [run_first _ (first_four _ _), run_inner, run_inner, run_last, same]
    all_goals
      try split_ifs
      all_goals
        simp [UInt8.le_iff_toNat_le, ← UInt8.toNat_inj] at *
        omega

end Utf8State

theorem pieces_encodeChars (chars : List Char) :
    pieces (encodeChars chars) = chars.map .char := by
  rw [pieces_eq_run]
  induction chars with
  | nil => rfl
  | cons c rest ih =>
    rw [encodeChars, List.flatMap_cons, Utf8State.run_encodeChar, ← encodeChars, ih]
    rfl

theorem mapM_char?_map (chars : List Char) :
    (chars.map Piece.char).mapM Piece.char? = some chars := by
  induction chars with
  | nil => rfl
  | cons c rest ih => simp [ih, Piece.char?]

theorem eq_map_of_mapM_char? {found : List Piece} {chars : List Char}
    (h : found.mapM Piece.char? = some chars) : found = chars.map .char := by
  induction found generalizing chars with
  | nil =>
    obtain rfl : [] = chars := by simpa using h
    rfl
  | cons piece rest ih =>
    simp only [List.mapM_cons, Option.bind_eq_bind, Option.bind_eq_some_iff, Option.pure_def,
      Option.some.injEq] at h
    obtain ⟨c, first, others, following, rfl⟩ := h
    rw [ih following]
    cases piece with
    | char => simpa [Piece.char?] using first
    | stray => cases first

theorem decode?_encode (text : String) : decode? (encode text) = some text := by
  rw [decode?, encode, pieces_encodeChars, mapM_char?_map, Option.map_some, String.ofList_toList]

/-- Bytes have at most one reading, and are its only spelling. -/
theorem decode?_eq_some_iff {bytes : Bytes} {text : String} :
    decode? bytes = some text ↔ bytes = encode text := by
  constructor
  · intro h
    obtain ⟨chars, read, rfl⟩ := Option.map_eq_some_iff.mp h
    rw [← flatMap_pieces bytes, eq_map_of_mapM_char? read, List.flatMap_map, encode,
      String.toList_ofList]
    rfl
  · rintro rfl
    exact decode?_encode text

theorem encode_injective : Function.Injective encode := by
  intro text other same
  apply Option.some.inj
  rw [← decode?_encode text, same, decode?_encode]

theorem encode_append (front back : String) :
    encode (front ++ back) = encode front ++ encode back := by
  simp [encode, encodeChars]

end FontSubset.Text
