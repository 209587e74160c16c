/-! UTF-8 read one byte at a time. Every byte string splits into characters and
ill-formed stretches, each stretch being as long as some character could still
begin with it; `lossy` shows a stretch as one U+FFFD. -/
namespace FontSubset

abbrev Bytes := List UInt8

namespace Text

inductive Piece
  | char (c : Char)
  | stray (bytes : Bytes)
  deriving DecidableEq, Repr

/-- Where a reader stands: between characters, or owing `owed + 1` bytes, the next
one from `low` to `high`, with `seen` behind it and their bits in `bits`. -/
inductive Utf8State
  | between
  | inside (owed : Nat) (low high : UInt8) (bits : Nat) (seen : Bytes)

namespace Utf8State

def first (b : UInt8) : List Piece × Utf8State :=
  if b ≤ 0x7F then ([.char (Char.ofNat b.toNat)], between)
  else if b < 0xC2 then ([.stray [b]], between)
  else if b ≤ 0xDF then ([], inside 0 0x80 0xBF (b.toNat - 0xC0) [b])
  else if b = 0xE0 then ([], inside 1 0xA0 0xBF 0 [b])
  else if b = 0xED then ([], inside 1 0x80 0x9F 0xD [b])
  else if b ≤ 0xEF then ([], inside 1 0x80 0xBF (b.toNat - 0xE0) [b])
  else if b = 0xF0 then ([], inside 2 0x90 0xBF 0 [b])
  else if b ≤ 0xF3 then ([], inside 2 0x80 0xBF (b.toNat - 0xF0) [b])
  else if b = 0xF4 then ([], inside 2 0x80 0x8F 4 [b])
  else ([.stray [b]], between)

def step : Utf8State → UInt8 → List Piece × Utf8State
  | between, b => first b
  | inside owed low high bits seen, b =>
    if low ≤ b ∧ b ≤ high then
      let bits := bits * 64 + (b.toNat - 0x80)
      match owed with
      | 0 => ([.char (Char.ofNat bits)], between)
      | owed + 1 => ([], inside owed 0x80 0xBF bits (seen ++ [b]))
    else
      let (pieces, state) := first b
      (.stray seen :: pieces, state)

def finish : Utf8State → List Piece
  | between => []
  | inside _ _ _ _ seen => [.stray seen]

def run : Utf8State → Bytes → List Piece
  | state, [] => state.finish
  | state, b :: rest => (state.step b).1 ++ run (state.step b).2 rest

/-- `run` in front of which stand pieces already read, the last one first. -/
def runOnto (done : List Piece) : Utf8State → Bytes → List Piece
  | state, [] => (state.finish.reverse ++ done).reverse
  | state, b :: rest => runOnto ((state.step b).1.reverse ++ done) (state.step b).2 rest

theorem runOnto_eq (done : List Piece) (state : Utf8State) (bytes : Bytes) :
    runOnto done state bytes = done.reverse ++ run state bytes := by
  induction bytes generalizing done state with
  | nil => simp [runOnto, run]
  | cons b rest ih => simp [runOnto, run, ih]

end Utf8State

def pieces (bytes : Bytes) : List Piece := Utf8State.runOnto [] .between bytes

theorem pieces_eq_run (bytes : Bytes) : pieces bytes = Utf8State.run .between bytes := by
  simp [pieces, Utf8State.runOnto_eq]

def replacement : Char := '\uFFFD'

def Piece.char? : Piece → Option Char
  | char c => some c
  | stray _ => none

def Piece.shown : Piece → Char
  | char c => c
  | stray _ => replacement

def encodeChars (chars : List Char) : Bytes := chars.flatMap String.utf8EncodeChar

def encode (text : String) : Bytes := encodeChars text.toList

def decode? (bytes : Bytes) : Option String := ((pieces bytes).mapM Piece.char?).map String.ofList

def lossyChars (bytes : Bytes) : List Char := (pieces bytes).map Piece.shown

def lossy (bytes : Bytes) : String := String.ofList (lossyChars bytes)

/-! Bytes seen as characters of the same numbers, for texts that are only looked at byte
by byte. -/

def octets (bytes : Bytes) : String := String.ofList (bytes.map fun b => Char.ofNat b.toNat)

def ofOctets (text : String) : Bytes := text.toList.map fun c => UInt8.ofNat c.toNat

end Text
end FontSubset
