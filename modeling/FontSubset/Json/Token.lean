import FontSubset.Json.Value
/-! JSON text cut into tokens from the left. The first place where no token can
begin or end is marked, and nothing after it is looked at. -/
namespace FontSubset.Json

/-- A number that is too large has no value, nor has a text whose escapes name half a character. -/
inductive Token
  | beginArray
  | endArray
  | beginObject
  | endObject
  | comma
  | colon
  | null
  | bool (b : Bool)
  | number (n : Option Number)
  | text (content : Option String)
  | bad
  deriving DecidableEq, Repr

namespace Token

def isSpace (c : Char) : Bool := c == ' ' || c == '\n' || c == '\t' || c == '\r'

def hexValue? (c : Char) : Option Nat :=
  if '0' ≤ c ∧ c ≤ '9' then some (c.toNat - 48)
  else if 'a' ≤ c ∧ c ≤ 'f' then some (c.toNat - 87)
  else if 'A' ≤ c ∧ c ≤ 'F' then some (c.toNat - 55)
  else none

def hex4? (a b c d : Char) : Option Nat := do
  let a ← hexValue? a
  let b ← hexValue? b
  let c ← hexValue? c
  let d ← hexValue? d
  return ((a * 16 + b) * 16 + c) * 16 + d

def escaped? (c : Char) : Option Char :=
  if c = '"' ∨ c = '\\' ∨ c = '/' then some c
  else if c = 'b' then some '\x08'
  else if c = 'f' then some '\x0c'
  else if c = 'n' then some '\n'
  else if c = 'r' then some '\r'
  else if c = 't' then some '\t'
  else none

def isHighSurrogate (n : Nat) : Bool := 0xD800 ≤ n && n ≤ 0xDBFF
def isLowSurrogate (n : Nat) : Bool := 0xDC00 ≤ n && n ≤ 0xDFFF

inductive CodeUnit
  | char (c : Char)
  | half (n : Nat)
  deriving DecidableEq, Repr

def CodeUnit.ofNat (n : Nat) : CodeUnit :=
  if isHighSurrogate n || isLowSurrogate n then half n else char (Char.ofNat n)

def units? : List Char → Option (List CodeUnit × List Char)
  | '"' :: rest => some ([], rest)
  | '\\' :: 'u' :: a :: b :: c :: d :: rest => do
    let n ← hex4? a b c d
    let (units, rest) ← units? rest
    return (CodeUnit.ofNat n :: units, rest)
  | '\\' :: c :: rest => do
    let c ← escaped? c
    let (units, rest) ← units? rest
    return (.char c :: units, rest)
  | c :: rest =>
    if c = '\\' ∨ c.toNat < 0x20 then none
    else do
      let (units, rest) ← units? rest
      return (.char c :: units, rest)
  | [] => none

def paired? : List CodeUnit → Option (List Char)
  | [] => some []
  | .char c :: rest => (paired? rest).map (c :: ·)
  | .half high :: .half low :: rest =>
    if isHighSurrogate high && isLowSurrogate low then
      (paired? rest).map (Char.ofNat (0x10000 + (high - 0xD800) * 0x400 + (low - 0xDC00)) :: ·)
    else none
  | .half _ :: _ => none

def text? (chars : List Char) : Option (Token × List Char) :=
  (units? chars).map fun (units, rest) => (text ((paired? units).map String.ofList), rest)

def digitValue (c : Char) : Nat := c.toNat - 48

/-- Appends digits to a number as long as it stays below `2 ^ 64`; the rest is left. -/
def accumulate : Nat → List Char → Nat × List Char
  | value, [] => (value, [])
  | value, c :: rest =>
    if value * 10 + digitValue c < UInt64.size then accumulate (value * 10 + digitValue c) rest
    else (value, c :: rest)

def scale (x : Decimal.Binary64) (power : Int) : Nat → Option Decimal.Binary64
  | 0 => some .zero
  | steps + 1 =>
    if x.mantissa = 0 then some x
    else if 308 < power then none
    else if power < -308 then
      (Decimal.Binary64.powerOfTen 308).bind fun p => (x.div p).bind fun y =>
        scale y (power + 308) steps
    else (Decimal.Binary64.powerOfTen power.natAbs).bind fun p =>
      if power < 0 then x.div p else x.mul p

def real? (negative : Bool) (significand : Nat) (power : Int) : Option Number := do
  let x ← Decimal.Binary64.ofRatio significand 1
  let y ← scale x power 4
  return .real negative y

/-- The number that a sign, an integer part, a fraction and an exponent spell. A
fraction or an exponent, or an integer beyond 64 bits, makes it real, and so does a
minus before a zero. Digits beyond 64 bits only count as places. -/
def numberOf (negative : Bool) (whole : List Char) (fraction : Option (List Char))
    (exponent : Option (Bool × List Char)) : Option Number :=
  let (value, surplus) := accumulate 0 whole
  match fraction, exponent, surplus with
  | none, none, [] =>
    if !negative then some (.integer value)
    else if value = 0 ∨ Nat.pow 2 63 < value then
      (Decimal.Binary64.ofRatio value 1).map (.real true)
    else some (.integer (-value))
  | _, _, _ =>
    let (value, unread) := accumulate value (fraction.getD [])
    let places : Int := (fraction.getD []).length - unread.length
    let power : Int := surplus.length - places
    match exponent with
    | none => real? negative value power
    | some (minus, digits) =>
      let (size, beyond) := accumulate 0 digits
      if beyond ≠ [] ∨ Nat.pow 2 31 ≤ size then
        if value = 0 ∨ minus then some (.real negative .zero) else none
      else real? negative value (if minus then power - size else power + size)

def digits (chars : List Char) : List Char × List Char :=
  (chars.takeWhile Char.isDigit, chars.dropWhile Char.isDigit)

def fraction? : List Char → Option (Option (List Char) × List Char)
  | '.' :: rest =>
    let (ds, rest) := digits rest
    if ds = [] then none else some (some ds, rest)
  | chars => some (none, chars)

def exponent? : List Char → Option (Option (Bool × List Char) × List Char)
  | c :: rest =>
    if c = 'e' ∨ c = 'E' then
      let (minus, rest) := match rest with
        | '-' :: rest => (true, rest)
        | '+' :: rest => (false, rest)
        | _ => (false, rest)
      let (ds, rest) := digits rest
      if ds = [] then none else some (some (minus, ds), rest)
    else some (none, c :: rest)
  | [] => some (none, [])

def unsigned? (negative : Bool) (chars : List Char) : Option (Token × List Char) := do
  let (whole, rest) := digits chars
  if whole = [] ∨ (whole.head? = some '0' ∧ whole.length ≠ 1) then none
  else
    let (fraction, rest) ← fraction? rest
    let (exponent, rest) ← exponent? rest
    return (number (numberOf negative whole fraction exponent), rest)

def word? (token : Token) (letters chars : List Char) : Option (Token × List Char) :=
  if letters.isPrefixOf chars then some (token, chars.drop letters.length) else none

def next? (c : Char) (rest : List Char) : Option (Token × List Char) :=
  match c with
  | '[' => some (beginArray, rest)
  | ']' => some (endArray, rest)
  | '{' => some (beginObject, rest)
  | '}' => some (endObject, rest)
  | ',' => some (comma, rest)
  | ':' => some (colon, rest)
  | '"' => text? rest
  | 'n' => word? null ['u', 'l', 'l'] rest
  | 't' => word? (bool true) ['r', 'u', 'e'] rest
  | 'f' => word? (bool false) ['a', 'l', 's', 'e'] rest
  | '-' => unsigned? true rest
  | c => if c.isDigit then unsigned? false (c :: rest) else none

/-- Cuts a text into tokens, `bad` standing last if it cannot be cut to its end.
Every token takes a character, so as many steps as characters are enough. -/
def scan : Nat → List Char → List Token
  | 0, _ => []
  | _, [] => []
  | steps + 1, c :: rest =>
    if isSpace c then scan steps rest
    else match next? c rest with
      | some (token, rest) => token :: scan steps rest
      | none => [bad]

def ofChars (chars : List Char) : List Token := scan chars.length chars

end Token
end FontSubset.Json
