/-! Numbers at the front of texts. -/
namespace FontSubset.Shell.Numeral

def isBlank (c : Char) : Bool := c == ' ' || ('\t' ≤ c && c ≤ '\r')

def digit? (base : Nat) (c : Char) : Option Nat :=
  let value :=
    if c.isDigit then c.toNat - '0'.toNat
    else if c.isAlpha then c.toLower.toNat - 'a'.toNat + 10
    else base
  if value < base then some value else none

def digits (base value : Nat) : List Char → Nat × List Char
  | [] => (value, [])
  | c :: rest =>
    match digit? base c with
    | some d => digits base (base * value + d) rest
    | none => (value, c :: rest)

def decimal? : List Char → Option (Nat × List Char)
  | [] => none
  | c :: rest => if c.isDigit then some (digits 10 0 (c :: rest)) else none

/-- Hexadecimal behind `0x`, octal behind a zero, or decimal. -/
def literal? (chars : List Char) : Option (Nat × List Char) :=
  match chars with
  | '0' :: x :: c :: rest =>
    if (x == 'x' || x == 'X') && (digit? 16 c).isSome then some (digits 16 0 (c :: rest))
    else some (digits 8 0 chars)
  | '0' :: _ => some (digits 8 0 chars)
  | _ => decimal? chars

def signed? (natural? : List Char → Option (Nat × List Char)) (chars : List Char) :
    Option (Int × List Char) :=
  match chars.dropWhile isBlank with
  | '-' :: rest => (natural? rest).map fun (n, rest) => (-(n : Int), rest)
  | '+' :: rest => (natural? rest).map fun (n, rest) => ((n : Int), rest)
  | rest => (natural? rest).map fun (n, rest) => ((n : Int), rest)

def isWord (n : Int) : Bool := Int64.minValue.toInt ≤ n && n ≤ Int64.maxValue.toInt

def clamped (n : Int) : Int := max Int64.minValue.toInt (min n Int64.maxValue.toInt)

def whole? (natural? : List Char → Option (Nat × List Char)) (text : String) : Option Int :=
  match signed? natural? text.toList with
  | some (n, rest) => if rest.all isBlank && isWord n then some n else none
  | none => none

def count? (text : String) : Option Nat :=
  (whole? decimal? text).bind fun n => if 0 ≤ n && n < 2147483648 then some n.toNat else none

def natural? (text : String) : Option Nat :=
  match decimal? text.toList with
  | some (n, []) => some n
  | _ => none

end FontSubset.Shell.Numeral
