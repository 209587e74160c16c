import FontSubset.Decimal.Binary64
/-! The fewest decimal digits that round back to a given binary number, the nearest
of them if there are several. -/
namespace FontSubset.Decimal

/-- `0.d₁d₂… * 10 ^ point`. -/
structure Digits where
  digits : List Char
  point : Int
  deriving DecidableEq, Repr

def timesTen (a b : Nat) (k : Int) : Nat × Nat :=
  match k with
  | .ofNat k => (a * Nat.pow 10 k, b)
  | .negSucc k => (a, b * Nat.pow 10 (k + 1))

def pointFrom (a b : Nat) : Nat → Int → Int
  | 0, p => p
  | steps + 1, p =>
    let (n, d) := timesTen a b (-p)
    if n < d then p else pointFrom a b steps (p + 1)

namespace Binary64

/-- The open or closed interval of reals that round to `x`, in quarters of its last
place: the ends belong to it iff the mantissa is even. -/
def roundsBack (x : Binary64) (num den : Nat) : Bool :=
  let low := if x.mantissa = Nat.pow 2 52 ∧ -1074 < x.exponent then 4 * x.mantissa - 1
    else 4 * x.mantissa - 2
  let high := 4 * x.mantissa + 2
  let (n, d) := scaled (4 * num) den x.exponent
  if x.mantissa % 2 = 0 then low * d ≤ n && n ≤ high * d else low * d < n && n < high * d

def onGrid? (x : Binary64) (point : Int) (count : Nat) : Option Nat :=
  let (a, b) := x.ratio
  let k : Int := count - point
  let (n, d) := timesTen a b k
  let below := n / d
  let fits (m : Nat) : Bool :=
    let (u, v) := timesTen m 1 (-k)
    x.roundsBack u v
  let nearer := if 2 * (n % d) < d ∨ (2 * (n % d) = d ∧ below % 2 = 0) then below else below + 1
  let other := if nearer = below then below + 1 else below
  if fits nearer then some nearer else if fits other then some other else none

def shortest (x : Binary64) : Digits :=
  let (a, b) := x.ratio
  let lowest : Int := ((Nat.log2 a : Int) - Nat.log2 b) * 30103 / 100000 - 2
  let point := pointFrom a b 8 lowest
  match (List.range 17).findSome? fun i => (x.onGrid? point (i + 1)).map fun m => (i + 1, m) with
  | some (count, m) =>
    let written := Nat.toDigits 10 m
    let trimmed := (written.reverse.dropWhile (· = '0')).reverse
    ⟨trimmed, point + (written.length - count : Int)⟩
  | none => ⟨[], 0⟩

end Binary64

/-- Positional from `10 ^ -5` up to `10 ^ 16`, with a point in every case, and in powers of
ten beyond, whose exponent always has a sign. -/
def layout (d : Digits) : List Char :=
  let count : Int := d.digits.length
  if count ≤ d.point ∧ d.point ≤ 16 then
    d.digits ++ List.replicate (d.point - count).toNat '0' ++ ['.', '0']
  else if 0 < d.point ∧ d.point ≤ 16 then
    d.digits.take d.point.toNat ++ '.' :: d.digits.drop d.point.toNat
  else if -5 < d.point ∧ d.point ≤ 0 then
    ['0', '.'] ++ List.replicate (-d.point).toNat '0' ++ d.digits
  else
    let exponent := (toString (d.point - 1)).toList
    let power := 'e' :: (if 0 < d.point then '+' :: exponent else exponent)
    match d.digits with
    | [] => power
    | [c] => c :: power
    | c :: rest => c :: '.' :: rest ++ power

def text (negative : Bool) (x : Binary64) : String :=
  let body := if x.mantissa = 0 then "0.0".toList else layout x.shortest
  String.ofList (if negative then '-' :: body else body)

end FontSubset.Decimal
