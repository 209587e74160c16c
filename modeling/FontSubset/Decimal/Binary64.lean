/-! Numbers of 53 binary places, rounded to nearest with ties to even, in exact
natural arithmetic. They serve to name a number of a text that is no integer. -/
namespace FontSubset.Decimal

/-- `mantissa * 2 ^ exponent`, the mantissa below `2 ^ 53`. -/
structure Binary64 where
  mantissa : Nat
  exponent : Int
  deriving DecidableEq, Repr

namespace Binary64

def zero : Binary64 := ⟨0, -1074⟩

/-- `num / den` to the nearest integer, a half going to the even neighbour. -/
def nearest (num den : Nat) : Nat :=
  let q := num / den
  let r := num % den
  if 2 * r < den then q
  else if den < 2 * r then q + 1
  else q + q % 2

def scaled (num den : Nat) (e : Int) : Nat × Nat :=
  match e with
  | .ofNat k => (num, den * Nat.pow 2 k)
  | .negSucc k => (num * Nat.pow 2 (k + 1), den)

/-- The number nearest to `num / den`; `none` beyond the largest. -/
def ofRatio (num den : Nat) : Option Binary64 :=
  if num = 0 then some zero else
  let guess : Int := max (Nat.log2 num - Nat.log2 den - 53) (-1074)
  let (n, d) := scaled num den guess
  let e := if Nat.pow 2 53 ≤ n / d then guess + 1 else guess
  let (n, d) := scaled num den e
  let m := nearest n d
  let (m, e) := if m = Nat.pow 2 53 then (Nat.pow 2 52, e + 1) else (m, e)
  if 971 < e then none else some ⟨m, e⟩

def ratio (x : Binary64) : Nat × Nat :=
  match x.exponent with
  | .ofNat k => (x.mantissa * Nat.pow 2 k, 1)
  | .negSucc k => (x.mantissa, Nat.pow 2 (k + 1))

def mul (x y : Binary64) : Option Binary64 :=
  let (a, b) := x.ratio
  let (c, d) := y.ratio
  ofRatio (a * c) (b * d)

def div (x y : Binary64) : Option Binary64 :=
  let (a, b) := x.ratio
  let (c, d) := y.ratio
  ofRatio (a * d) (b * c)

def powerOfTen (k : Nat) : Option Binary64 := ofRatio (Nat.pow 10 k) 1

end Binary64
end FontSubset.Decimal
