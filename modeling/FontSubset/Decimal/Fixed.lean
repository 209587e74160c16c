import FontSubset.Decimal.Shortest
/-! Numbers written with a given count of decimal places, rounded to the nearest with ties to
even. -/
namespace FontSubset.Decimal

def pointed (places : Nat) (n : Nat) : List Char :=
  let digits := Nat.toDigits 10 n
  let digits := List.replicate (places + 1 - digits.length) '0' ++ digits
  let whole := digits.take (digits.length - places)
  if places = 0 then whole else whole ++ '.' :: digits.drop whole.length

def fixed (num den places : Nat) : List Char :=
  pointed places (Binary64.nearest (num * Nat.pow 10 places) den)

/-- The digits of `num / den` as one digit and some places behind it, and the power of ten that
the first digit counts. -/
def scientific (num den places : Nat) : Nat × Int :=
  if num = 0 then (0, 0)
  else
    let lowest : Int := ((Nat.log2 num : Int) - Nat.log2 den) * 30103 / 100000 - 2
    let power := pointFrom num den 8 lowest - 1
    let (n, d) := timesTen num den (places - power)
    let digits := Binary64.nearest n d
    if digits = Nat.pow 10 (places + 1) then (Nat.pow 10 places, power + 1) else (digits, power)

def exponent (power : Int) : List Char :=
  let digits := Nat.toDigits 10 power.natAbs
  (if power < 0 then '-' else '+') :: List.replicate (2 - digits.length) '0' ++ digits

def withoutZeros (digits : List Char) : List Char :=
  if digits.contains '.' then
    ((digits.reverse.dropWhile (· == '0')).dropWhile (· == '.')).reverse
  else digits

def inScience (num den places : Nat) : List Char :=
  let (digits, power) := scientific num den places
  pointed places digits ++ 'e' :: exponent power

/-- `num / den` with a number of significant digits, with a power of ten only if it is small or
has more digits before the point. Zeros at the end are left out. -/
def significant (num den count : Nat) : List Char :=
  let count := max count 1
  let (digits, power) := scientific num den (count - 1)
  if -4 ≤ power && power < count then withoutZeros (fixed num den (count - 1 - power).toNat)
  else withoutZeros (pointed (count - 1) digits) ++ 'e' :: exponent power

end FontSubset.Decimal
