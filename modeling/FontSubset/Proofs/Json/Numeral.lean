import FontSubset.Proofs.Json.Atoms
/-! The numerals of JSON: digits after an optional minus, and then perhaps a fraction and an
exponent. A numeral is one token, and it is an integer just when it is written as an integer of
64 bits is. -/
namespace FontSubset.Json
open Token (Lexes Stops)

def IsDigits (chars : List Char) : Prop := chars ≠ [] ∧ ∀ c ∈ chars, c.isDigit = true

structure Exponent where
  marker : Char
  sign : Option Char
  digits : List Char
  marker_eq : marker = 'e' ∨ marker = 'E'
  sign_eq : ∀ c ∈ sign, c = '+' ∨ c = '-'
  isDigits : IsDigits digits

/-- The integer part has no zero in front unless it is one. -/
structure Numeral where
  negative : Bool
  whole : List Char
  fraction : Option (List Char)
  exponent : Option Exponent
  whole_isDigits : IsDigits whole
  whole_eq_zero : whole.head? = some '0' → whole = ['0']
  fraction_isDigits : ∀ digits ∈ fraction, IsDigits digits

namespace Exponent

def chars (exponent : Exponent) : List Char :=
  exponent.marker :: (exponent.sign.toList ++ exponent.digits)

def isNegative (exponent : Exponent) : Bool := exponent.sign == some '-'

end Exponent

namespace Numeral

variable (numeral : Numeral)

def fractionChars : List Char := (numeral.fraction.map ('.' :: ·)).getD []

def exponentChars : List Char := (numeral.exponent.map Exponent.chars).getD []

def unsignedChars : List Char := numeral.whole ++ (numeral.fractionChars ++ numeral.exponentChars)

def chars : List Char :=
  if numeral.negative then '-' :: numeral.unsignedChars else numeral.unsignedChars

/-- The number that a reader takes the numeral for, if it is not too large. -/
def number? : Option Number :=
  Token.numberOf numeral.negative numeral.whole numeral.fraction
    (numeral.exponent.map fun exponent => (exponent.isNegative, exponent.digits))

end Numeral

end FontSubset.Json

namespace FontSubset.Json.Token

/-! Each part of a numeral ends where the next begins. -/

theorem digits_of_isDigits {front rest : List Char} (all : IsDigits front)
    (stop : ∀ c ∈ rest.head?, c.isDigit = false) : digits (front ++ rest) = (front, rest) :=
  digits_append all.2 stop

theorem exponent?_chars (exponent : Exponent) {rest : List Char} (stop : Stops rest) :
    exponent? (exponent.chars ++ rest) =
      some (some (exponent.isNegative, exponent.digits), rest) := by
  obtain ⟨marker, sign, ds, marked, signed, isDigits⟩ := exponent
  have cut : digits (ds ++ rest) = (ds, rest) := digits_of_isDigits isDigits stop.not_digit
  simp only [Exponent.chars, Exponent.isNegative, List.cons_append, List.append_assoc]
  cases sign with
  | none =>
    -- The first digit is no sign.
    have unsigned (c : Char) (other : c.isDigit = false) (after : List Char) :
        ds ++ rest ≠ c :: after := by
      cases ds with
      | nil => exact absurd rfl isDigits.1
      | cons d ds =>
        rintro ⟨⟩
        exact Bool.false_ne_true (other.symm.trans (isDigits.2 _ List.mem_cons_self))
    rw [Option.toList, List.nil_append, exponent?.eq_3 _ _ (unsigned '-' rfl) (unsigned '+' rfl),
      if_pos marked, cut]
    exact if_neg isDigits.1
  | some c =>
    rw [Option.toList, List.singleton_append]
    obtain rfl | rfl := signed c rfl
    · rw [exponent?.eq_2, if_pos marked, cut]
      exact if_neg isDigits.1
    · rw [exponent?.eq_1, if_pos marked, cut]
      exact if_neg isDigits.1

end FontSubset.Json.Token

namespace FontSubset.Json.Numeral
open Token

variable (numeral : Numeral) {rest : List Char}

theorem exponent?_exponentChars (stop : Stops rest) :
    exponent? (numeral.exponentChars ++ rest) =
      some (numeral.exponent.map fun exponent => (exponent.isNegative, exponent.digits), rest) := by
  unfold exponentChars
  cases numeral.exponent with
  | none => exact exponent?_of_stops stop
  | some exponent => exact exponent?_chars exponent stop

/-- Neither a digit nor a point begins an exponent. -/
theorem head?_exponentChars (stop : Stops rest) :
    ∀ c ∈ (numeral.exponentChars ++ rest).head?, c.isDigit = false ∧ c ≠ '.' := by
  unfold exponentChars
  cases numeral.exponent with
  | none =>
    cases rest with
    | nil => exact nofun
    | cons d rest =>
      rintro c ⟨⟩
      exact ⟨stop.1, stop.2.1⟩
  | some exponent =>
    rintro c ⟨⟩
    obtain marked | marked := exponent.marker_eq <;> rw [marked] <;> decide

theorem fraction?_fractionChars (stop : Stops rest) :
    fraction? (numeral.fractionChars ++ (numeral.exponentChars ++ rest)) =
      some (numeral.fraction, numeral.exponentChars ++ rest) := by
  have head := numeral.head?_exponentChars stop
  unfold fractionChars
  cases written : numeral.fraction with
  | none =>
    simp only [Option.map_none, Option.getD_none, List.nil_append]
    generalize numeral.exponentChars ++ rest = after at head ⊢
    unfold fraction?
    split
    · exact absurd rfl (head '.' rfl).2
    · rfl
  | some ds =>
    have sound : IsDigits ds := numeral.fraction_isDigits ds written
    have cut := digits_of_isDigits sound fun c first => (head c first).1
    simp only [Option.map_some, Option.getD_some, List.cons_append, fraction?, cut,
      if_neg sound.1]

theorem head?_fractionChars (stop : Stops rest) :
    ∀ c ∈ (numeral.fractionChars ++ (numeral.exponentChars ++ rest)).head?, c.isDigit = false := by
  unfold fractionChars
  cases numeral.fraction with
  | none => exact fun c first => (numeral.head?_exponentChars stop c first).1
  | some ds =>
    rintro c ⟨⟩
    rfl

theorem unsigned?_unsignedChars (stop : Stops rest) :
    unsigned? numeral.negative (numeral.unsignedChars ++ rest) =
      some (number numeral.number?, rest) := by
  have cut := digits_of_isDigits numeral.whole_isDigits (numeral.head?_fractionChars stop)
  have sound : ¬(numeral.whole = [] ∨
      (numeral.whole.head? = some '0' ∧ numeral.whole.length ≠ 1)) := by
    rintro (none | ⟨zero, long⟩)
    · exact numeral.whole_isDigits.1 none
    · rw [numeral.whole_eq_zero zero] at long
      exact long rfl
  simp only [unsigned?, unsignedChars, List.append_assoc, cut, if_neg sound,
    numeral.fraction?_fractionChars stop, numeral.exponent?_exponentChars stop, number?,
    Option.bind_eq_bind, Option.bind_some, Option.pure_def]

theorem lexes : Lexes numeral.chars [number numeral.number?] := by
  have read (rest : List Char) (stop : Stops rest) := numeral.unsigned?_unsignedChars stop
  unfold chars
  cases sign : numeral.negative with
  | true =>
    rw [sign] at read
    exact Lexes.single _ read rfl
  | false =>
    rw [sign] at read
    obtain ⟨some, all⟩ := numeral.whole_isDigits
    unfold unsignedChars at read ⊢
    cases spelled : numeral.whole with
    | nil => exact absurd spelled some
    | cons c front =>
      rw [spelled] at read all
      have digit : c.isDigit = true := all c List.mem_cons_self
      refine Lexes.single _ (fun rest stop => ?_) (isSpace_digit digit)
      rw [next?_digit digit]
      exact read rest stop

end FontSubset.Json.Numeral

namespace FontSubset.Json.Token

/-! An integer of 64 bits has no other numeral than the one that it is written as. -/

theorem digitChar_digitValue {c : Char} (digit : c.isDigit) :
    digitValue c < 10 ∧ (digitValue c).digitChar = c := by
  obtain ⟨low, high⟩ := Bool.and_eq_true_iff.mp digit
  have low : 48 ≤ c.toNat := UInt32.le_iff_toNat_le.mp (of_decide_eq_true low)
  have high : c.toNat ≤ 57 := UInt32.le_iff_toNat_le.mp (of_decide_eq_true high)
  rw [← Char.ofNat_toNat c]
  interval_cases c.toNat <;> decide

theorem accumulate_lt {value sum : Nat} {digits rest : List Char} (small : value < UInt64.size)
    (h : accumulate value digits = (sum, rest)) : sum < UInt64.size := by
  induction digits generalizing value with
  | nil =>
    cases h
    exact small
  | cons c digits ih =>
    rw [accumulate] at h
    split_ifs at h with fits
    · exact ih fits h
    · cases h
      exact small

theorem toDigits_accumulate {value sum : Nat} {digits : List Char} (positive : 0 < value)
    (all : ∀ c ∈ digits, c.isDigit = true) (h : accumulate value digits = (sum, [])) :
    Nat.toDigits 10 value ++ digits = Nat.toDigits 10 sum := by
  induction digits generalizing value with
  | nil =>
    cases h
    exact List.append_nil _
  | cons c digits ih =>
    obtain ⟨digit, all⟩ := List.forall_mem_cons.mp all
    obtain ⟨small, char⟩ := digitChar_digitValue digit
    rw [accumulate] at h
    split_ifs at h with fits
    · have one : Nat.toDigits 10 (digitValue c) = [c] := by
        rw [Nat.toDigits_of_lt_base small, char]
      calc
        Nat.toDigits 10 value ++ c :: digits
          = Nat.toDigits 10 value ++ Nat.toDigits 10 (digitValue c) ++ digits := by
            rw [one, List.append_assoc, List.singleton_append]
        _ = Nat.toDigits 10 (value * 10 + digitValue c) ++ digits := by
            rw [Nat.toDigits_append_toDigits (by decide) positive small, Nat.mul_comm]
        _ = Nat.toDigits 10 sum := ih (by omega) all h
    · cases h

theorem real?_ne_integer (negative : Bool) (significand : Nat) (power n : Int) :
    real? negative significand power ≠ some (.integer n) := by
  intro h
  obtain ⟨x, -, h⟩ := Option.bind_eq_some_iff.mp h
  obtain ⟨y, -, ⟨⟩⟩ := Option.bind_eq_some_iff.mp h

theorem numberOf_eq_integer {negative : Bool} {whole : List Char} {fraction : Option (List Char)}
    {exponent : Option (Bool × List Char)} {n : Int}
    (h : numberOf negative whole fraction exponent = some (.integer n)) :
    (fraction = none ∧ exponent = none) ∧ ∃ value, accumulate 0 whole = (value, []) ∧
      ((negative = false ∧ n = value) ∨
        (negative = true ∧ 0 < value ∧ value ≤ 2 ^ 63 ∧ n = -value)) := by
  unfold numberOf at h
  split at h
  rename_i value surplus read
  split at h
  · refine ⟨⟨rfl, rfl⟩, value, read, ?_⟩
    split_ifs at h with sign outside
    · cases h
      exact .inl ⟨by simpa using sign, rfl⟩
    · obtain ⟨x, -, ⟨⟩⟩ := Option.map_eq_some_iff.mp h
    · cases h
      obtain ⟨some, within⟩ := not_or.mp outside
      exact .inr ⟨by simpa using sign, Nat.pos_of_ne_zero some, not_lt.mp within, rfl⟩
  · -- Anything else is real, or nothing.
    simp only at h
    split at h
    · exact absurd h (real?_ne_integer _ _ _ _)
    · split_ifs at h
      · cases h
      all_goals exact absurd h (real?_ne_integer _ _ _ _)

end FontSubset.Json.Token

namespace FontSubset.Json.Numeral
open Token

variable {numeral : Numeral}

theorem whole_eq_toDigits {value : Nat} (read : accumulate 0 numeral.whole = (value, [])) :
    numeral.whole = Nat.toDigits 10 value := by
  obtain ⟨some, all⟩ := numeral.whole_isDigits
  cases spelled : numeral.whole with
  | nil => exact absurd spelled some
  | cons c front =>
    rw [spelled] at all read
    obtain ⟨digit, all⟩ := List.forall_mem_cons.mp all
    obtain ⟨small, char⟩ := digitChar_digitValue digit
    obtain zero | positive := (digitValue c).eq_zero_or_pos
    · rw [zero] at char
      subst char
      have alone := numeral.whole_eq_zero (by rw [spelled]; rfl)
      rw [spelled] at alone
      cases alone
      cases read
      rfl
    · rw [accumulate, Nat.zero_mul, Nat.zero_add, if_pos (small.trans (by decide))] at read
      rw [← toDigits_accumulate positive all read, Nat.toDigits_of_lt_base small, char]
      rfl

/-- A numeral is taken for an integer just when it is written as the integer is: without a
fraction, an exponent, or a minus before a zero. -/
theorem number?_eq_integer_iff {n : Int} :
    numeral.number? = some (.integer n) ↔
      IsInteger n ∧ numeral.chars = (toString n).toList := by
  constructor
  · intro h
    obtain ⟨⟨noFraction, noExponent⟩, value, read, spelled⟩ := numberOf_eq_integer h
    have small : value < 2 ^ 64 := accumulate_lt (by decide) read
    have whole := whole_eq_toDigits read
    have noExponent : numeral.exponent = none := Option.map_eq_none_iff.mp noExponent
    have digits : numeral.unsignedChars = Nat.toDigits 10 value := by
      simp only [unsignedChars, fractionChars, exponentChars, noFraction, noExponent, whole,
        Option.map_none, Option.getD_none, List.append_nil]
    unfold chars
    rw [digits]
    obtain ⟨plus, rfl⟩ | ⟨minus, positive, within, rfl⟩ := spelled
    · rw [plus, toList_toString_natCast]
      exact ⟨⟨by omega, by omega⟩, rfl⟩
    · rw [minus, toList_toString_neg positive]
      exact ⟨⟨by omega, by omega⟩, rfl⟩
  · rintro ⟨isInteger, spelled⟩
    have cut := numeral.lexes.ofChars_eq
    rw [spelled, (lexes_integer isInteger).ofChars_eq] at cut
    exact (number.inj (List.cons.inj cut).1).symm

end FontSubset.Json.Numeral
